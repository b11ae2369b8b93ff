import Massless.Http.Head

namespace http

/-- The final response to a request, and what follows it: interim responses come
before it, each of which takes some fuel. -/
def read_final : Nat → Bool → Octets → Option (Message × Octets)
  | 0, _, _ => none
  | fuel + 1, head_request, data => do
    let (status, _) ← read_head data
    let (message, rest) ← read_message head_request data
    if status / 100 = 1 then read_final fuel head_request rest else some (message, rest)

/-- The final responses to the requests made, and what follows the last of them. -/
def read_finals (fuel : Nat) : List Bool → Octets → Option (List Message × Octets)
  | [], data => some ([], data)
  | head_request :: later, data => do
    let (message, rest) ← read_final fuel head_request data
    let (messages, left) ← read_finals fuel later rest
    some (message :: messages, left)

/-- A client with more fuel reads the same. -/
theorem read_final_mono {fuel more : Nat} {head_request : Bool} {data : Octets}
    {found : Message × Octets} (hread : read_final fuel head_request data = some found)
    (hle : fuel ≤ more) : read_final more head_request data = some found := by
  induction fuel generalizing more data with
  | zero => cases hread
  | succ fuel ih =>
    obtain ⟨more, rfl⟩ : ∃ n, more = n + 1 := ⟨more - 1, by omega⟩
    simp only [read_final, Option.bind_eq_bind, Option.bind_eq_some_iff] at hread ⊢
    obtain ⟨head, hhead, message, hmessage, hrest⟩ := hread
    refine ⟨head, hhead, message, hmessage, ?_⟩
    split at hrest
    · rename_i hinterim
      rw [if_pos hinterim]
      exact ih hrest (by omega)
    · rename_i hfinal
      rwa [if_neg hfinal]

theorem read_finals_mono {fuel more : Nat} {head_requests : List Bool} {data : Octets}
    {found : List Message × Octets} (hread : read_finals fuel head_requests data = some found)
    (hle : fuel ≤ more) : read_finals more head_requests data = some found := by
  induction head_requests generalizing data found with
  | nil => exact hread
  | cons head_request later ih =>
    simp only [read_finals, Option.bind_eq_bind, Option.bind_eq_some_iff] at hread ⊢
    obtain ⟨first, hfirst, messages, hlater, hfound⟩ := hread
    exact ⟨first, read_final_mono hfirst hle, messages, ih hlater, hfound⟩

/-- One piece of what a server writes: an interim response, or a final one. -/
inductive Piece where
  | interim (wire : Octets)
  | final (writing : Writing)

namespace Piece

def wire : Piece → Octets
  | .interim wire => wire
  | .final writing => writing.wire

def writing? : Piece → Option Writing
  | .interim _ => none
  | .final writing => some writing

def interim? : Piece → Option Octets
  | .interim wire => some wire
  | .final _ => none

/-- A client that finds `rest` behind a piece reads the piece for what it is. -/
def Readable (rest : Octets) : Piece → Prop
  | .interim wire => ∀ head_request, ∃ head, read_head (wire ++ rest) = some head ∧
      head.1 / 100 = 1 ∧ read_message head_request (wire ++ rest) = some (⟨wire, []⟩, rest)
  | .final writing => (∃ head, read_head (writing.wire ++ rest) = some head ∧ head.1 / 100 ≠ 1) ∧
      writing.Framed rest

end Piece

/-- Each piece is read for what it is in front of the others. -/
def Spelled : List Piece → Prop
  | [] => True
  | piece :: later => piece.Readable (later.flatMap Piece.wire) ∧ Spelled later

theorem read_final_interim {wire rest : Octets} (hreadable : (Piece.interim wire).Readable rest)
    (fuel : Nat) (head_request : Bool) :
    read_final (fuel + 1) head_request (wire ++ rest) = read_final fuel head_request rest := by
  obtain ⟨head, hhead, hinterim, hmessage⟩ := hreadable head_request
  simp [read_final, hhead, hmessage, hinterim]

theorem read_final_writing {writing : Writing} {rest : Octets}
    (hreadable : (Piece.final writing).Readable rest) (fuel : Nat) :
    read_final (fuel + 1) writing.head_request (writing.wire ++ rest) =
      some (⟨writing.wire, writing.body⟩, rest) := by
  obtain ⟨⟨head, hhead, hfinal⟩, hframed⟩ := hreadable
  have hmessage : read_message writing.head_request (writing.wire ++ rest) =
      some (⟨writing.wire, writing.body⟩, rest) := hframed
  simp [read_final, hhead, hmessage, hfinal]

/-- A head of whole lines with an interim status is read for what it is. -/
theorem readable_interim {start : Octets} {lines : List Octets} {status : Nat}
    (hlines : ∀ line ∈ start :: lines, Unbroken line) (hstatus : parse_status start = some status)
    (hinterim : status / 100 = 1) (rest : Octets) :
    (Piece.interim (block (start :: lines) ++ crlf)).Readable rest := by
  intro head_request
  refine ⟨_, read_head_block hlines hstatus rest, hinterim, ?_⟩
  have hempty : body_length head_request status (read_fields lines) = .empty := by
    have hbodiless : Bodiless head_request status := Or.inr (Or.inl hinterim)
    rw [body_length, if_pos hbodiless]
  have hframed := (framed_iff hlines hstatus hempty [] rest).mpr rfl
  simpa only [Writing.Framed, if_true, List.append_nil] using hframed

/-- An interim response before a final one is passed over. -/
theorem read_finals_interim {wire rest : Octets} (hreadable : (Piece.interim wire).Readable rest)
    {fuel : Nat} {head_requests : List Bool} (hmore : head_requests ≠ [])
    {found : List Message × Octets} (hread : read_finals fuel head_requests rest = some found) :
    read_finals (fuel + 1) head_requests (wire ++ rest) = some found := by
  cases head_requests with
  | nil => exact absurd rfl hmore
  | cons head_request later =>
    simp only [read_finals, Option.bind_eq_bind, Option.bind_eq_some_iff] at hread ⊢
    obtain ⟨first, hfirst, messages, hlater, hfound⟩ := hread
    refine ⟨first, ?_, messages, read_finals_mono hlater (Nat.le_succ fuel), hfound⟩
    rw [read_final_interim hreadable, hfirst]

theorem flatMap_wire_eq {pieces : List Piece} (hnone : pieces.filterMap Piece.writing? = []) :
    pieces.flatMap Piece.wire = (pieces.filterMap Piece.interim?).flatten := by
  induction pieces with
  | nil => rfl
  | cons piece later ih =>
    cases piece with
    | interim wire =>
      have hlater : later.filterMap Piece.writing? = [] := by
        simpa [Piece.writing?] using hnone
      simp [Piece.wire, Piece.interim?, ih hlater]
    | final writing => simp [Piece.writing?] at hnone

/-- A client that skips the interim responses reads the final ones as they were
written, and is left with the interim responses behind the last. -/
theorem read_finals_pieces {pieces : List Piece} (hspelled : Spelled pieces) :
    ∃ behind, behind <:+ pieces.filterMap Piece.interim? ∧ ∀ fuel, pieces.length < fuel →
      read_finals fuel ((pieces.filterMap Piece.writing?).map Writing.head_request)
          (pieces.flatMap Piece.wire) =
        some ((pieces.filterMap Piece.writing?).map fun writing => ⟨writing.wire, writing.body⟩,
          behind.flatten) := by
  -- As much fuel as there are pieces is enough, and more does not hurt.
  suffices hread : ∃ behind, behind <:+ pieces.filterMap Piece.interim? ∧
      read_finals (pieces.length + 1) ((pieces.filterMap Piece.writing?).map Writing.head_request)
          (pieces.flatMap Piece.wire) =
        some ((pieces.filterMap Piece.writing?).map fun writing => ⟨writing.wire, writing.body⟩,
          behind.flatten) by
    obtain ⟨behind, hbehind, hread⟩ := hread
    exact ⟨behind, hbehind, fun fuel hfuel => read_finals_mono hread hfuel⟩
  induction pieces with
  | nil => exact ⟨[], List.suffix_rfl, rfl⟩
  | cons piece later ih =>
    obtain ⟨hfirst, hlater⟩ := hspelled
    obtain ⟨behind, hbehind, hread⟩ := ih hlater
    cases piece with
    | final writing =>
      refine ⟨behind, hbehind, ?_⟩
      have hmore := read_finals_mono hread (Nat.le_succ _)
      simp only [List.filterMap_cons, Piece.writing?, List.map_cons, List.flatMap_cons, Piece.wire,
        List.length_cons, read_finals, read_final_writing hfirst, Option.bind_eq_bind,
        Option.bind_some, hmore]
    | interim wire =>
      have hnone : Piece.writing? (.interim wire) = none := rfl
      rw [List.filterMap_cons_none hnone]
      cases hwritings : later.filterMap Piece.writing? with
      | nil =>
        -- Nothing final follows, so all that is left is interim.
        refine ⟨wire :: later.filterMap Piece.interim?, ?_, ?_⟩
        · simp [Piece.interim?]
        · simp [Piece.wire, read_finals, flatMap_wire_eq hwritings]
      | cons first others =>
        refine ⟨behind, hbehind.trans ?_, ?_⟩
        · simp [Piece.interim?]
        · rw [hwritings] at hread
          exact read_finals_interim hfirst (by simp) hread

end http
