import Massless.Python.Utf8
import Massless.Regex.Backtrack
import Massless.Router.Match

open python
open regex

namespace massless.router

variable {Obj : Type}

/-- A parameter with the text captured for it and the value that this is converted to. -/
structure Capture (Text Obj : Type) where
  name : String
  text : Text
  value : Value Obj
  deriving DecidableEq

/-- The captures stored one after another. -/
def assign {Text : Type} (captures : List (Capture Text Obj)) (kwargs : Kwargs Obj) : Kwargs Obj :=
  captures.foldl (fun kwargs capture => kwargs.set capture.name capture.value) kwargs

/-- What the parts of a route capture out of all of the data. -/
def capture_parts : List Part → Bytes → Option (List (Capture Bytes Obj))
  | [], data => if data = [] then some [] else none
  | .lit bytes :: rest, data =>
    if bytes.isPrefixOf data then capture_parts rest (data.drop bytes.length) else none
  | .param kind name :: rest, data => do
    let stop ← param_end kind data 0
    let value ← convert kind (data.take stop)
    let later ← capture_parts rest (data.drop stop)
    some (⟨name, data.take stop, value⟩ :: later)

theorem match_uuid_drop (path : Bytes) (cur : Nat) (hcur : cur ≤ path.length) :
    match_uuid path cur path.length = match_uuid (path.drop cur) 0 (path.drop cur).length := by
  have hbyte : ∀ i, path.getD (cur + i) 0 = (path.drop cur).getD (0 + i) 0 := by
    intro i
    rw [List.getD_eq_getElem?_getD, List.getD_eq_getElem?_getD, List.getElem?_drop, Nat.zero_add]
  have hlength : cur + 36 > path.length ↔ 0 + 36 > (path.drop cur).length := by
    rw [List.length_drop]
    omega
  simp only [match_uuid, hbyte, hlength]

/-- Where a parameter ends depends on what is left of the path. -/
theorem param_end_drop (kind : Kind) (path : Bytes) {cur : Nat} (hcur : cur ≤ path.length) :
    param_end kind path cur = (param_end kind (path.drop cur) 0).map fun stop => cur + stop := by
  have hrest : ∀ stop : Nat, (if cur + stop = cur then none else some (cur + stop)) =
      (if stop = 0 then none else some stop).map fun stop => cur + stop := by
    intro stop
    by_cases hstop : stop = 0
    · simp [hstop]
    · simp [hstop]
  cases kind with
  | K_PATH =>
    have hlength : path.length = cur + (path.drop cur).length := by
      rw [List.length_drop]
      omega
    simp only [param_end]
    rw [hlength, hrest]
  | K_UUID =>
    simp only [param_end, match_uuid_drop path cur hcur]
    by_cases huuid : match_uuid (path.drop cur) 0 (path.drop cur).length = true
    · simp only [huuid, if_true, Nat.zero_add, hrest]
    · simp only [huuid, Bool.false_eq_true, if_false, Option.map_none]
  | K_INT =>
    simp only [param_end, scan, List.drop_zero, Nat.zero_add]
    exact hrest _
  | K_STR =>
    simp only [param_end, scan, List.drop_zero, Nat.zero_add]
    exact hrest _
  | K_SLUG =>
    simp only [param_end, scan, List.drop_zero, Nat.zero_add]
    exact hrest _

theorem param_end_le (kind : Kind) {data : Bytes} {stop : Nat}
    (hstop : param_end kind data 0 = some stop) : stop ≤ data.length := by
  have hscan : ∀ accept : UInt8 → Bool, router.scan accept data 0 ≤ data.length := by
    intro accept
    rw [router.scan, List.drop_zero]
    exact (List.takeWhile_prefix _).length_le
  have hclass : ∀ count : Nat, count ≤ data.length →
      (if count = 0 then none else some count) = some stop → stop ≤ data.length := by
    intro count hcount heq
    obtain ⟨-, hstop⟩ := Option.ite_none_left_eq_some.mp heq
    exact Option.some.inj hstop ▸ hcount
  cases kind with
  | K_PATH => exact hclass _ (Nat.le_refl _) hstop
  | K_UUID =>
    simp only [param_end] at hstop
    by_cases huuid : match_uuid data 0 data.length = true
    · simp only [huuid, if_true] at hstop
      apply hclass _ _ hstop
      unfold match_uuid at huuid
      split at huuid
      · cases huuid
      · omega
    · simp [huuid] at hstop
  | K_INT => exact hclass _ (by rw [Nat.zero_add]; exact hscan _) hstop
  | K_STR => exact hclass _ (by rw [Nat.zero_add]; exact hscan _) hstop
  | K_SLUG => exact hclass _ (by rw [Nat.zero_add]; exact hscan _) hstop

/-- The loop of `try_match` stores the captures. -/
theorem match_parts_eq (path : Bytes) (parts : List Part) {cur : Nat} (hcur : cur ≤ path.length)
    (kwargs : Kwargs Obj) :
    match_parts path parts cur kwargs =
      (capture_parts parts (path.drop cur)).map fun captures => assign captures kwargs := by
  induction parts generalizing cur kwargs with
  | nil =>
    rw [match_parts, capture_parts]
    by_cases hend : cur = path.length
    · simp [hend, assign]
    · have hleft : path.drop cur ≠ [] := by
        rw [ne_eq, List.drop_eq_nil_iff]
        omega
      simp [hend, hleft]
  | cons part rest ih =>
    cases part with
    | lit bytes =>
      rw [match_parts, capture_parts]
      by_cases hprefix : bytes.isPrefixOf (path.drop cur) = true
      · have hlength := (List.isPrefixOf_iff_prefix.mp hprefix).length_le
        rw [List.length_drop] at hlength
        rw [if_pos hprefix, if_pos hprefix, ih (by omega), List.drop_drop]
      · rw [if_neg hprefix, if_neg hprefix]
        rfl
    | param kind name =>
      simp only [match_parts, capture_parts, param_end_drop kind path hcur, Option.bind_eq_bind]
      cases hstop : param_end kind (path.drop cur) 0 with
      | none => rfl
      | some stop =>
        have hle := param_end_le kind hstop
        rw [List.length_drop] at hle
        simp only [Option.map_some, Option.bind_some, Nat.add_sub_cancel_left]
        cases (convert kind ((path.drop cur).take stop) : Option (Value Obj)) with
        | none => rfl
        | some value =>
          simp only [Option.bind_some]
          rw [ih (by omega), List.drop_drop]
          cases capture_parts rest (path.drop (cur + stop)) <;> rfl

/-- A literal in two pieces matches as one. -/
theorem capture_parts_merge (first second : Bytes) (rest : List Part) (data : Bytes) :
    (capture_parts (.lit first :: .lit second :: rest) data : Option (List (Capture Bytes Obj))) =
      capture_parts (.lit (first ++ second) :: rest) data := by
  simp only [capture_parts]
  by_cases hfirst : first <+: data
  · obtain ⟨after, rfl⟩ := hfirst
    simp [List.isPrefixOf_iff_prefix, List.prefix_append_right_inj, ← List.drop_drop]
  · have hboth : ¬first ++ second <+: data := fun hprefix =>
      hfirst ((List.prefix_append first second).trans hprefix)
    simp [List.isPrefixOf_iff_prefix, hfirst, hboth]

theorem capture_parts_append_congr {first second : List Part}
    (hsame : ∀ data, (capture_parts first data : Option (List (Capture Bytes Obj))) =
      capture_parts second data) (init : List Part) (data : Bytes) :
    (capture_parts (init ++ first) data : Option (List (Capture Bytes Obj))) =
      capture_parts (init ++ second) data := by
  induction init generalizing data with
  | nil => exact hsame data
  | cons part rest ih => cases part <;> simp only [List.cons_append, capture_parts, ih]

/-- A step of the merging loop joins a literal to the last one, or adds a part. -/
theorem merge_part_cases (merged : List Part) (part : Part) :
    (∃ init first second, merged = init ++ [.lit first] ∧ part = .lit second ∧
      merge_part merged part = init ++ [.lit (first ++ second)]) ∨
    merge_part merged part = merged ++ [part] := by
  unfold merge_part
  split
  · rename_i second first hlast
    obtain ⟨init, rfl⟩ := List.getLast?_eq_some_iff.mp hlast
    exact Or.inl ⟨init, first, second, rfl, rfl, by rw [List.dropLast_concat]⟩
  · exact Or.inr rfl

/-- What `_parse_raw` yields has no empty literal. -/
def LiteralsWritten (parts : List Part) : Prop := ∀ bytes, .lit bytes ∈ parts → bytes ≠ []

theorem merge_part_written {merged : List Part} {part : Part}
    (hmerged : LiteralsWritten merged) (hpart : LiteralsWritten [part]) :
    LiteralsWritten (merge_part merged part) := by
  intro bytes hbytes
  obtain ⟨init, first, second, rfl, rfl, hmerge⟩ | hmerge := merge_part_cases merged part
  · rw [hmerge, List.mem_append, List.mem_singleton] at hbytes
    obtain hinit | hlast := hbytes
    · exact hmerged bytes (List.mem_append_left _ hinit)
    · cases hlast
      exact List.append_ne_nil_of_left_ne_nil (hmerged first (by simp)) second
  · rw [hmerge, List.mem_append] at hbytes
    exact hbytes.elim (hmerged bytes) (hpart bytes)

/-- Only the first byte of a literal counts for the part before it. -/
theorem boundaries_ok_append_congr (init : List Part) {first second : Bytes}
    {rest others : List Part} (hhead : first.head? = second.head?)
    (hrest : boundaries_ok rest = boundaries_ok others) :
    boundaries_ok (init ++ .lit first :: rest) = boundaries_ok (init ++ .lit second :: others) := by
  induction init with
  | nil => exact hrest
  | cons part init ih =>
    cases part with
    | lit bytes => exact ih
    | param kind name =>
      cases init with
      | nil => simp only [List.cons_append, List.nil_append, boundaries_ok, hhead, hrest]
      | cons next later =>
        cases next with
        | lit bytes => exact congrArg ((bytes.head?.any (stops_at kind)) && ·) ih
        | param next_kind next_name => rfl

theorem boundaries_ok_merge_part {merged : List Part} (hmerged : LiteralsWritten merged)
    (part : Part) (rest : List Part) :
    boundaries_ok (merge_part merged part ++ rest) = boundaries_ok (merged ++ part :: rest) := by
  obtain ⟨init, first, second, rfl, rfl, hmerge⟩ | hmerge := merge_part_cases merged part
  · rw [hmerge, List.append_assoc, List.append_assoc]
    refine boundaries_ok_append_congr init (List.head?_append_of_ne_nil _ ?_) rfl
    exact hmerged first (by simp)
  · rw [hmerge, List.append_assoc]
    rfl

theorem capture_parts_merge_part (merged : List Part) (part : Part) (rest : List Part)
    (data : Bytes) :
    (capture_parts (merge_part merged part ++ rest) data : Option (List (Capture Bytes Obj))) =
      capture_parts (merged ++ part :: rest) data := by
  obtain ⟨init, first, second, rfl, rfl, hmerge⟩ | hmerge := merge_part_cases merged part
  · rw [hmerge, List.append_assoc, List.append_assoc]
    exact capture_parts_append_congr (fun data => (capture_parts_merge first second rest data).symm)
      init data
  · rw [hmerge, List.append_assoc]
    rfl

theorem boundaries_ok_merged {parts merged : List Part} (hmerged : LiteralsWritten merged)
    (hparts : LiteralsWritten parts) :
    boundaries_ok (parts.foldl merge_part merged) = boundaries_ok (merged ++ parts) := by
  induction parts generalizing merged with
  | nil => rw [List.foldl_nil, List.append_nil]
  | cons part rest ih =>
    have hpart : LiteralsWritten [part] := fun bytes hbytes =>
      hparts bytes (List.mem_cons.mpr (Or.inl (List.mem_singleton.mp hbytes)))
    rw [List.foldl_cons, ih (merge_part_written hmerged hpart)
      fun bytes hbytes => hparts bytes (List.mem_cons_of_mem _ hbytes)]
    exact boundaries_ok_merge_part hmerged part rest

theorem capture_parts_merged (parts merged : List Part) (data : Bytes) :
    (capture_parts (parts.foldl merge_part merged) data : Option (List (Capture Bytes Obj))) =
      capture_parts (merged ++ parts) data := by
  induction parts generalizing merged with
  | nil => rw [List.foldl_nil, List.append_nil]
  | cons part rest ih => rw [List.foldl_cons, ih, capture_parts_merge_part]

/-- Parts that `_finalize` accepts meet its conditions before the merge, and capture the
same after it. -/
theorem finalize_eq_some {parts final : List Part} (hparts : LiteralsWritten parts)
    (hfinal : finalize parts = some final) :
    boundaries_ok parts = true ∧ ∀ data,
      (capture_parts final data : Option (List (Capture Bytes Obj))) = capture_parts parts data := by
  unfold finalize at hfinal
  rw [Option.ite_none_right_eq_some] at hfinal
  obtain ⟨hok, hmerged⟩ := hfinal
  rw [boundaries_ok_merged (by simp [LiteralsWritten]) hparts] at hok
  cases hmerged
  exact ⟨hok, fun data => capture_parts_merged parts [] data⟩

end massless.router
