import Mathlib.Data.List.Basic

namespace http

abbrev Octets := List UInt8

def crlf : Octets := [13, 10]

def blank (c : UInt8) : Bool := c = 32 ∨ c = 9

/-- Blanks around a field name or value do not count. -/
def trim (text : Octets) : Octets := ((text.dropWhile blank).reverse.dropWhile blank).reverse

/-- Names and codings are compared without their case. -/
def lower (text : Octets) : Octets := text.map fun c => if 65 ≤ c ∧ c ≤ 90 then c + 32 else c

def is_digit (c : UInt8) : Bool := 48 ≤ c ∧ c ≤ 57

/-- The number that decimal digits write. -/
def digits_value (digits : Octets) : Nat := digits.foldl (fun n c => 10 * n + (c.toNat - 48)) 0

def parse_decimal (text : Octets) : Option Nat :=
  if text ≠ [] ∧ text.all is_digit then some (digits_value text) else none

def hex_value (c : UInt8) : Option Nat :=
  if 48 ≤ c ∧ c ≤ 57 then some (c.toNat - 48)
  else if 65 ≤ c ∧ c ≤ 70 then some (c.toNat - 55)
  else if 97 ≤ c ∧ c ≤ 102 then some (c.toNat - 87)
  else none

def parse_hex (text : Octets) : Option Nat :=
  if text = [] then none
  else text.foldlM (fun n c => (hex_value c).map fun digit => 16 * n + digit) 0

/-- The lines up to the first empty one, and what follows it, after the lines and the
part of a line read already. -/
def split_head (lines : List Octets) (line : Octets) : Octets → Option (List Octets × Octets)
  | 13 :: 10 :: rest =>
    if line = [] then some (lines, rest) else split_head (lines ++ [line]) [] rest
  | c :: rest => split_head lines (line ++ [c]) rest
  | [] => none

structure Field where
  name : Octets
  value : Octets
  deriving DecidableEq

/-- A field line: the name ends at the first colon. -/
def parse_field (line : Octets) : Field :=
  ⟨lower (trim (line.takeWhile (· ≠ 58))), trim ((line.dropWhile (· ≠ 58)).drop 1)⟩

/-- A line that goes on the one before it. -/
def is_continuation (line : Octets) : Bool := line.head?.any blank

/-- A line and its continuation, with one space for the break. -/
def join_lines (line next : Octets) : Octets :=
  (line.reverse.dropWhile blank).reverse ++ 32 :: next.dropWhile blank

/-- The first line with its continuations, and the other lines with theirs. -/
def unfold_from (line : Octets) : List Octets → List Octets
  | [] => [line]
  | next :: later =>
    if is_continuation next then unfold_from (join_lines line next) later
    else line :: unfold_from next later

/-- Folded lines made whole; continuations of nothing are passed over. -/
def unfold_lines : List Octets → List Octets
  | [] => []
  | line :: later => if is_continuation line then unfold_lines later else unfold_from line later

/-- The fields of a head, from the lines behind its first one. -/
def read_fields (lines : List Octets) : List Field := (unfold_lines lines).map parse_field

/-- All values of a field, over all its lines and the commas in them. -/
def field_values (name : Octets) (fields : List Field) : List Octets :=
  (fields.filter (·.name = name)).flatMap fun field => (field.value.splitOn 44).map trim

/-- `transfer-encoding` -/
def transfer_encoding : Octets :=
  [116, 114, 97, 110, 115, 102, 101, 114, 45, 101, 110, 99, 111, 100, 105, 110, 103]

/-- `content-length` -/
def content_length : Octets := [99, 111, 110, 116, 101, 110, 116, 45, 108, 101, 110, 103, 116, 104]

/-- `chunked` -/
def chunked : Octets := [99, 104, 117, 110, 107, 101, 100]

/-- The status of a response, from its first line `HTTP/1.1 <status> <reason>`. -/
def parse_status (line : Octets) : Option Nat :=
  if ([72, 84, 84, 80, 47, 49, 46, 49, 32] : Octets).isPrefixOf line then
    parse_decimal ((line.drop 9).takeWhile (· ≠ 32))
  else none

/-- Where the body of a message ends. -/
inductive BodyLength where
  | empty
  | octets (count : Nat)
  | chunked
  | until_close
  | invalid
  deriving DecidableEq

/-- A response without a body: to a `HEAD` request, or by its status. -/
def Bodiless (head_request : Bool) (status : Nat) : Prop :=
  head_request = true ∨ status / 100 = 1 ∨ status = 204 ∨ status = 304

instance (head_request : Bool) (status : Nat) : Decidable (Bodiless head_request status) :=
  inferInstanceAs (Decidable (_ ∨ _))

/-- The one length that all values of `Content-Length` name. -/
def agreed_length : List Octets → BodyLength
  | [] => .until_close
  | first :: rest =>
    match parse_decimal first with
    | some count => if rest.all (parse_decimal · = some count) then .octets count else .invalid
    | none => .invalid

/-- The rules for the length of a response's body: a transfer encoding comes before a
content length, and two content lengths have to be the same. -/
def body_length (head_request : Bool) (status : Nat) (fields : List Field) : BodyLength :=
  if Bodiless head_request status then .empty
  else match field_values transfer_encoding fields with
    | first :: rest =>
      if lower ((first :: rest).getLast (List.cons_ne_nil first rest)) = chunked then .chunked
      else .until_close
    | [] => agreed_length (field_values content_length fields)

/-- A line and what follows its end. -/
def read_line : Octets → Option (Octets × Octets)
  | 13 :: 10 :: rest => some ([], rest)
  | c :: rest => (read_line rest).map fun found => (c :: found.1, found.2)
  | [] => none

/-- The chunks of a body up to the last chunk and its trailer; every chunk takes some
fuel. -/
def read_chunks : Nat → Octets → Option (Octets × Octets)
  | 0, _ => none
  | fuel + 1, data => do
    let (line, after) ← read_line data
    let size ← parse_hex (trim (line.takeWhile (· ≠ 59)))
    if size = 0 then do
      let (_, rest) ← split_head [] [] after
      some ([], rest)
    else if (after.drop size).take 2 = crlf then do
      let (body, rest) ← read_chunks fuel (after.drop (size + 2))
      some (after.take size ++ body, rest)
    else none

/-- The body, and what follows it. -/
def read_body (data : Octets) : BodyLength → Option (Octets × Octets)
  | .empty => some ([], data)
  | .octets count => if count ≤ data.length then some (data.take count, data.drop count) else none
  | .chunked => read_chunks (data.length + 1) data
  | .until_close => some (data, [])
  | .invalid => none

/-- A message: all its octets on the wire, and its body. -/
structure Message where
  raw : Octets
  body : Octets
  deriving DecidableEq

/-- One response, and what follows it. -/
def read_message (head_request : Bool) (data : Octets) : Option (Message × Octets) := do
  let (lines, after) ← split_head [] [] data
  let start ← lines.head?
  let status ← parse_status start
  let (body, rest) ← read_body after (body_length head_request status (read_fields lines.tail))
  some (⟨data.take (data.length - rest.length), body⟩, rest)

/-- The responses to the requests made, with nothing left over. -/
def read_messages : List Bool → Octets → Option (List Message)
  | [], data => if data = [] then some [] else none
  | head_request :: later, data => do
    let (message, rest) ← read_message head_request data
    let messages ← read_messages later rest
    some (message :: messages)

/-- What a split leaves is the end of what it was given. -/
theorem split_head_suffix {lines : List Octets} {line data rest : Octets} {found : List Octets}
    (hsplit : split_head lines line data = some (found, rest)) : ∃ head, data = head ++ rest := by
  induction lines, line, data using split_head.induct with
  | case1 lines rest' =>
    simp only [split_head, if_true, Option.some.injEq, Prod.mk.injEq] at hsplit
    exact ⟨crlf, by rw [← hsplit.2]; rfl⟩
  | case2 lines line rest' hline ih =>
    rw [split_head, if_neg hline] at hsplit
    obtain ⟨head, rfl⟩ := ih hsplit
    exact ⟨crlf ++ head, rfl⟩
  | case3 lines line c rest' hnot ih =>
    rw [split_head] at hsplit
    · obtain ⟨head, rfl⟩ := ih hsplit
      exact ⟨c :: head, rfl⟩
    · exact hnot
  | case4 => simp [split_head] at hsplit

theorem read_line_eq {data line rest : Octets} (hread : read_line data = some (line, rest)) :
    data = line ++ crlf ++ rest := by
  induction data using read_line.induct generalizing line with
  | case1 rest' =>
    simp only [read_line, Option.some.injEq, Prod.mk.injEq] at hread
    rw [← hread.1, ← hread.2]
    rfl
  | case2 c rest' hnot ih =>
    rw [read_line] at hread
    · obtain ⟨⟨first, after⟩, hfirst, heq⟩ := Option.map_eq_some_iff.mp hread
      simp only [Prod.mk.injEq] at heq
      obtain ⟨rfl, rfl⟩ := heq
      rw [ih hfirst]
      rfl
    · exact hnot
  | case3 => cases hread

/-- A chunked body is shorter than its chunks. -/
theorem read_chunks_shorter {fuel : Nat} {data body rest : Octets}
    (hread : read_chunks fuel data = some (body, rest)) :
    ∃ chunks, data = chunks ++ rest ∧ body.length < chunks.length := by
  induction fuel generalizing data body with
  | zero => cases hread
  | succ fuel ih =>
    simp only [read_chunks, Option.bind_eq_bind, Option.bind_eq_some_iff] at hread
    obtain ⟨⟨line, after⟩, hline, size, -, hread⟩ := hread
    have hdata := read_line_eq hline
    dsimp only at hread
    split at hread
    · obtain ⟨⟨trailer, end_⟩, htrailer, heq⟩ := Option.bind_eq_some_iff.mp hread
      simp only [Option.some.injEq, Prod.mk.injEq] at heq
      obtain ⟨rfl, rfl⟩ := heq
      obtain ⟨head, rfl⟩ := split_head_suffix htrailer
      refine ⟨line ++ crlf ++ head, by simp only [hdata, List.append_assoc], ?_⟩
      simp only [crlf, List.length_append, List.length_cons, List.length_nil]
      omega
    · split at hread
      · rename_i hend
        obtain ⟨⟨later, end_⟩, hlater, heq⟩ := Option.bind_eq_some_iff.mp hread
        simp only [Option.some.injEq, Prod.mk.injEq] at heq
        obtain ⟨rfl, rfl⟩ := heq
        obtain ⟨chunks, hchunks, hshorter⟩ := ih hlater
        have hafter : after = after.take size ++ crlf ++ (chunks ++ end_) := by
          rw [← hchunks, ← hend, List.append_assoc, ← List.drop_drop, List.take_append_drop,
            List.take_append_drop]
        refine ⟨line ++ crlf ++ (after.take size ++ crlf ++ chunks), ?_, ?_⟩
        · rw [hdata]
          conv_lhs => rw [hafter]
          simp only [List.append_assoc]
        · simp only [List.length_append]
          omega
      · cases hread

theorem read_body_suffix {data body rest : Octets} {length : BodyLength}
    (hread : read_body data length = some (body, rest)) : ∃ taken, data = taken ++ rest := by
  cases length with
  | empty =>
    simp only [read_body, Option.some.injEq, Prod.mk.injEq] at hread
    exact ⟨[], hread.2⟩
  | octets count =>
    simp only [read_body, Option.ite_none_right_eq_some, Option.some.injEq, Prod.mk.injEq] at hread
    exact ⟨data.take count, by rw [← hread.2.2, List.take_append_drop]⟩
  | chunked =>
    obtain ⟨chunks, hdata, -⟩ := read_chunks_shorter hread
    exact ⟨chunks, hdata⟩
  | until_close =>
    simp only [read_body, Option.some.injEq, Prod.mk.injEq] at hread
    exact ⟨data, by rw [← hread.2, List.append_nil]⟩
  | invalid => cases hread

/-- The octets of a message and the rest make up what was read. -/
theorem read_message_raw {head_request : Bool} {data rest : Octets} {message : Message}
    (hread : read_message head_request data = some (message, rest)) :
    data = message.raw ++ rest := by
  simp only [read_message, Option.bind_eq_bind, Option.bind_eq_some_iff, Option.some.injEq,
    Prod.mk.injEq] at hread
  obtain ⟨⟨lines, after⟩, hhead, start, hstart, status, hstatus, ⟨body, left⟩, hbody, rfl, rfl⟩ :=
    hread
  obtain ⟨head, rfl⟩ := split_head_suffix hhead
  obtain ⟨taken, rfl⟩ := read_body_suffix hbody
  have hsplit : head ++ (taken ++ left) = (head ++ taken) ++ left := (List.append_assoc _ _ _).symm
  rw [hsplit]
  dsimp only
  rw [List.length_append, Nat.add_sub_cancel, List.take_left]

/-- What a writer puts on the wire: in answer to which request, the octets, and the
body that they are meant to carry. -/
structure Writing where
  head_request : Bool
  wire : Octets
  body : Octets

/-- A client that finds `rest` behind the octets of a message reads that message and
leaves that rest. -/
def Writing.Framed (writing : Writing) (rest : Octets) : Prop :=
  read_message writing.head_request (writing.wire ++ rest) =
    some (⟨writing.wire, writing.body⟩, rest)

/-- A client splits the octets of several messages as they were written exactly when
it reads each of them out of what is left. -/
theorem read_messages_iff (writings : List Writing) :
    read_messages (writings.map Writing.head_request) (writings.flatMap Writing.wire) =
        some (writings.map fun writing => ⟨writing.wire, writing.body⟩) ↔
      ∀ before writing after, writings = before ++ writing :: after →
        writing.Framed (after.flatMap Writing.wire) := by
  induction writings with
  | nil => simp [read_messages]
  | cons first later ih =>
    simp only [List.map_cons, List.flatMap_cons, read_messages, Option.bind_eq_bind,
      Option.bind_eq_some_iff, Option.some.injEq]
    constructor
    · rintro ⟨⟨message, rest⟩, hfirst, messages, hlater, heq⟩
      obtain ⟨rfl, hmessages⟩ := List.cons.inj heq
      have hraw := read_message_raw hfirst
      have hrest : later.flatMap Writing.wire = rest := List.append_cancel_left hraw
      subst hrest hmessages
      intro before writing after hsplit
      cases before with
      | nil =>
        obtain ⟨rfl, rfl⟩ := List.cons.inj hsplit
        exact hfirst
      | cons earlier before =>
        obtain ⟨-, hlater_split⟩ := List.cons.inj hsplit
        exact ih.mp hlater before writing after hlater_split
    · intro hframed
      have hlater := ih.mpr fun before writing after hsplit =>
        hframed (first :: before) writing after (by rw [hsplit]; rfl)
      exact ⟨_, hframed [] first later rfl, _, hlater, rfl⟩

/-- Lines as they go on the wire. -/
def block (lines : List Octets) : Octets := lines.flatMap (· ++ crlf)

/-- A line that is not empty and does not break. -/
def Unbroken (line : Octets) : Prop := line ≠ [] ∧ 13 ∉ line

theorem split_head_line {text : Octets} (htext : 13 ∉ text) (lines : List Octets)
    (line rest : Octets) (hline : line ++ text ≠ []) :
    split_head lines line (text ++ crlf ++ rest) =
      split_head (lines ++ [line ++ text]) [] rest := by
  induction text generalizing line with
  | nil =>
    rw [List.append_nil] at hline ⊢
    simp [crlf, split_head, hline]
  | cons c later ih =>
    rw [List.mem_cons, not_or] at htext
    have hshift : line ++ c :: later = line ++ [c] ++ later := by simp
    rw [hshift, ← ih htext.2 (line ++ [c]) (by simp)]
    rw [List.cons_append, List.cons_append, split_head]
    exact fun after hcrlf => absurd hcrlf.symm htext.1

/-- The lines of a head are found again. -/
theorem split_head_block {lines : List Octets} (hlines : ∀ line ∈ lines, Unbroken line)
    (before : List Octets) (rest : Octets) :
    split_head before [] (block lines ++ crlf ++ rest) = some (before ++ lines, rest) := by
  induction lines generalizing before with
  | nil => simp [block, crlf, split_head]
  | cons line later ih =>
    rw [List.forall_mem_cons] at hlines
    obtain ⟨⟨hempty, hbreak⟩, hlater⟩ := hlines
    have hfirst := split_head_line hbreak before [] (block later ++ crlf ++ rest)
      (by simpa using hempty)
    simp only [block, List.flatMap_cons, List.append_assoc, List.nil_append] at hfirst ih ⊢
    rw [hfirst, ih hlater]
    simp

/-- The message length that a body of `count` octets, followed by nothing or by more,
has to have for the client to find its end. -/
def BodyLength.Fits (count : Nat) (last : Prop) : BodyLength → Prop
  | .empty => count = 0
  | .octets length => length = count
  | .until_close => last
  | .chunked | .invalid => False

theorem read_body_iff (sent rest : Octets) (length : BodyLength) :
    read_body (sent ++ rest) length = some (if length = .empty then [] else sent, rest) ↔
      length.Fits sent.length (rest = []) := by
  cases length with
  | empty => simp [read_body, BodyLength.Fits]
  | octets count =>
    simp only [read_body, BodyLength.Fits, reduceCtorEq, if_false]
    constructor
    · intro hread
      simp only [Option.ite_none_right_eq_some, Option.some.injEq, Prod.mk.injEq] at hread
      have hlength := congrArg List.length hread.2.1
      simp only [List.length_take] at hlength
      omega
    · rintro rfl
      simp
  | chunked =>
    simp only [read_body, BodyLength.Fits, reduceCtorEq, if_false, iff_false]
    intro hread
    obtain ⟨chunks, hchunks, hshorter⟩ := read_chunks_shorter hread
    rw [List.append_cancel_right hchunks] at hshorter
    exact absurd hshorter (Nat.lt_irrefl _)
  | until_close =>
    simp only [read_body, BodyLength.Fits, reduceCtorEq, if_false, Option.some.injEq,
      Prod.mk.injEq]
    constructor
    · exact fun hread => hread.2.symm
    · rintro rfl
      simp
  | invalid => simp [read_body, BodyLength.Fits]

/-- A number in decimal digits. -/
def decimal (n : Nat) : Octets := (Nat.toDigits 10 n).map fun c => UInt8.ofNat c.toNat

theorem digit_octet {c : Char} (hdigit : c.isDigit = true) :
    is_digit (UInt8.ofNat c.toNat) = true ∧ (UInt8.ofNat c.toNat).toNat = c.toNat := by
  have hrange : 48 ≤ c.toNat ∧ c.toNat ≤ 57 := by
    simp only [Char.isDigit, Bool.and_eq_true, decide_eq_true_eq, UInt32.le_iff_toNat_le] at hdigit
    exact hdigit
  have hoctet : (UInt8.ofNat c.toNat).toNat = c.toNat := by
    rw [UInt8.toNat_ofNat']
    omega
  refine ⟨?_, hoctet⟩
  simp only [is_digit, UInt8.le_iff_toNat_le, hoctet, decide_eq_true_eq]
  exact hrange

theorem decimal_digits (n : Nat) : ∀ c ∈ decimal n, is_digit c = true := by
  intro c hc
  obtain ⟨digit, hmem, rfl⟩ := List.mem_map.mp hc
  exact (digit_octet (Nat.isDigit_of_mem_toDigits (by decide) (by decide) hmem)).1

theorem digits_value_map {digits : List Char} (hdigits : ∀ c ∈ digits, c.isDigit = true)
    (value : Nat) :
    (digits.map fun c => UInt8.ofNat c.toNat).foldl (fun n c => 10 * n + (c.toNat - 48)) value =
      Nat.ofDigitChars 10 digits value := by
  induction digits generalizing value with
  | nil => rfl
  | cons c later ih =>
    rw [List.forall_mem_cons] at hdigits
    rw [List.map_cons, List.foldl_cons, ih hdigits.2, Nat.ofDigitChars_cons,
      (digit_octet hdigits.1).2]
    rfl

theorem parse_decimal_decimal (n : Nat) : parse_decimal (decimal n) = some n := by
  have hdigits : ∀ c ∈ Nat.toDigits 10 n, c.isDigit = true := fun c hmem =>
    Nat.isDigit_of_mem_toDigits (by decide) (by decide) hmem
  have hnonempty : decimal n ≠ [] := by
    simp [decimal, Nat.toDigits_ne_nil]
  rw [parse_decimal, if_pos ⟨hnonempty, List.all_eq_true.mpr (decimal_digits n)⟩, digits_value,
    decimal, digits_value_map hdigits, Nat.ofDigitChars_ten_toDigits]

theorem trim_eq_self {text : Octets} (htext : ∀ c ∈ text, blank c = false) : trim text = text := by
  have hkeep : ∀ part : Octets, (∀ c ∈ part, blank c = false) → part.dropWhile blank = part := by
    intro part hpart
    cases part with
    | nil => rfl
    | cons c later => rw [List.dropWhile_cons_of_neg (by simp [hpart c (by simp)])]
  rw [trim, hkeep text htext, hkeep text.reverse (by simpa using htext), List.reverse_reverse]

theorem parse_field_colon {name : Octets} (hname : 58 ∉ name) (value : Octets) :
    parse_field (name ++ 58 :: value) = ⟨lower (trim name), trim value⟩ := by
  have htaken : (name ++ 58 :: value).takeWhile (· ≠ 58) = name := by
    rw [List.takeWhile_append_of_pos (by simpa using fun c hc => ne_of_mem_of_not_mem hc hname)]
    simp
  have hdropped : (name ++ 58 :: value).dropWhile (· ≠ 58) = 58 :: value := by
    rw [List.dropWhile_append_of_pos (by simpa using fun c hc => ne_of_mem_of_not_mem hc hname)]
    simp
  rw [parse_field, htaken, hdropped]
  rfl

theorem parse_field_name {name : Octets} (hname : 58 ∉ name) (value : Octets) :
    (parse_field (name ++ 58 :: value)).name = lower (trim name) := by
  rw [parse_field_colon hname]

/-- The blank behind the colon does not count. -/
theorem parse_field_eq {name value : Octets} (hname : 58 ∉ name) :
    parse_field (name ++ [58, 32] ++ value) = ⟨lower (trim name), trim value⟩ := by
  rw [List.append_assoc]
  exact parse_field_colon hname (32 :: value)

/-- Continuations behind a line go on it. -/
theorem unfold_from_eq (line : Octets) (lines : List Octets) :
    unfold_from line lines =
      (lines.takeWhile is_continuation).foldl join_lines line :: unfold_lines lines := by
  induction lines generalizing line with
  | nil => rfl
  | cons next later ih =>
    by_cases hnext : is_continuation next = true
    · rw [unfold_from, if_pos hnext, ih, List.takeWhile_cons_of_pos hnext, List.foldl_cons,
        unfold_lines, if_pos hnext]
    · rw [unfold_from, if_neg hnext, List.takeWhile_cons_of_neg hnext, List.foldl_nil,
        unfold_lines, if_neg hnext]

theorem unfold_lines_cons {line : Octets} (hline : is_continuation line = false)
    (lines : List Octets) : unfold_lines (line :: lines) =
      (lines.takeWhile is_continuation).foldl join_lines line :: unfold_lines lines := by
  rw [unfold_lines, if_neg (by simp [hline]), unfold_from_eq]

theorem takeWhile_append_of_none {α : Type} {p : α → Bool} {later : List α}
    (hnone : ∀ found ∈ later, p found = false) (first : List α) :
    (first ++ later).takeWhile p = first.takeWhile p := by
  induction first with
  | nil => cases later with
    | nil => rfl
    | cons found later => simp [hnone found (by simp)]
  | cons found first ih => simp only [List.cons_append, List.takeWhile_cons, ih]

/-- Lines that do not go on others stay as they are, and fold nothing into the lines
before them. -/
theorem unfold_lines_append {later : List Octets}
    (hlater : ∀ line ∈ later, is_continuation line = false) (lines : List Octets) :
    unfold_lines (lines ++ later) = unfold_lines lines ++ later := by
  induction lines with
  | nil =>
    induction later with
    | nil => rfl
    | cons line later ih =>
      rw [List.forall_mem_cons] at hlater
      have hnone := takeWhile_append_of_none hlater.2 []
      rw [List.nil_append, List.takeWhile_nil] at hnone
      rw [List.nil_append, unfold_lines_cons hlater.1, hnone]
      exact congrArg _ (ih hlater.2)
  | cons line lines ih =>
    cases hline : is_continuation line with
    | true => simpa only [List.cons_append, unfold_lines, hline, if_true] using ih
    | false =>
      rw [List.cons_append, unfold_lines_cons hline, unfold_lines_cons hline, ih,
        takeWhile_append_of_none hlater, List.cons_append]

theorem read_fields_append {later : List Octets}
    (hlater : ∀ line ∈ later, is_continuation line = false) (lines : List Octets) :
    read_fields (lines ++ later) = read_fields lines ++ later.map parse_field := by
  rw [read_fields, unfold_lines_append hlater, List.map_append, read_fields]

/-- Where no line is folded there is one field a line. -/
theorem read_fields_eq_map {lines : List Octets}
    (hlines : ∀ line ∈ lines, is_continuation line = false) :
    read_fields lines = lines.map parse_field :=
  read_fields_append hlines []

/-- What follows a whole line does not go on the lines before it. -/
theorem unfold_lines_whole {first : List Octets} {line : Octets}
    (hfirst : ∀ found ∈ first, is_continuation found = false) (hline : is_continuation line = false)
    (lines : List Octets) :
    unfold_lines (first ++ line :: lines) = first ++ unfold_lines (line :: lines) := by
  induction first with
  | nil => rfl
  | cons found first ih =>
    rw [List.forall_mem_cons] at hfirst
    have hnone : (first ++ line :: lines).takeWhile is_continuation = [] := by
      cases first with
      | nil => exact List.takeWhile_cons_of_neg (by simp [hline])
      | cons next first => exact List.takeWhile_cons_of_neg (by simp [hfirst.2 next (by simp)])
    rw [List.cons_append, unfold_lines_cons hfirst.1, hnone, ih hfirst.2, List.foldl_nil,
      List.cons_append]

/-- A folded field keeps its name, and what goes on it goes on its value. -/
theorem join_lines_field (name value next : Octets) :
    join_lines (name ++ 58 :: value) next =
      name ++ 58 :: ((value.reverse.dropWhile blank).reverse ++ 32 :: next.dropWhile blank) := by
  have hcolon : blank 58 = false := by decide
  rw [join_lines, List.reverse_append, List.reverse_cons, List.append_assoc,
    List.dropWhile_append]
  split
  · rename_i hempty
    have hblank : value.reverse.dropWhile blank = [] := List.isEmpty_iff.mp hempty
    simp [hblank, hcolon]
  · simp

theorem mem_dropWhile_blank {c : UInt8} (hc : blank c = false) {text : Octets} (hmem : c ∈ text) :
    c ∈ text.dropWhile blank := by
  rw [← List.takeWhile_append_dropWhile (p := blank) (l := text), List.mem_append] at hmem
  refine hmem.resolve_left fun htaken => ?_
  rw [List.all_eq_true.mp List.all_takeWhile c htaken] at hc
  exact absurd hc (by decide)

theorem mem_trim {c : UInt8} (hc : blank c = false) {text : Octets} (hmem : c ∈ text) :
    c ∈ trim text :=
  List.mem_reverse.mpr (mem_dropWhile_blank hc
    (List.mem_reverse.mpr (mem_dropWhile_blank hc hmem)))

/-- What is in the value or on a line that goes on it is in the folded value. -/
theorem foldl_join_lines_field (name value : Octets) (lines : List Octets) :
    ∃ folded, lines.foldl join_lines (name ++ 58 :: value) = name ++ 58 :: folded ∧
      ∀ c, blank c = false → (c ∈ value ∨ ∃ line ∈ lines, c ∈ line) → c ∈ folded := by
  induction lines generalizing value with
  | nil => exact ⟨value, rfl, by simp⟩
  | cons next later ih =>
    obtain ⟨folded, hfolded, hmem⟩ :=
      ih ((value.reverse.dropWhile blank).reverse ++ 32 :: next.dropWhile blank)
    refine ⟨folded, by rw [List.foldl_cons, join_lines_field, hfolded], ?_⟩
    intro c hc hfound
    apply hmem c hc
    rw [List.mem_append, List.mem_cons, List.mem_reverse]
    obtain hvalue | ⟨line, hline, hfound⟩ := hfound
    · exact .inl (.inl (mem_dropWhile_blank hc (List.mem_reverse.mpr hvalue)))
    · obtain rfl | hlater := List.mem_cons.mp hline
      · exact .inl (.inr (.inr (mem_dropWhile_blank hc hfound)))
      · exact .inr ⟨line, hlater, hfound⟩

/-- Fields in front of others keep their names, whatever goes on the last of them. -/
theorem read_fields_behind {first : List Octets}
    (hfirst : ∀ line ∈ first, is_continuation line = false ∧
      ∃ name value, 58 ∉ name ∧ line = name ++ 58 :: value) (lines : List Octets) :
    ∃ fields, read_fields (first ++ lines) = fields ++ read_fields lines ∧
      fields.map Field.name = first.map fun line => (parse_field line).name := by
  obtain rfl | ⟨before, last, rfl⟩ := List.eq_nil_or_concat first
  · exact ⟨[], rfl, rfl⟩
  · rw [List.concat_eq_append] at hfirst ⊢
    obtain ⟨hlast, name, value, hname, rfl⟩ := hfirst last (by simp)
    obtain ⟨folded, hfolded, -⟩ :=
      foldl_join_lines_field name value (lines.takeWhile is_continuation)
    refine ⟨before.map parse_field ++ [parse_field (name ++ 58 :: folded)], ?_, ?_⟩
    · rw [read_fields, List.append_assoc, List.singleton_append,
        unfold_lines_whole (fun line hline => (hfirst line (by simp [hline])).1) hlast,
        unfold_lines_cons hlast, hfolded]
      simp [read_fields]
    · simp [parse_field_name hname, Function.comp_def]

theorem field_values_append (name : Octets) (fields later : List Field) :
    field_values name (fields ++ later) = field_values name fields ++ field_values name later := by
  simp [field_values]

theorem field_values_eq_nil {name : Octets} {fields : List Field}
    (hfields : ∀ field ∈ fields, field.name ≠ name) : field_values name fields = [] := by
  rw [field_values, List.filter_eq_nil_iff.mpr (by simpa using hfields)]
  rfl

theorem mem_intercalate {c : UInt8} {separator : Octets} {parts : List Octets}
    (hmem : c ∈ separator.intercalate parts) : c ∈ separator ∨ ∃ part ∈ parts, c ∈ part := by
  induction parts with
  | nil => simp at hmem
  | cons part later ih =>
    cases later with
    | nil => exact .inr ⟨part, by simp, by simpa using hmem⟩
    | cons next later =>
      rw [List.intercalate_cons_cons, List.mem_append, List.mem_append] at hmem
      obtain (hpart | hseparator) | hlater := hmem
      · exact .inr ⟨part, by simp, hpart⟩
      · exact .inl hseparator
      · exact (ih hlater).imp_right fun ⟨found, hfound, hc⟩ =>
          ⟨found, List.mem_cons_of_mem part hfound, hc⟩

/-- A value with a colon is not a list of numbers. -/
theorem exists_not_decimal {name value : Octets} {fields : List Field}
    (hfield : ⟨name, value⟩ ∈ fields) (hcolon : 58 ∈ value) :
    ∃ found ∈ field_values name fields, parse_decimal found = none := by
  have hwhole : [44].intercalate (value.splitOn 44) = value := List.intercalate_splitOn 44
  rw [← hwhole] at hcolon
  obtain ⟨part, hpart, hmem⟩ := (mem_intercalate hcolon).resolve_left (by decide)
  refine ⟨trim part, ?_, ?_⟩
  · rw [field_values, List.mem_flatMap]
    exact ⟨⟨name, value⟩, by simpa using hfield, List.mem_map_of_mem hpart⟩
  · rw [parse_decimal, if_neg]
    rintro ⟨-, hdigits⟩
    exact absurd (List.all_eq_true.mp hdigits 58 (mem_trim (by decide) hmem)) (by decide)

/-- No length is agreed on where one is not a number. -/
theorem agreed_length_invalid {lengths : List Octets} {found : Octets} (hfound : found ∈ lengths)
    (hnone : parse_decimal found = none) : agreed_length lengths = .invalid := by
  cases lengths with
  | nil => simp at hfound
  | cons first rest =>
    cases hfirst : parse_decimal first with
    | none => simp [agreed_length, hfirst]
    | some count =>
      obtain rfl | hrest := List.mem_cons.mp hfound
      · rw [hfirst] at hnone
        cases hnone
      · have hnot : ∃ other ∈ rest, ¬parse_decimal other = some count := ⟨found, hrest, by simp [hnone]⟩
        simpa [agreed_length, hfirst] using hnot

theorem decimal_not_blank (n : Nat) : ∀ c ∈ decimal n, blank c = false := by
  intro c hc
  have hdigit := decimal_digits n c hc
  simp only [is_digit, UInt8.le_iff_toNat_le, decide_eq_true_eq] at hdigit
  simp only [blank, decide_eq_false_iff_not, ← UInt8.toNat_inj]
  have h48 : (48 : UInt8).toNat = 48 := rfl
  have h32 : (32 : UInt8).toNat = 32 := rfl
  have h9 : (9 : UInt8).toNat = 9 := rfl
  omega

/-- A number without blanks and commas is the one value of its line. -/
theorem field_values_decimal (name : Octets) (n : Nat) (fields : List Field) :
    field_values name (⟨name, decimal n⟩ :: fields) = decimal n :: field_values name fields := by
  have hcomma : ∀ c ∈ decimal n, c ≠ 44 := by
    rintro c hc rfl
    exact absurd (decimal_digits n 44 hc) (by decide)
  have hsplit : (decimal n).splitOn 44 = [decimal n] :=
    List.splitOnP_eq_singleton (by simpa using hcomma)
  rw [field_values, List.filter_cons_of_pos (by simp), List.flatMap_cons, hsplit,
    List.map_singleton, trim_eq_self (decimal_not_blank n)]
  rfl

/-- A message with a well-formed head is read alone exactly when the length that its
fields give fits the octets of its body. -/
theorem framed_iff {head_request : Bool} {start : Octets} {lines : List Octets} {status : Nat}
    (hlines : ∀ line ∈ start :: lines, Unbroken line) (hstatus : parse_status start = some status)
    {length : BodyLength} (hlength : body_length head_request status (read_fields lines) = length)
    (sent rest : Octets) :
    Writing.Framed ⟨head_request, block (start :: lines) ++ crlf ++ sent,
        if length = .empty then [] else sent⟩ rest ↔
      length.Fits sent.length (rest = []) := by
  rw [← read_body_iff]
  have hsplit := split_head_block hlines [] (sent ++ rest)
  simp only [Writing.Framed, read_message, List.append_assoc, Option.bind_eq_bind,
    List.nil_append] at hsplit ⊢
  rw [hsplit]
  simp only [Option.bind_some, List.head?_cons, hstatus, List.tail_cons, hlength]
  cases hbody : read_body (sent ++ rest) length with
  | none => simp
  | some found =>
    obtain ⟨body, left⟩ := found
    simp only [Option.bind_some, Option.some.injEq, Prod.mk.injEq, Message.mk.injEq]
    constructor
    · rintro ⟨⟨-, hsame⟩, hleft⟩
      exact ⟨hsame, hleft⟩
    · rintro ⟨hsame, rfl⟩
      refine ⟨⟨?_, hsame⟩, rfl⟩
      simp only [← List.append_assoc]
      rw [List.length_append, Nat.add_sub_cancel, List.take_left]

end http
