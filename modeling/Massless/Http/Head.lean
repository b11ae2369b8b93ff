import Massless.Http.Client

namespace http

/-- The characters of a token: letters, digits and some signs. -/
def is_tchar (c : UInt8) : Bool :=
  is_digit c ∨ (65 ≤ c ∧ c ≤ 90) ∨ (97 ≤ c ∧ c ≤ 122) ∨
    c ∈ ([33, 35, 36, 37, 38, 39, 42, 43, 45, 46, 94, 95, 96, 124, 126] : Octets)

/-- A token, as names of fields are. -/
def Token (name : Octets) : Prop := name ≠ [] ∧ ∀ c ∈ name, is_tchar c = true

instance (name : Octets) : Decidable (Token name) :=
  decidable_of_iff (name ≠ [] ∧ name.all is_tchar = true) (by rw [Token, List.all_eq_true])

/-- What holds of all numbers below 256 holds of every octet. -/
theorem forall_octet {p : UInt8 → Prop} (hall : ∀ n < 256, p (UInt8.ofNat n)) (c : UInt8) :
    p c := by
  have hc := hall c.toNat c.toNat_lt
  rwa [UInt8.ofNat_toNat] at hc

theorem Token.not_blank {name : Octets} (hname : Token name) : ∀ c ∈ name, blank c = false := by
  intro c hc
  have hall : ∀ c : UInt8, is_tchar c = true → blank c = false := forall_octet (by decide +kernel)
  exact hall c (hname.2 c hc)

theorem Token.no_colon {name : Octets} (hname : Token name) : 58 ∉ name := fun hcolon =>
  absurd (hname.2 58 hcolon) (by decide)

/-- No blank at either end. -/
def Tight (text : Octets) : Prop :=
  (∀ c ∈ text.head?, blank c = false) ∧ ∀ c ∈ text.getLast?, blank c = false

theorem dropWhile_of_head? {p : UInt8 → Bool} {text : Octets}
    (htext : ∀ c ∈ text.head?, p c = false) : text.dropWhile p = text := by
  cases text with
  | nil => rfl
  | cons c rest => rw [List.dropWhile_cons_of_neg (by simp [htext c rfl])]

theorem Tight.trim {text : Octets} (htext : Tight text) : trim text = text := by
  rw [http.trim, dropWhile_of_head? htext.1, dropWhile_of_head?, List.reverse_reverse]
  rw [List.head?_reverse]
  exact htext.2

/-- The head of a response: its status, its fields, and what follows it. -/
def read_head (data : Octets) : Option (Nat × List Field × Octets) := do
  let (lines, after) ← split_head [] [] data
  let start ← lines.head?
  let status ← parse_status start
  some (status, read_fields lines.tail, after)

/-- A head made of whole lines is read back. -/
theorem read_head_block {start : Octets} {lines : List Octets} {status : Nat}
    (hlines : ∀ line ∈ start :: lines, Unbroken line) (hstatus : parse_status start = some status)
    (rest : Octets) :
    read_head (block (start :: lines) ++ crlf ++ rest) =
      some (status, read_fields lines, rest) := by
  rw [read_head, split_head_block hlines [] rest]
  simp [hstatus]

/-- The values of the lines of a field. -/
def named (name : Octets) (fields : List Field) : List Octets :=
  (fields.filter (·.name = name)).map Field.value

theorem named_append (name : Octets) (fields later : List Field) :
    named name (fields ++ later) = named name fields ++ named name later := by
  simp [named]

/-- Lines of one field have its name or another. -/
theorem named_lines {α : Type} (name known : Octets) (value : α → Octets) (values : List α) :
    named name (values.map fun found => ⟨known, value found⟩) =
      if known = name then values.map value else [] := by
  by_cases hname : known = name
  · simp [named, hname, List.filter_map, Function.comp_def]
  · simp [named, hname, List.filter_map, Function.comp_def]

theorem named_line (name known value : Octets) :
    named name [⟨known, value⟩] = if known = name then [value] else [] :=
  named_lines name known (fun value => value) [value]

end http
