import Mathlib.Data.List.Basic

namespace python

/-- A Python `bytes` object. -/
abbrev Bytes := List UInt8

/-- A `bytes` literal whose text is ASCII. -/
def ascii (text : String) : Bytes := text.toList.map fun c => UInt8.ofNat c.toNat

/-- `text.encode("utf-8")` -/
def encode_utf8 (text : String) : Bytes := text.toList.flatMap String.utf8EncodeChar

theorem head?_utf8EncodeChar (c : Char) :
    ∃ b, (String.utf8EncodeChar c).head? = some b ∧
      if c.toNat < 128 then b.toNat = c.toNat else 128 ≤ b.toNat := by
  have hval : c.toNat = c.val.toNat := rfl
  unfold String.utf8EncodeChar
  dsimp only
  rw [hval]
  generalize c.val.toNat = v
  split
  · exact ⟨_, rfl, by rw [if_pos (by omega), UInt8.toNat_ofNat']; omega⟩
  · split
    · exact ⟨_, rfl, by rw [if_neg (by omega), UInt8.toNat_ofNat']; omega⟩
    · split <;> exact ⟨_, rfl, by rw [if_neg (by omega), UInt8.toNat_ofNat']; omega⟩

/-- An encoded text starts with the byte of an ASCII character exactly when it
starts with that character. -/
theorem head?_encode_utf8_iff (text : String) {c : Char} (hascii : c.toNat < 128) :
    (encode_utf8 text).head? = some (UInt8.ofNat c.toNat) ↔ text.toList.head? = some c := by
  rw [encode_utf8]
  cases text.toList with
  | nil => simp
  | cons first rest =>
    obtain ⟨b, hb, hfirst⟩ := head?_utf8EncodeChar first
    rw [List.flatMap_cons, List.head?_append, hb, Option.some_or, List.head?_cons,
      Option.some_inj, Option.some_inj, ← UInt8.toNat_inj, ← Char.toNat_inj, UInt8.toNat_ofNat']
    split at hfirst <;> omega

/-- `data.decode("utf-8")`, where `none` is `UnicodeDecodeError`. -/
def decode_utf8 (data : Bytes) : Option String := String.fromUTF8? ⟨data.toArray⟩

/-- `text.encode("latin1")`, where `none` is `UnicodeEncodeError`. -/
def encode_latin1 (text : String) : Option Bytes :=
  text.toList.mapM fun c => if c.toNat < 256 then some (UInt8.ofNat c.toNat) else none

theorem encode_latin1_eq_nil_iff (text : String) : encode_latin1 text = some [] ↔ text = "" := by
  rw [encode_latin1, ← String.toList_eq_nil_iff]
  cases text.toList with
  | nil => simp
  | cons c rest =>
    simp only [List.mapM_cons, Option.pure_def, Option.bind_eq_bind, reduceCtorEq, iff_false]
    intro hnil
    rw [Option.bind_eq_some_iff] at hnil
    obtain ⟨byte, -, hrest⟩ := hnil
    rw [Option.bind_eq_some_iff] at hrest
    obtain ⟨bytes, -, hcons⟩ := hrest
    cases hcons

/-- `data.decode("latin1")` never fails. -/
def decode_latin1 (data : Bytes) : String := String.ofList (data.map fun b => Char.ofNat b.toNat)

theorem decode_latin1_ascii {text : String} (htext : ∀ c ∈ text.toList, c.toNat < 256) :
    decode_latin1 (ascii text) = text := by
  rw [decode_latin1, ascii, List.map_map]
  conv_rhs => rw [← String.ofList_toList (s := text), ← List.map_id text.toList]
  congr 1
  apply List.map_congr_left
  intro c hc
  have hcode := htext c hc
  rw [Function.comp_apply, UInt8.toNat_ofNat', Nat.mod_eq_of_lt (by omega), Char.ofNat_toNat, id]

/-- `data.lower()`: only the letters A to Z change. -/
def lower_bytes (data : Bytes) : Bytes :=
  data.map fun b => if 65 ≤ b ∧ b ≤ 90 then b + 32 else b

/-- `text.lower()` for comparison with an ASCII word: no other character has
one of the compared letters as its lower case. -/
def lower_str (text : String) : String := String.ofList (text.toList.map Char.toLower)

/-- `c.isspace()` -/
def isspace (c : Char) : Bool :=
  (9 ≤ c.toNat ∧ c.toNat ≤ 13) ∨ (28 ≤ c.toNat ∧ c.toNat ≤ 32) ∨ c.toNat = 0x85 ∨ c.toNat = 0xA0 ∨
    c.toNat = 0x1680 ∨ (0x2000 ≤ c.toNat ∧ c.toNat ≤ 0x200A) ∨ c.toNat = 0x2028 ∨
    c.toNat = 0x2029 ∨ c.toNat = 0x202F ∨ c.toNat = 0x205F ∨ c.toNat = 0x3000

/-- `text.strip()` -/
def strip (text : List Char) : List Char :=
  ((text.dropWhile isspace).reverse.dropWhile isspace).reverse

/-- `text[start:stop]`, counted in code points. -/
def slice (text : String) (start stop : Nat) : String :=
  String.ofList ((text.toList.drop start).take (stop - start))

/-- `sub in data` for `bytes`. -/
def contains_bytes (sub : Bytes) : Bytes → Bool
  | [] => sub.isEmpty
  | b :: rest => sub.isPrefixOf (b :: rest) || contains_bytes sub rest

end python
