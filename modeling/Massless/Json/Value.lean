import Mathlib.Data.List.Basic

namespace json

/-- A JSON value over some kind of numbers. -/
inductive Json (N : Type) where
  | null
  | bool (value : Bool)
  | number (value : N)
  | str (text : String)
  | arr (items : List (Json N))
  | obj (members : List (String × Json N))

variable {N : Type}

/-- What holds of the scalars, and of a container once it holds of its parts, holds of
every value. -/
theorem Json.parts_induction {motive : Json N → Prop} (null : motive .null)
    (bool : ∀ value, motive (.bool value)) (number : ∀ value, motive (.number value))
    (str : ∀ text, motive (.str text))
    (arr : ∀ items, (∀ item ∈ items, motive item) → motive (.arr items))
    (obj : ∀ members, (∀ part ∈ members, motive part.2) → motive (.obj members)) :
    ∀ value, motive value
  | .null => null
  | .bool value => bool value
  | .number value => number value
  | .str text => str text
  | .arr items => arr items fun item _ =>
      Json.parts_induction null bool number str arr obj item
  | .obj members => obj members fun part hpart =>
      have : sizeOf part.2 < sizeOf members := by
        have hsize := List.sizeOf_lt_of_mem hpart
        have hpair : sizeOf part = 1 + sizeOf part.1 + sizeOf part.2 := by cases part; rfl
        omega
      Json.parts_induction null bool number str arr obj part.2

/-- The value of a hexadecimal digit. -/
def hex_digit (c : Char) : Option Nat :=
  if '0' ≤ c ∧ c ≤ '9' then some (c.toNat - 48)
  else if 'a' ≤ c ∧ c ≤ 'f' then some (c.toNat - 87)
  else if 'A' ≤ c ∧ c ≤ 'F' then some (c.toNat - 55)
  else none

/-- The number of the four digits of an escape. -/
def hex_number (a b c d : Char) : Option Nat := do
  let a ← hex_digit a
  let b ← hex_digit b
  let c ← hex_digit c
  let d ← hex_digit d
  some (((a * 16 + b) * 16 + c) * 16 + d)

/-- The escapes of two characters. -/
def short_escape : Char → Option Char
  | '"' => some '"'
  | '\\' => some '\\'
  | '/' => some '/'
  | 'b' => some '\x08'
  | 'f' => some '\x0c'
  | 'n' => some '\n'
  | 'r' => some '\r'
  | 't' => some '\t'
  | _ => none

/-- How a text is written between the quotation marks: a character stands for itself or
is escaped, beyond the basic plane by a pair of escapes. -/
inductive Spells : List Char → List Char → Prop
  | nil : Spells [] []
  | plain (c : Char) (source text : List Char) (hplain : c ≠ '"' ∧ c ≠ '\\' ∧ 32 ≤ c.toNat)
      (hrest : Spells source text) : Spells (c :: source) (c :: text)
  | short (e c : Char) (source text : List Char) (hshort : short_escape e = some c)
      (hrest : Spells source text) : Spells ('\\' :: e :: source) (c :: text)
  | unicode (a b c d : Char) (n : Nat) (source text : List Char)
      (hnumber : hex_number a b c d = some n) (hrest : Spells source text) :
      Spells ('\\' :: 'u' :: a :: b :: c :: d :: source) (Char.ofNat n :: text)
  | surrogates (a b c d a' b' c' d' : Char) (high low : Nat) (source text : List Char)
      (hhigh : hex_number a b c d = some high) (hlow : hex_number a' b' c' d' = some low)
      (hrest : Spells source text) :
      Spells ('\\' :: 'u' :: a :: b :: c :: d :: '\\' :: 'u' :: a' :: b' :: c' :: d' :: source)
        (Char.ofNat (0x10000 + (high - 0xD800) * 0x400 + (low - 0xDC00)) :: text)

/-- A source text of a string: quotation marks around its spelling, and blanks around
those. -/
def StringSource (source text : List Char) : Prop :=
  ∃ before spelled after, source = before ++ '"' :: (spelled ++ '"' :: after) ∧ Spells spelled text

theorem Spells.length_le {source text : List Char} (hspells : Spells source text) :
    text.length ≤ source.length := by
  induction hspells with
  | nil => exact Nat.le_refl 0
  | _ => simp only [List.length_cons]; omega

/-- No text is a source of itself: the marks make every source longer. -/
theorem StringSource.longer {source text : List Char} (hsource : StringSource source text) :
    text.length < source.length := by
  obtain ⟨before, spelled, after, rfl, hspells⟩ := hsource
  have hspelled := hspells.length_le
  simp only [List.length_append, List.length_cons]
  omega

/-- An encoder and a decoder. -/
structure Codec (N : Type) where
  encode : Json N → List UInt8
  decode : List UInt8 → Option (Json N)

/-- Texts are written in UTF-8, and a string in quotation marks. -/
def Codec.StringsQuoted (codec : Codec N) : Prop :=
  ∀ data text, codec.decode data = some (.str text) →
    ∃ source : List Char, data = source.flatMap String.utf8EncodeChar ∧
      StringSource source text.toList

end json
