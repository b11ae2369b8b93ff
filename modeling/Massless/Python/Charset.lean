import Massless.Python.Utf8

namespace python

/-- The UTF-8 bytes of some characters. -/
def encode_chars (text : List Char) : Bytes := text.flatMap String.utf8EncodeChar

/-- A set of bytes and a set of characters with the same encoding: every byte of a
character is in the one exactly when the character is in the other. -/
def SameSet (bytes : UInt8 → Bool) (chars : Char → Bool) : Prop :=
  ∀ c, ∀ b ∈ String.utf8EncodeChar c, bytes b = chars c

theorem encode_chars_cons (c : Char) (text : List Char) :
    encode_chars (c :: text) = String.utf8EncodeChar c ++ encode_chars text := rfl

theorem encode_chars_append (first second : List Char) :
    encode_chars (first ++ second) = encode_chars first ++ encode_chars second :=
  List.flatMap_append

theorem encode_chars_eq_nil {text : List Char} : encode_chars text = [] ↔ text = [] := by
  cases text with
  | nil => exact ⟨fun _ => rfl, fun _ => rfl⟩
  | cons c rest => simp [encode_chars_cons, String.utf8EncodeChar_ne_nil]

/-- A range of ASCII is one set. -/
theorem same_set_range {least greatest : Nat} (hleast : least ≤ greatest)
    (hgreatest : greatest < 128) :
    SameSet (fun b => UInt8.ofNat least ≤ b && b ≤ UInt8.ofNat greatest)
      (fun c => least ≤ c.toNat && c.toNat ≤ greatest) := by
  intro c b hb
  simp only [UInt8.le_iff_toNat_le, UInt8.toNat_ofNat', Nat.mod_eq_of_lt (by omega : least < 2 ^ 8),
    Nat.mod_eq_of_lt (by omega : greatest < 2 ^ 8), ← Bool.decide_and, decide_eq_decide]
  by_cases hc : c.toNat < 128
  · rw [encode_ascii hc, List.mem_singleton] at hb
    rw [hb, UInt8.toNat_ofNat', Nat.mod_eq_of_lt (by omega : c.toNat < 2 ^ 8)]
  · have hhigh := encode_high (Nat.le_of_not_lt hc) b hb
    omega

theorem SameSet.or {bytes other_bytes : UInt8 → Bool} {chars other_chars : Char → Bool}
    (hfirst : SameSet bytes chars) (hsecond : SameSet other_bytes other_chars) :
    SameSet (fun b => bytes b || other_bytes b) (fun c => chars c || other_chars c) := by
  intro c b hb
  exact congrArg₂ Bool.or (hfirst c b hb) (hsecond c b hb)

theorem SameSet.not {bytes : UInt8 → Bool} {chars : Char → Bool} (hsame : SameSet bytes chars) :
    SameSet (fun b => !bytes b) (fun c => !chars c) := by
  intro c b hb
  exact congrArg Bool.not (hsame c b hb)

theorem same_set_char (ascii : Char) (hascii : ascii.toNat < 128) :
    SameSet (fun b => b == UInt8.ofNat ascii.toNat) (fun c => c == ascii) := by
  intro c b hb
  rw [Bool.eq_iff_iff, beq_iff_eq, beq_iff_eq, ← UInt8.toNat_inj, ← Char.toNat_inj,
    UInt8.toNat_ofNat', Nat.mod_eq_of_lt (by omega : ascii.toNat < 2 ^ 8)]
  by_cases hc : c.toNat < 128
  · rw [encode_ascii hc, List.mem_singleton] at hb
    rw [hb, UInt8.toNat_ofNat', Nat.mod_eq_of_lt (by omega : c.toNat < 2 ^ 8)]
  · have hhigh := encode_high (Nat.le_of_not_lt hc) b hb
    omega

theorem takeWhile_encode {bytes : UInt8 → Bool} {chars : Char → Bool} (hsame : SameSet bytes chars)
    (text : List Char) :
    (encode_chars text).takeWhile bytes = encode_chars (text.takeWhile chars) := by
  induction text with
  | nil => rfl
  | cons c rest ih =>
    rw [encode_chars_cons]
    by_cases hc : chars c = true
    · have hall : ∀ b ∈ String.utf8EncodeChar c, bytes b = true := fun b hb =>
        (hsame c b hb).trans hc
      rw [List.takeWhile_append_of_pos hall, List.takeWhile_cons_of_pos hc, ih, encode_chars_cons]
    · obtain ⟨first, later, hencode⟩ :=
        List.exists_cons_of_ne_nil (String.utf8EncodeChar_ne_nil (c := c))
      have hfirst : ¬bytes first = true := by
        rw [hsame c first (by simp [hencode])]
        exact hc
      rw [hencode, List.cons_append, List.takeWhile_cons_of_neg hfirst,
        List.takeWhile_cons_of_neg hc]
      rfl

theorem encode_chars_of_ascii {text : List Char} (htext : ∀ c ∈ text, c.toNat < 128) :
    encode_chars text = text.map fun c => UInt8.ofNat c.toNat := by
  induction text with
  | nil => rfl
  | cons c rest ih =>
    rw [List.forall_mem_cons] at htext
    rw [encode_chars_cons, encode_ascii htext.1, ih htext.2]
    rfl

theorem decode_encode_chars (text : List Char) :
    decode_utf8 (encode_chars text) = some (String.ofList text) := by
  rw [decode_utf8_iff, encode_utf8, String.toList_ofList]
  rfl

/-- An encoded text starts with another exactly when the texts do. -/
theorem encode_isPrefixOf_iff (first text : List Char) :
    (encode_chars first).isPrefixOf (encode_chars text) = true ↔ first <+: text := by
  rw [List.isPrefixOf_iff_prefix]
  constructor
  · intro hbytes
    induction first generalizing text with
    | nil => exact List.nil_prefix
    | cons c first ih =>
      obtain ⟨after, hafter⟩ := hbytes
      cases text with
      | nil =>
        have hnil := (List.append_eq_nil_iff.mp hafter).1
        cases encode_chars_eq_nil.mp hnil
      | cons d text =>
        rw [encode_chars_cons, encode_chars_cons, List.append_assoc] at hafter
        have hchar := congrArg first_char hafter
        rw [first_char_encode, first_char_encode] at hchar
        cases hchar
        exact List.cons_prefix_cons.mpr ⟨rfl, ih text ⟨after, List.append_cancel_left hafter⟩⟩
  · rintro ⟨after, rfl⟩
    rw [encode_chars_append]
    exact List.prefix_append _ _

end python
