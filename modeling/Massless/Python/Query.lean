import Massless.Http.Head
import Massless.Python.Dict
import Massless.Python.Url

namespace python

/-- `text.replace("+", " ")` -/
def plus_to_space (text : List Char) : List Char := text.map fun c => if c = '+' then ' ' else c

/-- `unquote_plus(text)` -/
def unquote_plus (text : List Char) : String := unquote (String.ofList (plus_to_space text))

/-- What the loop of `parse_qsl` makes of a `name_value`. -/
def parse_field (keep_blank_values : Bool) (name_value : List Char) : Option (String × String) :=
  let name := name_value.takeWhile (· ≠ '=')
  let value := (name_value.dropWhile (· ≠ '=')).drop 1
  if name_value ≠ [] ∧ (value ≠ [] ∨ keep_blank_values = true) then
    some (unquote_plus name, unquote_plus value)
  else none

/-- `parse_qsl(qs, keep_blank_values)` -/
def parse_qsl (keep_blank_values : Bool) (qs : String) : List (String × String) :=
  (qs.toList.splitOn '&').filterMap (parse_field keep_blank_values)

/-- `parse_qs(qs)` -/
def parse_qs (qs : String) : Dict String (List String) :=
  (parse_qsl false qs).foldl Dict.append_to .empty

/-- The ways to write a byte in a form-encoded text. -/
inductive WritesByte : UInt8 → List Char → Prop
  | plain {c : Char} (hascii : c.toNat < 128) (hfree : c ≠ '%' ∧ c ≠ '&' ∧ c ≠ '+') :
    WritesByte (UInt8.ofNat c.toNat) [c]
  | plus : WritesByte 32 ['+']
  | escape {high low : Char} {b : UInt8} (hhigh : high.toNat < 128) (hlow : low.toNat < 128)
    (hbyte : hextobyte (UInt8.ofNat high.toNat) (UInt8.ofNat low.toNat) = some b) :
    WritesByte b ['%', high, low]

/-- The ways to write a text: its bytes in UTF-8, each in one of its ways. -/
def Writes (text : String) (raw : List Char) : Prop :=
  ∃ parts, List.Forall₂ WritesByte (encode_utf8 text) parts ∧ raw = parts.flatten

/-- The ways to write a pair. A name without a value may stand alone. -/
inductive WritesPair : String × String → List Char → Prop
  | bare {name : String} {raw : List Char} (hname : Writes name raw) (hfree : '=' ∉ raw) :
    WritesPair (name, "") raw
  | assigned {name value : String} {left right : List Char} (hname : Writes name left)
    (hfree : '=' ∉ left) (hvalue : Writes value right) :
    WritesPair (name, value) (left ++ '=' :: right)

/-- A byte that `quote` leaves as it is. -/
def always_safe (b : UInt8) : Bool :=
  (48 ≤ b ∧ b ≤ 57) ∨ (65 ≤ b ∧ b ≤ 90) ∨ (97 ≤ b ∧ b ≤ 122) ∨ b ∈ ascii "_.-~"

/-- `quote_plus` of a byte. -/
def quote_octet (b : UInt8) : List Char :=
  if b = 32 then ['+']
  else if always_safe b then [Char.ofNat b.toNat]
  else ['%', (b.toNat / 16).digitChar.toUpper, (b.toNat % 16).digitChar.toUpper]

/-- `quote_plus(text)` -/
def quote_plus (text : String) : List Char := (encode_utf8 text).flatMap quote_octet

/-- A pair in `urlencode(pairs)`. -/
def urlencode_pair (pair : String × String) : List Char :=
  quote_plus pair.1 ++ '=' :: quote_plus pair.2

theorem hextobyte_ascii {high low b : UInt8} (hbyte : hextobyte high low = some b) :
    high ≠ 43 ∧ high ≠ 38 ∧ low ≠ 43 ∧ low ≠ 38 := by
  have hplus : http.hex_value 43 = none := by decide
  have hamp : http.hex_value 38 = none := by decide
  refine ⟨?_, ?_, ?_, ?_⟩ <;> rintro rfl <;> simp [hextobyte, hplus, hamp] at hbyte

theorem ascii_char_ne {c d : Char} (hne : UInt8.ofNat c.toNat ≠ UInt8.ofNat d.toNat) : c ≠ d := by
  rintro rfl
  exact hne rfl

theorem WritesByte.no_separator {b : UInt8} {part : List Char} (hpart : WritesByte b part) :
    '&' ∉ part := by
  cases hpart with
  | plain _ hfree => simpa using hfree.2.1.symm
  | plus => decide
  | escape _ _ hbyte =>
    obtain ⟨-, hhigh, -, hlow⟩ := hextobyte_ascii hbyte
    have hhigh := ascii_char_ne (d := '&') hhigh
    have hlow := ascii_char_ne (d := '&') hlow
    simp [hhigh.symm, hlow.symm]

theorem Writes.no_separator {text : String} {raw : List Char} (hwrites : Writes text raw) :
    '&' ∉ raw := by
  obtain ⟨parts, hparts, rfl⟩ := hwrites
  intro hmem
  obtain ⟨part, hpart, hin⟩ := List.mem_flatten.mp hmem
  obtain ⟨i, hi, rfl⟩ := List.mem_iff_getElem.mp hpart
  have hi' : i < (encode_utf8 text).length := hparts.length_eq ▸ hi
  exact (hparts.get hi' hi).no_separator hin

theorem WritesPair.no_separator {pair : String × String} {raw : List Char}
    (hwrites : WritesPair pair raw) : '&' ∉ raw := by
  cases hwrites with
  | bare hname _ => exact hname.no_separator
  | assigned hname _ hvalue => simp [hname.no_separator, hvalue.no_separator]

/-- A byte is read back from any of its ways. -/
theorem WritesByte.decoded {b : UInt8} {part : List Char} (hpart : WritesByte b part)
    (rest : Bytes) :
    percent_decode ((plus_to_space part).flatMap String.utf8EncodeChar ++ rest) =
      b :: percent_decode rest := by
  cases hpart with
  | @plain c hascii hfree =>
    have hpercent : UInt8.ofNat c.toNat ≠ 37 := by
      intro heq
      have hcode := congrArg UInt8.toNat heq
      rw [UInt8.toNat_ofNat', Nat.mod_eq_of_lt (by omega)] at hcode
      exact hfree.1 (Char.toNat_inj.mp hcode)
    simp only [plus_to_space, List.map_cons, List.map_nil, if_neg hfree.2.2, List.flatMap_cons,
      List.flatMap_nil, encode_ascii hascii, List.append_nil, List.singleton_append]
    exact percent_decode_cons fun heq => absurd heq hpercent
  | plus => exact percent_decode_cons fun heq => absurd heq (by decide)
  | @escape high low b hhigh hlow hbyte =>
    obtain ⟨hhigh_plus, -, hlow_plus, -⟩ := hextobyte_ascii hbyte
    have hhigh_plus := ascii_char_ne (d := '+') hhigh_plus
    have hlow_plus := ascii_char_ne (d := '+') hlow_plus
    simp only [plus_to_space, List.map_cons, List.map_nil, if_neg hhigh_plus, if_neg hlow_plus,
      List.flatMap_cons, List.flatMap_nil, encode_ascii hhigh, encode_ascii hlow]
    show percent_decode (37 :: UInt8.ofNat high.toNat :: UInt8.ofNat low.toNat :: rest) = _
    rw [percent_decode, hbyte]

/-- `quote_plus` is one of the ways. -/
theorem writes_quote_octet (b : UInt8) : WritesByte b (quote_octet b) := by
  have hsafe : ∀ b : UInt8, always_safe b = true → (Char.ofNat b.toNat).toNat < 128 ∧
      (Char.ofNat b.toNat ≠ '%' ∧ Char.ofNat b.toNat ≠ '&' ∧ Char.ofNat b.toNat ≠ '+') ∧
      UInt8.ofNat (Char.ofNat b.toNat).toNat = b := http.forall_octet (by decide +kernel)
  have hescape : ∀ b : UInt8, ((b.toNat / 16).digitChar.toUpper).toNat < 128 ∧
      ((b.toNat % 16).digitChar.toUpper).toNat < 128 ∧
      hextobyte (UInt8.ofNat ((b.toNat / 16).digitChar.toUpper).toNat)
        (UInt8.ofNat ((b.toNat % 16).digitChar.toUpper).toNat) = some b :=
    http.forall_octet (by decide +kernel)
  unfold quote_octet
  split
  · rename_i hspace
    subst hspace
    exact .plus
  · split
    · rename_i hplain
      obtain ⟨hascii, hfree, hbyte⟩ := hsafe b hplain
      have hwrites := WritesByte.plain hascii hfree
      rwa [hbyte] at hwrites
    · obtain ⟨hhigh, hlow, hbyte⟩ := hescape b
      exact .escape hhigh hlow hbyte

theorem writes_quote_plus (text : String) : Writes text (quote_plus text) := by
  refine ⟨(encode_utf8 text).map quote_octet, ?_, rfl⟩
  rw [List.forall₂_map_right_iff, List.forall₂_same]
  exact fun b _ => writes_quote_octet b

theorem equals_not_mem_quote_plus (text : String) : '=' ∉ quote_plus text := by
  have hoctet : ∀ b : UInt8, '=' ∉ quote_octet b := http.forall_octet (by decide +kernel)
  intro hmem
  obtain ⟨b, -, hb⟩ := List.mem_flatMap.mp hmem
  exact hoctet b hb

theorem writes_urlencode (pairs : List (String × String)) :
    List.Forall₂ WritesPair pairs (pairs.map urlencode_pair) := by
  rw [List.forall₂_map_right_iff, List.forall₂_same]
  exact fun pair _ => .assigned (writes_quote_plus pair.1) (equals_not_mem_quote_plus pair.1)
    (writes_quote_plus pair.2)

theorem percent_decode_parts {data : Bytes} {parts : List (List Char)}
    (hparts : List.Forall₂ WritesByte data parts) :
    percent_decode ((plus_to_space parts.flatten).flatMap String.utf8EncodeChar) = data := by
  induction hparts with
  | nil => rfl
  | cons hpart _ ih =>
    rw [List.flatten_cons, plus_to_space, List.map_append, List.flatMap_append, ← plus_to_space,
      ← plus_to_space, hpart.decoded, ih]

/-- What `unquote_plus` gives, character by character. -/
theorem toList_unquote_plus (text : List Char) : (unquote_plus text).toList =
    decode_with replace (percent_decode ((plus_to_space text).flatMap String.utf8EncodeChar)) := by
  rw [unquote_plus, unquote_toList, unquote_to_bytes, encode_utf8, String.toList_ofList]

/-- A text is read back from any of its ways. -/
theorem Writes.unquote_plus {text : String} {raw : List Char} (hwrites : Writes text raw) :
    unquote_plus raw = text := by
  obtain ⟨parts, hparts, rfl⟩ := hwrites
  rw [← String.toList_inj, toList_unquote_plus, percent_decode_parts hparts, decode_with_encode]

theorem decode_with_ne_nil {data : Bytes} (hdata : data ≠ []) : decode_with replace data ≠ [] := by
  rw [decode_with, dif_neg hdata]
  split
  · exact List.cons_ne_nil _ _
  · exact List.cons_ne_nil _ _

theorem percent_decode_ne_nil {data : Bytes} (hdata : data ≠ []) : percent_decode data ≠ [] := by
  unfold percent_decode
  split
  · split <;> exact List.cons_ne_nil _ _
  · exact List.cons_ne_nil _ _
  · exact absurd rfl hdata

/-- Only the empty text is read as the empty text. -/
theorem unquote_plus_eq_empty_iff (text : List Char) : unquote_plus text = "" ↔ text = [] := by
  constructor
  · intro hempty
    by_contra htext
    obtain ⟨c, rest, rfl⟩ := List.exists_cons_of_ne_nil htext
    have hbytes : (plus_to_space (c :: rest)).flatMap String.utf8EncodeChar ≠ [] := by
      simp [plus_to_space, List.flatMap_cons, String.utf8EncodeChar_ne_nil]
    apply decode_with_ne_nil (percent_decode_ne_nil hbytes)
    rw [← toList_unquote_plus, hempty, String.toList_empty]
  · rintro rfl
    decide

/-- The pairs without the blank values are those of a reader that drops blank values. -/
theorem parse_qsl_dropped (qs : String) :
    parse_qsl false qs = (parse_qsl true qs).filter fun pair => pair.2 ≠ "" := by
  have hfield : ∀ field, parse_field false field =
      (parse_field true field).filter fun pair => pair.2 ≠ "" := by
    intro field
    simp only [parse_field]
    generalize (field.dropWhile (· ≠ '=')).drop 1 = value
    have hblank := unquote_plus_eq_empty_iff value
    by_cases hfield : field = []
    · simp [hfield]
    · by_cases hvalue : value = []
      · subst hvalue
        simp [hfield, hblank.mpr rfl, Option.filter_some]
      · simp [hfield, hvalue, hblank.not.mpr hvalue, Option.filter_some]
  rw [parse_qsl, parse_qsl, List.filter_filterMap]
  exact List.filterMap_congr fun field _ => hfield field

theorem parse_field_assigned {left right : List Char} (hfree : '=' ∉ left) :
    parse_field false (left ++ '=' :: right) =
      if right = [] then none else some (unquote_plus left, unquote_plus right) := by
  have hplain : ∀ c ∈ left, decide (c ≠ '=') = true := by
    rintro c hc
    exact decide_eq_true fun heq => hfree (heq ▸ hc)
  simp only [parse_field, List.takeWhile_append_of_pos hplain, List.dropWhile_append_of_pos hplain]
  by_cases hright : right = [] <;> simp [hright]

theorem parse_field_bare {raw : List Char} (hfree : '=' ∉ raw) : parse_field false raw = none := by
  have hplain : raw.dropWhile (· ≠ '=') = [] := by
    rw [← List.append_nil raw, List.dropWhile_append_of_pos, List.dropWhile_nil]
    exact fun c hc => decide_eq_true fun heq => hfree (heq ▸ hc)
  simp only [parse_field, hplain]
  simp

/-- A pair is read back from any of its ways, but not a pair with a blank value. -/
theorem WritesPair.parse_field {pair : String × String} {raw : List Char}
    (hwrites : WritesPair pair raw) :
    parse_field false raw = if pair.2 = "" then none else some pair := by
  cases hwrites with
  | bare _ hfree => rw [parse_field_bare hfree, if_pos rfl]
  | assigned hname hfree hvalue =>
    simp only [parse_field_assigned hfree, ← unquote_plus_eq_empty_iff, hvalue.unquote_plus,
      hname.unquote_plus]

/-- The pairs are read back from any way to write them, in order, but for those with a
blank value. -/
theorem parse_qsl_writes {pairs : List (String × String)} {fields : List (List Char)}
    (hwrites : List.Forall₂ WritesPair pairs fields) :
    parse_qsl false (String.ofList (['&'].intercalate fields)) =
      pairs.filter fun pair => pair.2 ≠ "" := by
  have hread : fields.filterMap (parse_field false) = pairs.filter fun pair => pair.2 ≠ "" := by
    induction hwrites with
    | nil => rfl
    | @cons pair field _ _ hfield _ ih =>
      rw [List.filterMap_cons, hfield.parse_field, List.filter_cons, ← ih]
      by_cases hblank : pair.2 = "" <;> simp [hblank]
  have hfree : ∀ field ∈ fields, '&' ∉ field := by
    intro field hfield
    obtain ⟨i, hi, rfl⟩ := List.mem_iff_getElem.mp hfield
    exact (hwrites.get (hwrites.length_eq ▸ hi) hi).no_separator
  rw [← hread, parse_qsl, String.toList_ofList]
  by_cases hnone : fields = []
  · subst hnone
    rfl
  · rw [List.splitOn_intercalate '&' hfree hnone]

end python
