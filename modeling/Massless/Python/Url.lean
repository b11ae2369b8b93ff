import Massless.Http.Client
import Massless.Python.Utf8

namespace python

/-- Two hexadecimal digits are a byte. -/
def hextobyte (high low : UInt8) : Option UInt8 := do
  let high ← http.hex_value high
  let low ← http.hex_value low
  some (UInt8.ofNat (16 * high + low))

/-- The bytes with their escapes decoded; a `%` without two digits stays. -/
def percent_decode : Bytes → Bytes
  | 37 :: high :: low :: rest =>
    match hextobyte high low with
    | some b => b :: percent_decode rest
    | none => 37 :: percent_decode (high :: low :: rest)
  | b :: rest => b :: percent_decode rest
  | [] => []

/-- `unquote_to_bytes(text)` -/
def unquote_to_bytes (text : String) : Bytes := percent_decode (encode_utf8 text)

/-- `errors="replace"` -/
def replace (_ : Bytes) : List Char := ['\uFFFD']

/-- The runs of ASCII characters in `chars`, after the run read so far, are unquoted and
decoded each on its own; other characters stay. -/
def unquoted_parts (run : Bytes) : List Char → List Char
  | [] => decode_with replace (percent_decode run)
  | c :: rest =>
    if c.toNat < 128 then unquoted_parts (run ++ [UInt8.ofNat c.toNat]) rest
    else decode_with replace (percent_decode run) ++ c :: unquoted_parts [] rest

/-- `unquote(text)` -/
def unquote (text : String) : String :=
  if '%' ∈ text.toList then String.ofList (unquoted_parts [] text.toList) else text

theorem hextobyte_high {b : UInt8} (hb : 128 ≤ b.toNat) (other : UInt8) :
    hextobyte b other = none ∧ hextobyte other b = none := by
  have hnone : http.hex_value b = none := by
    have h57 : ¬b ≤ 57 := by
      rw [UInt8.le_iff_toNat_le]
      exact fun hle => absurd (Nat.le_trans hb hle) (by decide)
    have h70 : ¬b ≤ 70 := by
      rw [UInt8.le_iff_toNat_le]
      exact fun hle => absurd (Nat.le_trans hb hle) (by decide)
    have h102 : ¬b ≤ 102 := by
      rw [UInt8.le_iff_toNat_le]
      exact fun hle => absurd (Nat.le_trans hb hle) (by decide)
    simp only [http.hex_value, h57, h70, h102, and_false, if_false]
  simp [hextobyte, hnone]

theorem percent_decode_high {data : Bytes} (hdata : ∀ b ∈ data, 128 ≤ b.toNat) (rest : Bytes) :
    percent_decode (data ++ rest) = data ++ percent_decode rest := by
  induction data with
  | nil => rfl
  | cons b later ih =>
    rw [List.forall_mem_cons] at hdata
    have hpercent : b ≠ 37 := by
      rintro rfl
      exact absurd hdata.1 (by decide)
    rw [List.cons_append, percent_decode, ih hdata.2, List.cons_append]
    intro high low after hb
    exact absurd hb hpercent

/-- A byte that starts no escape stays. -/
theorem percent_decode_cons {b : UInt8} {data : Bytes}
    (hplain : b = 37 → ∀ high low rest, data = high :: low :: rest → hextobyte high low = none) :
    percent_decode (b :: data) = b :: percent_decode data := by
  by_cases hb : b = 37
  · subst hb
    match data with
    | [] => rfl
    | [_] => rfl
    | high :: low :: rest => rw [percent_decode, hplain rfl high low rest rfl]
  · rw [percent_decode]
    intro high low rest heq
    exact absurd heq hb

/-- Escapes do not reach over a byte outside ASCII. -/
theorem percent_decode_append (run : Bytes) {data : Bytes} (hdata : ∀ b ∈ data, 128 ≤ b.toNat)
    (hne : data ≠ []) (rest : Bytes) :
    percent_decode (run ++ (data ++ rest)) =
      percent_decode run ++ (data ++ percent_decode rest) := by
  obtain ⟨b, later, rfl⟩ := List.exists_cons_of_ne_nil hne
  have hb : 128 ≤ b.toNat := hdata b (by simp)
  induction run using percent_decode.induct with
  | case1 high low after byte hbyte ih =>
    simp only [List.cons_append, percent_decode, hbyte] at ih ⊢
    rw [ih]
  | case2 high low after hbyte ih =>
    simp only [List.cons_append, percent_decode, hbyte] at ih ⊢
    rw [ih]
  | case3 c after hnot ih =>
    have hrun : percent_decode (c :: after) = c :: percent_decode after :=
      percent_decode_cons fun hc high low rest hafter => (hnot high low rest hc hafter).elim
    have hplain : c = 37 → ∀ high low tail, after ++ (b :: later ++ rest) = high :: low :: tail →
        hextobyte high low = none := by
      intro hc high low tail hsplit
      -- One of the two bytes behind the `%` is `b`.
      match after with
      | [] =>
        rw [List.nil_append, List.cons_append] at hsplit
        rw [← (List.cons.inj hsplit).1]
        exact (hextobyte_high hb low).1
      | [x] =>
        simp only [List.cons_append, List.nil_append, List.cons.injEq] at hsplit
        rw [← hsplit.2.1]
        exact (hextobyte_high hb high).2
      | x :: y :: more => exact absurd rfl (hnot x y more hc)
    rw [hrun]
    exact (percent_decode_cons hplain).trans (congrArg (c :: ·) ih)
  | case4 => exact percent_decode_high hdata rest

/-- Decoding the runs one by one is decoding the bytes of the whole text. -/
theorem unquoted_parts_eq (run : Bytes) (chars : List Char) :
    unquoted_parts run chars =
      decode_with replace (percent_decode (run ++ chars.flatMap String.utf8EncodeChar)) := by
  induction chars generalizing run with
  | nil => rw [unquoted_parts, List.flatMap_nil, List.append_nil]
  | cons c rest ih =>
    rw [unquoted_parts, List.flatMap_cons]
    split
    · rename_i hascii
      rw [ih, encode_ascii hascii, List.append_assoc]
    · rename_i hascii
      rw [percent_decode_append run (encode_high (Nat.le_of_not_lt hascii))
        String.utf8EncodeChar_ne_nil, decode_with_append, decode_with_char, ih, List.nil_append]

theorem percent_decode_eq_self {data : Bytes} (hdata : 37 ∉ data) : percent_decode data = data := by
  induction data with
  | nil => rfl
  | cons b rest ih =>
    rw [List.mem_cons, not_or] at hdata
    rw [percent_decode_cons fun hb => absurd hb.symm hdata.1, ih hdata.2]

/-- `unquote` decodes the bytes that `unquote_to_bytes` gives, with replacement. -/
theorem unquote_toList (text : String) :
    (unquote text).toList = decode_with replace (unquote_to_bytes text) := by
  unfold unquote unquote_to_bytes
  split
  · rw [String.toList_ofList, unquoted_parts_eq, List.nil_append]
    rfl
  · rename_i hpercent
    have hbytes : 37 ∉ encode_utf8 text := by
      intro hmem
      obtain ⟨c, hc, hb⟩ := List.mem_flatMap.mp hmem
      by_cases hascii : c.toNat < 128
      · rw [encode_ascii hascii, List.mem_singleton] at hb
        have hcode : c.toNat = '%'.toNat := by
          have hnat := congrArg UInt8.toNat hb
          rw [UInt8.toNat_ofNat', Nat.mod_eq_of_lt (by omega)] at hnat
          exact hnat.symm
        exact hpercent (Char.toNat_inj.mp hcode ▸ hc)
      · exact absurd (encode_high (Nat.le_of_not_lt hascii) 37 hb) (by decide)
    rw [percent_decode_eq_self hbytes, decode_with_encode]

end python
