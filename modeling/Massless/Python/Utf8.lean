import Massless.Python.Bytes

namespace python

/-- The character that some bytes start with in UTF-8. -/
def first_char (data : Bytes) : Option Char := ByteArray.utf8DecodeChar? ⟨data.toArray⟩ 0

/-- The bytes that follow the lead byte of a sequence: how many of them, and the range
of the first. -/
def continuations (lead : UInt8) : Nat × UInt8 × UInt8 :=
  if lead < 0xC2 then (0, 0, 0)
  else if lead < 0xE0 then (1, 0x80, 0xBF)
  else if lead = 0xE0 then (2, 0xA0, 0xBF)
  else if lead = 0xED then (2, 0x80, 0x9F)
  else if lead < 0xF0 then (2, 0x80, 0xBF)
  else if lead = 0xF0 then (3, 0x90, 0xBF)
  else if lead < 0xF4 then (3, 0x80, 0xBF)
  else if lead = 0xF4 then (3, 0x80, 0x8F)
  else (0, 0, 0)

/-- What a decoding error covers: the longest start of a sequence at the front, and at
least a byte. -/
def broken_length : Bytes → Nat
  | [] => 0
  | [_] => 1
  | lead :: second :: rest =>
    let (count, least, greatest) := continuations lead
    if 2 ≤ count ∧ least ≤ second ∧ second ≤ greatest then
      if count = 3 ∧ ∃ third ∈ rest.head?, 0x80 ≤ third ∧ third ≤ 0xBF then 3 else 2
    else 1

theorem broken_length_pos {data : Bytes} (hdata : data ≠ []) : 0 < broken_length data := by
  match data with
  | [_] => exact Nat.one_pos
  | lead :: second :: rest =>
    simp only [broken_length]
    split_ifs <;> decide

theorem broken_length_le (data : Bytes) : broken_length data ≤ data.length := by
  match data with
  | [] => exact Nat.le_refl 0
  | [_] => exact Nat.le_refl 1
  | [lead, second] =>
    simp only [broken_length, List.head?_nil, Option.mem_def, reduceCtorEq, false_and, exists_false,
      and_false, if_false]
    split_ifs <;> simp
  | lead :: second :: third :: rest =>
    simp only [broken_length, List.length_cons]
    split_ifs <;> omega

theorem broken_part_ne_nil {data : Bytes} (hdata : data ≠ []) :
    data.take (broken_length data) ≠ [] := by
  have hpos := broken_length_pos hdata
  simp only [ne_eq, List.take_eq_nil_iff, not_or]
  exact ⟨by omega, hdata⟩

/-- `data.decode("utf-8", errors)`, where the handler gives the characters for the bytes
of an error. -/
def decode_with (errors : Bytes → List Char) (data : Bytes) : List Char :=
  if _hdata : data = [] then []
  else match first_char data with
    | some c => c :: decode_with errors (data.drop c.utf8Size)
    | none =>
      errors (data.take (broken_length data)) ++ decode_with errors (data.drop (broken_length data))
termination_by data.length
decreasing_by
  · have hpos := List.length_pos_iff.mpr _hdata
    have hsize := c.utf8Size_pos
    rw [List.length_drop]
    omega
  · have hpos := List.length_pos_iff.mpr _hdata
    have hbroken := broken_length_pos _hdata
    rw [List.length_drop]
    omega

theorem first_char_encode (c : Char) (rest : Bytes) :
    first_char (String.utf8EncodeChar c ++ rest) = some c := by
  have hdecode := ByteArray.utf8DecodeChar?_utf8EncodeChar_append (b := ⟨rest.toArray⟩) (c := c)
  have hbytes : (String.utf8EncodeChar c).toByteArray ++ ⟨rest.toArray⟩ =
      (⟨(String.utf8EncodeChar c ++ rest).toArray⟩ : ByteArray) := by
    apply ByteArray.ext
    simp
  rwa [hbytes] at hdecode

/-- The first character of some bytes is encoded at their front. -/
theorem first_char_eq_some {data : Bytes} {c : Char} (hfirst : first_char data = some c) :
    ∃ rest, data = String.utf8EncodeChar c ++ rest := by
  obtain ⟨rest, hrest⟩ := ByteArray.exists_of_utf8DecodeChar?_eq_some hfirst
  refine ⟨rest.data.toList, ?_⟩
  have hbytes := congrArg (fun bytes => bytes.data.toList) hrest
  simpa using hbytes

theorem encode_ascii {c : Char} (hc : c.toNat < 128) :
    String.utf8EncodeChar c = [UInt8.ofNat c.toNat] := by
  have hval : c.toNat = c.val.toNat := rfl
  rw [hval] at hc ⊢
  unfold String.utf8EncodeChar
  dsimp only
  rw [if_pos (by omega)]

/-- No byte of a character outside ASCII is an ASCII byte. -/
theorem encode_high {c : Char} (hc : 128 ≤ c.toNat) :
    ∀ b ∈ String.utf8EncodeChar c, 128 ≤ b.toNat := by
  have hval : c.toNat = c.val.toNat := rfl
  have hmax : c.val.toNat < 0x110000 := by
    have hvalid := c.valid
    simp only [UInt32.isValidChar, Nat.isValidChar] at hvalid
    omega
  rw [hval] at hc
  unfold String.utf8EncodeChar
  dsimp only
  generalize c.val.toNat = v at *
  intro b hb
  split at hb
  · omega
  · split at hb
    · simp only [List.mem_cons, List.not_mem_nil, or_false] at hb
      obtain rfl | rfl := hb <;> rw [UInt8.toNat_ofNat'] <;> omega
    · split at hb
      · simp only [List.mem_cons, List.not_mem_nil, or_false] at hb
        obtain rfl | rfl | rfl := hb <;> rw [UInt8.toNat_ofNat'] <;> omega
      · simp only [List.mem_cons, List.not_mem_nil, or_false] at hb
        obtain rfl | rfl | rfl | rfl := hb <;> rw [UInt8.toNat_ofNat'] <;> omega

theorem decode_with_nil (errors : Bytes → List Char) : decode_with errors [] = [] := by
  rw [decode_with, dif_pos rfl]

theorem decode_with_char (errors : Bytes → List Char) (c : Char) (rest : Bytes) :
    decode_with errors (String.utf8EncodeChar c ++ rest) = c :: decode_with errors rest := by
  have hne : String.utf8EncodeChar c ++ rest ≠ [] := by simp [String.utf8EncodeChar_ne_nil]
  rw [decode_with, dif_neg hne, first_char_encode]
  dsimp only
  rw [← String.length_utf8EncodeChar, List.drop_left]

theorem decode_with_broken (errors : Bytes → List Char) {data : Bytes} (hdata : data ≠ [])
    (hfirst : first_char data = none) : decode_with errors data =
      errors (data.take (broken_length data)) ++
        decode_with errors (data.drop (broken_length data)) := by
  rw [decode_with, dif_neg hdata, hfirst]

/-- Bytes are text, or they start with text and go on with an error. -/
theorem text_or_broken (data : Bytes) : ∃ text rest, data = encode_utf8 text ++ rest ∧
    (rest = [] ∨ rest ≠ [] ∧ first_char rest = none) := by
  induction hlength : data.length using Nat.strongRecOn generalizing data with
  | ind length ih =>
    cases hfirst : first_char data with
    | none =>
      refine ⟨"", data, rfl, ?_⟩
      by_cases hdata : data = []
      · exact .inl hdata
      · exact .inr ⟨hdata, hfirst⟩
    | some c =>
      obtain ⟨after, rfl⟩ := first_char_eq_some hfirst
      have hsize := c.utf8Size_pos
      obtain ⟨text, rest, rfl, hrest⟩ := ih after.length (by
        rw [← hlength, List.length_append, String.length_utf8EncodeChar]
        omega) after rfl
      refine ⟨String.ofList (c :: text.toList), rest, ?_, hrest⟩
      simp [encode_utf8]

theorem decode_with_text (errors : Bytes → List Char) (text : String) (rest : Bytes) :
    decode_with errors (encode_utf8 text ++ rest) = text.toList ++ decode_with errors rest := by
  rw [encode_utf8]
  induction text.toList with
  | nil => rfl
  | cons c later ih =>
    rw [List.flatMap_cons, List.append_assoc, decode_with_char, ih, List.cons_append]

theorem decode_with_encode (errors : Bytes → List Char) (text : String) :
    decode_with errors (encode_utf8 text) = text.toList := by
  have htext := decode_with_text errors text []
  rwa [decode_with_nil, List.append_nil, List.append_nil] at htext

/-- Two ways to show an error that start with different characters agree on text and on
nothing else. -/
theorem decode_with_eq_iff {errors other : Bytes → List Char}
    (hother : ∀ part, part ≠ [] → ∀ c ∈ (errors part).head?, ∀ d ∈ (other part).head?, c ≠ d)
    (hshown : ∀ part, part ≠ [] → errors part ≠ [] ∧ other part ≠ []) (data : Bytes) :
    decode_with errors data = decode_with other data ↔ ∃ text, data = encode_utf8 text := by
  constructor
  · intro hsame
    obtain ⟨text, rest, rfl, rfl | ⟨hrest, hbroken⟩⟩ := text_or_broken data
    · exact ⟨text, List.append_nil _⟩
    · have hpart := broken_part_ne_nil hrest
      obtain ⟨hshown_here, hshown_there⟩ := hshown _ hpart
      obtain ⟨c, shown, hc⟩ := List.exists_cons_of_ne_nil hshown_here
      obtain ⟨d, shown', hd⟩ := List.exists_cons_of_ne_nil hshown_there
      have hne := hother _ hpart c (by rw [hc]; rfl) d (by rw [hd]; rfl)
      rw [decode_with_text, decode_with_text, decode_with_broken errors hrest hbroken,
        decode_with_broken other hrest hbroken, hc, hd] at hsame
      exact absurd (List.cons.inj (List.append_cancel_left hsame)).1 hne
  · rintro ⟨text, rfl⟩
    rw [decode_with_encode, decode_with_encode]

theorem decode_utf8_iff (data : Bytes) (text : String) :
    decode_utf8 data = some text ↔ data = encode_utf8 text := by
  have hbytes : text.toByteArray = ⟨(encode_utf8 text).toArray⟩ := by
    rw [← String.utf8Encode_toList, List.utf8Encode]
    apply ByteArray.ext
    simp [encode_utf8]
  unfold decode_utf8 String.fromUTF8?
  constructor
  · intro hdecoded
    obtain ⟨hvalid, htext⟩ := Option.dite_none_right_eq_some.mp hdecoded
    have hsame := congrArg String.toByteArray (Option.some.inj htext)
    rw [hbytes] at hsame
    have hdata : data.toArray = (encode_utf8 text).toArray := congrArg ByteArray.data hsame
    simpa using hdata
  · rintro rfl
    rw [← hbytes, dif_pos text.isValidUTF8]
    rfl

/-- The bytes of a character after the first do not start one. -/
theorem continuation_not_first {b : UInt8} (hleast : 0x80 ≤ b) (hgreatest : b ≤ 0xBF) :
    ¬b.IsUTF8FirstByte := by
  have hall : ∀ n < 256, 0x80 ≤ UInt8.ofNat n → UInt8.ofNat n ≤ 0xBF →
      ¬(UInt8.ofNat n).IsUTF8FirstByte := by decide +kernel
  have hb := hall b.toNat b.toNat_lt
  rw [UInt8.ofNat_toNat] at hb
  exact hb hleast hgreatest

theorem continuations_range {lead : UInt8} (hcount : 2 ≤ (continuations lead).1) :
    0x80 ≤ (continuations lead).2.1 ∧ (continuations lead).2.2 ≤ 0xBF := by
  unfold continuations at hcount ⊢
  split_ifs at hcount ⊢ <;> first | decide | exact absurd hcount (by decide)

/-- A character behind an error does not change where the error ends. -/
theorem broken_length_append {data : Bytes} (hdata : data ≠ []) (c : Char) (rest : Bytes) :
    broken_length (data ++ (String.utf8EncodeChar c ++ rest)) = broken_length data := by
  obtain ⟨first, later, hencode⟩ := List.exists_cons_of_ne_nil (String.utf8EncodeChar_ne_nil (c := c))
  have hfirst : first.IsUTF8FirstByte := by
    have hzero := UInt8.isUTF8FirstByte_getElem_zero_utf8EncodeChar (c := c)
    simpa only [hencode, List.getElem_cons_zero] using hzero
  rw [hencode, List.cons_append]
  match data with
  | [lead] =>
    simp only [List.cons_append, List.nil_append, broken_length]
    rw [if_neg]
    rintro ⟨hcount, hleast, hgreatest⟩
    obtain ⟨hlow, hhigh⟩ := continuations_range hcount
    exact continuation_not_first (UInt8.le_trans hlow hleast) (UInt8.le_trans hgreatest hhigh) hfirst
  | [lead, second] =>
    have hthird : ¬(0x80 ≤ first ∧ first ≤ 0xBF) := fun hrange =>
      continuation_not_first hrange.1 hrange.2 hfirst
    simp only [List.cons_append, List.nil_append, broken_length, List.head?_cons, List.head?_nil,
      Option.mem_def, Option.some.injEq, exists_eq_left', hthird, and_false, reduceCtorEq,
      false_and, exists_false]
  | lead :: second :: third :: after => rfl

theorem first_char_append {data : Bytes} (hdata : data ≠ []) (hfirst : first_char data = none)
    (c : Char) (rest : Bytes) : first_char (data ++ (String.utf8EncodeChar c ++ rest)) = none := by
  by_contra hsome
  obtain ⟨d, hd⟩ := Option.ne_none_iff_exists'.mp hsome
  obtain ⟨after, hafter⟩ := first_char_eq_some hd
  obtain ⟨middle, hmiddle⟩ | ⟨middle, hmiddle⟩ := List.append_eq_append_iff.mp hafter
  · obtain ⟨hd_encode, hrest⟩ := hmiddle
    cases middle with
    | nil =>
      rw [List.append_nil] at hd_encode
      have hwhole := first_char_encode d []
      rw [List.append_nil, hd_encode, hfirst] at hwhole
      cases hwhole
    | cons b more =>
      -- The encoding of `d` would go on with the first byte of `c`.
      have hindex : data.length < (String.utf8EncodeChar d).length := by
        rw [hd_encode]
        simp
      have hbyte : (String.utf8EncodeChar d)[data.length] = b := by
        simp [hd_encode]
      obtain ⟨first, later, hencode⟩ :=
        List.exists_cons_of_ne_nil (String.utf8EncodeChar_ne_nil (c := c))
      have hzero := UInt8.isUTF8FirstByte_getElem_zero_utf8EncodeChar (c := c)
      simp only [hencode, List.getElem_cons_zero] at hzero
      rw [hencode, List.cons_append, List.cons_append] at hrest
      rw [(List.cons.inj hrest).1, ← hbyte, UInt8.isUTF8FirstByte_getElem_utf8EncodeChar] at hzero
      exact hdata (List.length_eq_zero_iff.mp hzero)
  · rw [hmiddle.1, first_char_encode] at hfirst
    cases hfirst

/-- Where a character starts, decoding splits: what is before it does not reach into it. -/
theorem decode_with_append (errors : Bytes → List Char) (data : Bytes) (c : Char) (rest : Bytes) :
    decode_with errors (data ++ (String.utf8EncodeChar c ++ rest)) =
      decode_with errors data ++ decode_with errors (String.utf8EncodeChar c ++ rest) := by
  induction hlength : data.length using Nat.strongRecOn generalizing data with
  | ind length ih =>
    obtain ⟨text, tail, rfl, rfl | ⟨htail, hbroken⟩⟩ := text_or_broken data
    · rw [List.append_nil, decode_with_encode, decode_with_text]
    · have hpos := broken_length_pos htail
      have hshort : (tail.drop (broken_length tail)).length < length := by
        have htail_length := List.length_pos_iff.mpr htail
        rw [← hlength, List.length_drop, List.length_append]
        omega
      have hle : broken_length tail ≤ tail.length := broken_length_le tail
      rw [List.append_assoc, decode_with_text, decode_with_text,
        decode_with_broken errors (List.append_ne_nil_of_left_ne_nil htail _)
          (first_char_append htail hbroken c rest),
        decode_with_broken errors htail hbroken, broken_length_append htail,
        List.take_append_of_le_length hle, List.drop_append_of_le_length hle, ih _ hshort _ rfl]
      simp only [List.append_assoc]

end python
