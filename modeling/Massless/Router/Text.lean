import Mathlib.Data.List.TakeWhile
import Massless.Python.Charset
import Massless.Router.Scan

open python
open regex

namespace massless.router

variable {Obj : Type}

/-- A part of a route as text, not yet encoded. -/
inductive TextPart where
  | lit (text : List Char)
  | param (kind : Kind) (name : String)

def TextPart.encode : TextPart → Part
  | .lit text => .lit (encode_chars text)
  | .param kind name => .param kind name

def text_literal (text : String) : List TextPart :=
  if text.isEmpty then [] else [.lit text.toList]

/-- The parts of a route from the position `prev` on, `none` for a converter that is not
one of the built-in ones. -/
def text_components (route : String) (prev : Nat) : List Component → Option (List TextPart)
  | [] => some (text_literal (slice route prev route.length))
  | m :: rest => do
    let kind ← KIND (m.converter.getD "str")
    let parts ← text_components route m.stop rest
    some (text_literal (slice route prev m.start) ++ .param kind m.parameter :: parts)

def text_parts (finditer : String → List Component) (route : String) : Option (List TextPart) :=
  text_components route 0 (finditer route)

def digit_char (c : Char) : Bool := 48 ≤ c.toNat && c.toNat ≤ 57

def slug_char (c : Char) : Bool :=
  (48 ≤ c.toNat && c.toNat ≤ 57) || (65 ≤ c.toNat && c.toNat ≤ 90) ||
    (97 ≤ c.toNat && c.toNat ≤ 122) || c == '-' || c == '_'

def lower_hex_char (c : Char) : Bool :=
  (48 ≤ c.toNat && c.toNat ≤ 57) || (97 ≤ c.toNat && c.toNat ≤ 102)

/-- What stands at one place of a UUID in the 8-4-4-4-12 form. -/
def uuid_char (i : Nat) (c : Char) : Bool :=
  if i = 8 ∨ i = 13 ∨ i = 18 ∨ i = 23 then c == '-' else lower_hex_char c

/-- The regex of a converter, with what its `.` accepts as a parameter. -/
def Kind.regex (dot : Char → Bool) : Kind → Regex (Kind × String)
  | .K_INT => .many digit_char
  | .K_STR => .many fun c => c != '/'
  | .K_SLUG => .many slug_char
  | .K_UUID => each ((List.range 36).map uuid_char)
  | .K_PATH => .many dot

/-- `converter.to_python(value)`, where `none` is a `ValueError`. -/
def to_python : Kind → List Char → Option (Value Obj)
  | .K_INT, text =>
    if text.length > 4300 then none
    else some (.int (text.foldl (fun n c => 10 * n + (c.toNat - 48)) 0))
  | .K_UUID, text =>
    some (.uuid ((text.filter fun c => c != '-').foldl
      (fun n c => 16 * n + if digit_char c then c.toNat - 48 else c.toNat - 87) 0))
  | .K_STR, text | .K_SLUG, text | .K_PATH, text => some (.str (String.ofList text))

/-- The groups of a match, each converted. -/
def convert_groups : Groups (Kind × String) → Option (List (Capture String Obj))
  | [] => some []
  | ((kind, name), text) :: rest => do
    let value ← to_python kind text
    let later ← convert_groups rest
    some (⟨name, String.ofList text, value⟩ :: later)

/-- The regex that the parts of a route are joined to, up to its end. -/
def parts_regex (dot : Char → Bool) (last : Regex (Kind × String)) :
    List TextPart → Regex (Kind × String)
  | [] => last
  | .lit text :: rest => .seq (escape text) (parts_regex dot last rest)
  | .param kind name :: rest =>
    .seq (.group (kind, name) (kind.regex dot)) (parts_regex dot last rest)

theorem parse_components_eq_text (route : String) (prev : Nat) (components : List Component) :
    parse_components route prev components =
      (text_components route prev components).map (List.map TextPart.encode) := by
  have hliteral : ∀ text : String,
      literal_part text = (text_literal text).map TextPart.encode := by
    intro text
    unfold literal_part text_literal
    split <;> rfl
  induction components generalizing prev with
  | nil => rw [parse_components, text_components, hliteral, Option.map_some]
  | cons m rest ih =>
    simp only [parse_components, text_components, Option.bind_eq_bind, ih]
    cases KIND (m.converter.getD "str") with
    | none => rfl
    | some kind =>
      cases text_components route m.stop rest with
      | none => rfl
      | some parts => simp [hliteral, TextPart.encode]

/-- The table's parts are the encoded parts of the text. -/
theorem parse_raw_eq_text (finditer : String → List Component) (route : String) :
    parse_raw finditer route = (text_parts finditer route).map (List.map TextPart.encode) :=
  parse_components_eq_text route 0 (finditer route)

theorem same_set_digit : SameSet is_digit digit_char :=
  same_set_range (by decide) (by decide)

theorem same_set_hyphen : SameSet (fun b => b == 45) (fun c => c == '-') :=
  same_set_char '-' (by decide)

theorem same_set_slug : SameSet is_slug slug_char :=
  ((((same_set_range (by decide) (by decide)).or (same_set_range (by decide) (by decide))).or
    (same_set_range (by decide) (by decide))).or same_set_hyphen).or (same_set_char '_' (by decide))

theorem same_set_lower_hex : SameSet is_lower_hex lower_hex_char :=
  (same_set_range (by decide) (by decide)).or (same_set_range (by decide) (by decide))

theorem same_set_segment : SameSet (fun b => b != 47) (fun c => c != '/') :=
  (same_set_char '/' (by decide)).not

/-- What stands at one place of a UUID, as a byte. -/
def uuid_byte (i : Nat) (b : UInt8) : Bool :=
  if i = 8 ∨ i = 13 ∨ i = 18 ∨ i = 23 then b == 45 else is_lower_hex b

theorem same_set_uuid (i : Nat) : SameSet (uuid_byte i) (uuid_char i) := by
  intro c b hb
  unfold uuid_byte uuid_char
  split
  · exact same_set_hyphen c b hb
  · exact same_set_lower_hex c b hb

theorem uuid_char_ascii {i : Nat} {c : Char} (hc : uuid_char i c = true) : c.toNat < 128 := by
  unfold uuid_char at hc
  split at hc
  · rw [beq_iff_eq.mp hc]
    decide
  · simp only [lower_hex_char, Bool.or_eq_true, Bool.and_eq_true, decide_eq_true_eq] at hc
    omega

/-- Classes of ASCII characters match an encoded text as they match the text. -/
theorem front_encode (indices : List Nat) (text : List Char) :
    front (indices.map uuid_byte) (encode_chars text) =
      (front (indices.map uuid_char) text).map encode_chars := by
  induction indices generalizing text with
  | nil => rfl
  | cons i rest ih =>
    cases text with
    | nil => rfl
    | cons c text =>
      rw [List.map_cons, List.map_cons, front]
      by_cases hc : uuid_char i c = true
      · have hascii := encode_ascii (uuid_char_ascii hc)
        have hbyte := same_set_uuid i c (UInt8.ofNat c.toNat) (by simp [hascii])
        rw [encode_chars_cons, hascii, List.singleton_append, front, hbyte, if_pos hc, if_pos hc, ih]
      · obtain ⟨first, later, hencode⟩ :=
          List.exists_cons_of_ne_nil (String.utf8EncodeChar_ne_nil (c := c))
        have hbyte := same_set_uuid i c first (by simp [hencode])
        rw [encode_chars_cons, hencode, List.cons_append, front, hbyte, if_neg hc, if_neg hc]
        rfl

theorem match_uuid_iff (data : Bytes) :
    match_uuid data 0 data.length = true ↔
      (front ((List.range 36).map uuid_byte) data).isSome = true := by
  rw [List.range_eq_range', front_places_iff 0]
  unfold match_uuid
  by_cases hlength : 0 + 36 > data.length
  · rw [if_pos hlength]
    simp only [Bool.false_eq_true, false_iff]
    omega
  · rw [if_neg hlength, List.all_eq_true]
    simp only [List.mem_range, Nat.zero_add]
    have hlong : 36 ≤ data.length := by omega
    simp only [hlong, true_and]
    apply forall₂_congr
    intro i _
    rw [uuid_byte]

/-- A run of one set of characters is what the scanning loop takes of the bytes. -/
theorem scan_encode {bytes : UInt8 → Bool} {chars : Char → Bool} (hsame : SameSet bytes chars)
    (text : List Char) :
    router.scan bytes (encode_chars text) 0 = (encode_chars (text.takeWhile chars)).length := by
  rw [router.scan, List.drop_zero, takeWhile_encode hsame]

theorem toNat_ofNat_of_ascii {c : Char} (hc : c.toNat < 128) :
    (UInt8.ofNat c.toNat).toNat = c.toNat := by
  rw [UInt8.toNat_ofNat', Nat.mod_eq_of_lt (by omega : c.toNat < 2 ^ 8)]

theorem convert_encode_int {text : List Char} (htext : ∀ c ∈ text, digit_char c = true) :
    (convert .K_INT (encode_chars text) : Option (Value Obj)) = to_python .K_INT text := by
  have hascii : ∀ c ∈ text, c.toNat < 128 := by
    intro c hc
    have hrange := htext c hc
    simp only [digit_char, Bool.and_eq_true, decide_eq_true_eq] at hrange
    omega
  rw [encode_chars_of_ascii hascii]
  simp only [convert, to_python, int_of_digits, List.length_map]
  split
  · rfl
  · rw [Option.map_some, List.foldl_map]
    congr 2
    apply List.foldl_ext
    intro n c hc
    rw [toNat_ofNat_of_ascii (hascii c hc)]

theorem convert_encode_uuid {text : List Char} (hascii : ∀ c ∈ text, c.toNat < 128) :
    (convert .K_UUID (encode_chars text) : Option (Value Obj)) = to_python .K_UUID text := by
  have hbyte : ∀ c ∈ text, UInt8.ofNat c.toNat ∈ String.utf8EncodeChar c := by
    intro c hc
    simp [encode_ascii (hascii c hc)]
  have hhyphen : text.filter ((fun b : UInt8 => b != 45) ∘ fun c => UInt8.ofNat c.toNat) =
      text.filter fun c => c != '-' :=
    List.filter_congr fun c hc => same_set_hyphen.not c _ (hbyte c hc)
  rw [encode_chars_of_ascii hascii]
  simp only [convert, to_python, uuid_int, List.filter_map, hhyphen, List.foldl_map]
  congr 2
  apply List.foldl_ext
  intro n c hc
  have hmem := List.mem_of_mem_filter hc
  rw [toNat_ofNat_of_ascii (hascii c hmem), same_set_digit c _ (hbyte c hmem)]

theorem convert_encode_str (text : List Char) :
    ((decode_utf8 (encode_chars text)).map .str : Option (Value Obj)) =
      some (.str (String.ofList text)) := by
  rw [decode_encode_chars, Option.map_some]

/-- Where the text of a parameter ends, and what it is converted to. -/
def ParamTakes (Obj : Type) (kind : Kind) (text : List Char) : Prop :=
  match (kind.regex fun _ => true).greedy text with
  | none => param_end kind (encode_chars text) 0 = none
  | some (rest, groups) => groups = [] ∧ ∃ taken, text = taken ++ rest ∧
    param_end kind (encode_chars text) 0 = some (encode_chars taken).length ∧
    (convert kind (encode_chars taken) : Option (Value Obj)) = to_python kind taken

/-- A converter with a run of characters takes the bytes of its longest run. -/
theorem param_takes_many {kind : Kind} {bytes : UInt8 → Bool} {chars : Char → Bool}
    (hsame : SameSet bytes chars) (text : List Char)
    (hregex : kind.regex (fun _ => true) = .many chars)
    (hend : param_end kind (encode_chars text) 0 =
      if router.scan bytes (encode_chars text) 0 = 0 then none
      else some (router.scan bytes (encode_chars text) 0))
    (hconvert : (convert kind (encode_chars (text.takeWhile chars)) : Option (Value Obj)) =
      to_python kind (text.takeWhile chars)) : ParamTakes Obj kind text := by
  simp only [scan_encode hsame, List.length_eq_zero_iff, encode_chars_eq_nil] at hend
  simp only [ParamTakes, hregex, Regex.greedy]
  by_cases hnone : text.takeWhile chars = []
  · rw [if_pos hnone] at hend ⊢
    exact hend
  · rw [if_neg hnone] at hend ⊢
    exact ⟨rfl, _, List.takeWhile_append_dropWhile.symm, hend, hconvert⟩

theorem param_takes (kind : Kind) (text : List Char) : ParamTakes Obj kind text := by
  cases kind with
  | K_INT =>
    refine param_takes_many same_set_digit text rfl ?_ (convert_encode_int ?_)
    · simp only [param_end, Nat.zero_add]
    · exact fun c hc => List.mem_takeWhile_imp hc
  | K_STR =>
    refine param_takes_many same_set_segment text rfl ?_ (convert_encode_str _)
    simp only [param_end, Nat.zero_add]
  | K_SLUG =>
    refine param_takes_many same_set_slug text rfl ?_ (convert_encode_str _)
    simp only [param_end, Nat.zero_add]
  | K_PATH =>
    have hsame : SameSet (fun _ => true) fun _ => true := fun _ _ _ => rfl
    refine param_takes_many hsame text rfl ?_ (convert_encode_str _)
    have hall : router.scan (fun _ => true) (encode_chars text) 0 = (encode_chars text).length := by
      rw [router.scan, List.drop_zero, List.takeWhile_eq_self_iff.mpr fun _ _ => rfl]
    rw [hall]
    rfl
  | K_UUID =>
    have hbytes := front_encode (List.range 36) text
    simp only [ParamTakes, Kind.regex, greedy_each, param_end]
    cases hfront : front ((List.range 36).map uuid_char) text with
    | none =>
      rw [hfront, Option.map_none] at hbytes
      have hnone : ¬match_uuid (encode_chars text) 0 (encode_chars text).length = true := by
        rw [match_uuid_iff, hbytes]
        exact Bool.false_ne_true
      simp [hnone]
    | some rest =>
      rw [hfront, Option.map_some] at hbytes
      have huuid : match_uuid (encode_chars text) 0 (encode_chars text).length = true := by
        rw [match_uuid_iff, hbytes]
        rfl
      obtain ⟨taken, rfl, hlength, htaken⟩ := front_eq_some hfront
      have hascii : ∀ c ∈ taken, c.toNat < 128 := by
        intro c hc
        obtain ⟨accepts, haccepts, hc_accepts⟩ := htaken c hc
        obtain ⟨i, -, rfl⟩ := List.mem_map.mp haccepts
        exact uuid_char_ascii hc_accepts
      simp only [huuid, if_true, Option.map_some, Nat.zero_add]
      refine ⟨trivial, taken, rfl, ?_, convert_encode_uuid hascii⟩
      rw [encode_chars_of_ascii hascii, List.length_map, hlength, List.length_map, List.length_range]
      rfl

def Capture.encode (self : Capture String Obj) : Capture Bytes Obj :=
  ⟨self.name, encode_utf8 self.text, self.value⟩

/-- The table captures out of the bytes of a text what its parts take of the text, each
parameter as much as it can. -/
theorem capture_parts_encode (parts : List TextPart) (text : List Char) :
    (capture_parts (parts.map TextPart.encode) (encode_chars text) :
        Option (List (Capture Bytes Obj))) =
      ((parts_regex (fun _ => true) .stop parts).greedy text).bind fun found =>
        (convert_groups found.2).map (List.map Capture.encode) := by
  induction parts generalizing text with
  | nil =>
    simp only [List.map_nil, capture_parts, parts_regex, Regex.greedy, encode_chars_eq_nil]
    split <;> rfl
  | cons part rest ih =>
    cases part with
    | lit literal =>
      simp only [List.map_cons, TextPart.encode, capture_parts, parts_regex, Regex.greedy,
        greedy_escape, encode_isPrefixOf_iff]
      by_cases hliteral : literal <+: text
      · obtain ⟨after, rfl⟩ := hliteral
        rw [if_pos (List.prefix_append _ _), if_pos (List.prefix_append _ _), encode_chars_append,
          List.drop_left, ih, Option.bind_some, List.drop_left, Option.bind_map]
        rfl
      · rw [if_neg hliteral, if_neg hliteral]
        rfl
    | param kind name =>
      have htakes : ParamTakes Obj kind text := param_takes kind text
      simp only [List.map_cons, TextPart.encode, capture_parts, parts_regex, Regex.greedy,
        Option.bind_eq_bind]
      unfold ParamTakes at htakes
      cases hgreedy : (kind.regex fun _ => true).greedy text with
      | none =>
        simp only [hgreedy] at htakes
        rw [htakes]
        rfl
      | some found =>
        obtain ⟨left, groups⟩ := found
        simp only [hgreedy] at htakes
        obtain ⟨rfl, taken, rfl, hend, hconvert⟩ := htakes
        rw [hend, Option.bind_some, encode_chars_append, List.take_left, List.drop_left, hconvert, ih]
        simp only [Option.map_some, Option.bind_some, Option.bind_map, List.length_append,
          Nat.add_sub_cancel_right, List.take_left, List.nil_append, Function.comp_def,
          List.singleton_append, convert_groups, Option.bind_eq_bind]
        cases (to_python kind taken : Option (Value Obj)) with
        | none => simp
        | some value =>
          cases (parts_regex (fun _ => true) .stop rest).greedy left with
          | none => rfl
          | some later =>
            simp only [Option.bind_some]
            cases (convert_groups later.2 : Option (List (Capture String Obj))) with
            | none => rfl
            | some captures => simp [Capture.encode, encode_utf8, encode_chars]

end massless.router
