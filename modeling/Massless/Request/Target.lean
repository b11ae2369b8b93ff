import Massless.Python.Url
import Massless.Request.Environ
import Massless.Request.Writes

open python

namespace massless.request

variable {Obj : Type}

/-- A byte as a percent escape. -/
def quote_byte (b : UInt8) : List Char :=
  ['%', (b.toNat / 16).digitChar.toUpper, (b.toNat % 16).digitChar.toUpper]

/-- The characters that `repercent_broken_unicode` puts in the place of an error. -/
def repercent (part : Bytes) : List Char := part.flatMap quote_byte

/-- What the request line of a promoted request rests on: without `FORCE_SCRIPT_NAME` and
script variables there is no script name, the path info is decoded from the bytes of
`PATH_INFO`, with escapes for those that are not UTF-8, and `upper` is the usual one on
ASCII. -/
structure Django.ReadsLine (django : Django Obj) : Prop where
  script_name : ∀ vars : Dict String String, vars.get? "SCRIPT_URL" = none →
    vars.get? "REDIRECT_URL" = none → vars.get? "SCRIPT_NAME" = none →
    django.get_script_name vars = ""
  path_info : ∀ (vars : Dict String String) (data : Bytes),
    vars.get? "PATH_INFO" = some (decode_latin1 data) →
    django.get_path_info vars = String.ofList (decode_with repercent data)
  upper : ∀ text : String, (∀ c ∈ text.toList, c.toNat < 128) →
    django.str_upper text = String.ofList (text.toList.map Char.toUpper)

/-- The standard library's decoders, next to the proxy's parser. -/
def stdlib (forwarded_overrides : String → List (Bytes × Bytes) →
    Option String × Option (String × Int)) : Urllib :=
  ⟨unquote, unquote_to_bytes, forwarded_overrides⟩

/-- The bytes that a path on the request line stands for. -/
def decoded_path (raw : Bytes) : Bytes :=
  if 37 ∈ raw then unquote_to_bytes (decode_latin1 raw) else raw

/-- A path that both decoders read alike: it starts with a slash, and it is UTF-8 where
escapes are decoded and ASCII where there are none. -/
def AlikePath (raw : Bytes) : Prop :=
  (decoded_path raw).head? = some 47 ∧
    if 37 ∈ raw then decode_utf8 (decoded_path raw) ≠ none else ∀ b ∈ raw, b < 128

instance (raw : Bytes) : Decidable (AlikePath raw) := inferInstanceAs (Decidable (_ ∧ _))

/-- No letter of the method is in lower case. -/
def UpperMethod (method : Bytes) : Prop := ∀ b ∈ method, ¬(97 ≤ b ∧ b ≤ 122)

instance (method : Bytes) : Decidable (UpperMethod method) :=
  inferInstanceAs (Decidable (∀ b ∈ method, _))

theorem toList_decode_latin1 (data : Bytes) :
    (decode_latin1 data).toList = data.map fun b => Char.ofNat b.toNat :=
  String.toList_ofList

theorem latin1_char_toNat (b : UInt8) : (Char.ofNat b.toNat).toNat = b.toNat := by
  have hlt := b.toNat_lt
  have hvalid : Nat.isValidChar b.toNat := .inl (by omega)
  rw [Char.ofNat, dif_pos hvalid]
  rfl

theorem percent_mem_iff (raw : Bytes) : '%' ∈ (decode_latin1 raw).toList ↔ 37 ∈ raw := by
  rw [toList_decode_latin1, List.mem_map]
  constructor
  · rintro ⟨b, hb, hchar⟩
    have hcode := congrArg Char.toNat hchar
    rw [latin1_char_toNat] at hcode
    have hb37 : b = 37 := UInt8.toNat_inj.mp hcode
    rwa [← hb37]
  · intro hmem
    exact ⟨37, hmem, by decide⟩

theorem RequestCore.wsgi_path_eq {self : RequestCore} {raw : Bytes} (hpath : self.path = some raw)
    (forwarded_overrides : String → List (Bytes × Bytes) → Option String × Option (String × Int)) :
    self.wsgi_path (stdlib forwarded_overrides) = some (decode_latin1 (decoded_path raw)) := by
  simp only [RequestCore.wsgi_path, hpath, Option.map_some, percent_mem_iff, decoded_path, stdlib]
  split <;> rfl

/-- An error is never shown as nothing. -/
theorem repercent_ne_nil {part : Bytes} (hpart : part ≠ []) : ∃ shown, repercent part = '%' :: shown := by
  obtain ⟨b, rest, rfl⟩ := List.exists_cons_of_ne_nil hpart
  exact ⟨_, rfl⟩

theorem decode_repercent_eq_nil_iff (data : Bytes) : decode_with repercent data = [] ↔ data = [] := by
  constructor
  · intro hnil
    obtain ⟨text, rest, rfl, rfl | ⟨hrest, hbroken⟩⟩ := text_or_broken data
    · rw [List.append_nil, decode_with_encode] at hnil
      simp [encode_utf8, hnil]
    · obtain ⟨shown, hshown⟩ := repercent_ne_nil (broken_part_ne_nil hrest)
      rw [decode_with_text, decode_with_broken _ hrest hbroken, hshown] at hnil
      simp at hnil
  · rintro rfl
    exact decode_with_nil _

/-- Escapes: `unquote` and Django's decoder agree on text and on nothing else. -/
theorem unquote_eq_iff (raw : Bytes) :
    decode_with repercent (unquote_to_bytes (decode_latin1 raw)) =
        (unquote (decode_latin1 raw)).toList ↔
      decode_utf8 (unquote_to_bytes (decode_latin1 raw)) ≠ none := by
  rw [unquote_toList, decode_with_eq_iff, Option.ne_none_iff_exists']
  · simp only [decode_utf8_iff]
  · intro part hpart c hc d hd
    obtain ⟨shown, hshown⟩ := repercent_ne_nil hpart
    rw [hshown] at hc
    simp only [List.head?_cons, Option.mem_def, Option.some.injEq, replace] at hc hd
    rw [← hc, ← hd]
    decide
  · intro part hpart
    obtain ⟨shown, hshown⟩ := repercent_ne_nil hpart
    rw [hshown]
    exact ⟨by simp, by simp [replace]⟩

theorem length_le_encode (chars : List Char) :
    chars.length ≤ (chars.flatMap String.utf8EncodeChar).length := by
  induction chars with
  | nil => exact Nat.le_refl 0
  | cons c rest ih =>
    have hsize := c.utf8Size_pos
    rw [List.flatMap_cons, List.length_append, String.length_utf8EncodeChar, List.length_cons]
    omega

/-- A text with as many bytes as characters is ASCII. -/
theorem ascii_of_length {chars : List Char}
    (hlength : (chars.flatMap String.utf8EncodeChar).length = chars.length) :
    ∀ c ∈ chars, c.toNat < 128 := by
  induction chars with
  | nil => simp
  | cons c rest ih =>
    have hsize := c.utf8Size_pos
    have hrest := length_le_encode rest
    rw [List.flatMap_cons, List.length_append, String.length_utf8EncodeChar, List.length_cons]
      at hlength
    have hone : c.utf8Size = 1 := by omega
    have hval : c.val ≤ 127 := Char.utf8Size_eq_one_iff.mp hone
    rw [List.forall_mem_cons]
    refine ⟨?_, ih (by omega)⟩
    rw [UInt32.le_iff_toNat_le] at hval
    exact Nat.lt_succ_of_le hval

/-- No escapes: Django's decoder leaves the bytes as they are if they are ASCII. -/
theorem latin1_eq_iff {raw : Bytes} (hpercent : 37 ∉ raw) :
    decode_with repercent raw = (decode_latin1 raw).toList ↔ ∀ b ∈ raw, b < 128 := by
  constructor
  · intro hsame
    have hshown : '%' ∉ decode_with repercent raw := by
      rwa [hsame, percent_mem_iff]
    obtain ⟨text, rest, rfl, rfl | ⟨hrest, hbroken⟩⟩ := text_or_broken raw
    · rw [List.append_nil] at hsame ⊢
      rw [decode_with_encode, toList_decode_latin1] at hsame
      have hlength := congrArg List.length hsame
      rw [List.length_map] at hlength
      have hascii := ascii_of_length hlength.symm
      intro b hb
      obtain ⟨c, hc, hbyte⟩ := List.mem_flatMap.mp hb
      rw [encode_ascii (hascii c hc), List.mem_singleton] at hbyte
      rw [hbyte, UInt8.lt_iff_toNat_lt, UInt8.toNat_ofNat']
      exact Nat.lt_of_le_of_lt (Nat.mod_le _ _) (hascii c hc)
    · obtain ⟨shown, hfirst⟩ := repercent_ne_nil (broken_part_ne_nil hrest)
      rw [decode_with_text, decode_with_broken _ hrest hbroken, hfirst] at hshown
      simp at hshown
  · intro hascii
    have hencode : encode_utf8 (decode_latin1 raw) = raw := by
      rw [encode_utf8, toList_decode_latin1]
      clear hpercent
      induction raw with
      | nil => rfl
      | cons b rest ih =>
        rw [List.forall_mem_cons] at hascii
        have hb : b.toNat < 128 := UInt8.lt_iff_toNat_lt.mp hascii.1
        rw [List.map_cons, List.flatMap_cons, ih hascii.2,
          encode_ascii (by rwa [latin1_char_toNat]), latin1_char_toNat, UInt8.ofNat_toNat]
        rfl
    conv_lhs => rw [← hencode]
    exact decode_with_encode _ _

theorem upper_eq_iff {method : Bytes} (hascii : ∀ b ∈ method, b < 128) :
    String.ofList ((decode_latin1 method).toList.map Char.toUpper) = decode_latin1 method ↔
      UpperMethod method := by
  have hbyte : ∀ b : UInt8, b < 128 →
      ((Char.ofNat b.toNat).toUpper = Char.ofNat b.toNat ↔ ¬(97 ≤ b ∧ b ≤ 122)) := by
    have hall : ∀ n < 128, ((Char.ofNat (UInt8.ofNat n).toNat).toUpper =
        Char.ofNat (UInt8.ofNat n).toNat ↔ ¬(97 ≤ UInt8.ofNat n ∧ UInt8.ofNat n ≤ 122)) := by
      decide +kernel
    intro b hb
    have hnat := hall b.toNat (UInt8.lt_iff_toNat_lt.mp hb)
    rwa [UInt8.ofNat_toNat] at hnat
  rw [toList_decode_latin1, decode_latin1, String.ofList_inj, List.map_map, UpperMethod]
  rw [List.map_inj_left]
  exact forall₂_congr fun b hb => hbyte b (hascii b hb)

/-- The path of a request line, as an un-promoted request reads it. -/
def line_path (raw : Bytes) : String :=
  if '%' ∈ (decode_latin1 raw).toList then unquote (decode_latin1 raw) else decode_latin1 raw

/-- The path info that Django makes out of it. -/
def promoted_path_info (raw : Bytes) : String :=
  String.ofList (decode_with repercent (decoded_path raw))

theorem promoted_path_info_eq_iff (raw : Bytes) :
    promoted_path_info raw = line_path raw ↔
      if 37 ∈ raw then decode_utf8 (decoded_path raw) ≠ none else ∀ b ∈ raw, b < 128 := by
  rw [← String.toList_inj, promoted_path_info, String.toList_ofList, decoded_path, line_path]
  simp only [percent_mem_iff]
  by_cases hpercent : 37 ∈ raw
  · simp only [if_pos hpercent]
    exact unquote_eq_iff raw
  · simp only [if_neg hpercent]
    exact latin1_eq_iff hpercent

theorem head?_decode_repercent_iff (data : Bytes) :
    (decode_with repercent data).head? = some '/' ↔ data.head? = some 47 := by
  cases hfirst : first_char data with
  | some c =>
    obtain ⟨rest, rfl⟩ := first_char_eq_some hfirst
    have hhead := head?_encode_utf8_iff (String.ofList [c]) (c := '/') (by decide)
    obtain ⟨b, later, hencode⟩ :=
      List.exists_cons_of_ne_nil (String.utf8EncodeChar_ne_nil (c := c))
    simp only [encode_utf8, String.toList_ofList, List.flatMap_singleton, hencode,
      List.head?_cons] at hhead
    rw [decode_with_char, hencode, List.cons_append, List.head?_cons, List.head?_cons]
    exact hhead.symm
  | none =>
    by_cases hdata : data = []
    · subst hdata
      rw [decode_with_nil]
      simp
    · obtain ⟨shown, hshown⟩ := repercent_ne_nil (broken_part_ne_nil hdata)
      rw [decode_with_broken _ hdata hfirst, hshown]
      constructor
      · intro hslash
        simp at hslash
      · intro hslash
        obtain ⟨rest, rfl⟩ := List.head?_eq_some_iff.mp hslash
        have hwhole := first_char_encode '/' rest
        rw [encode_ascii (by decide)] at hwhole
        exact absurd (hfirst.symm.trans hwhole) (by simp)

theorem line_path_of_empty {raw : Bytes} (hempty : promoted_path_info raw = "") :
    line_path raw = "" := by
  have hdecoded : decoded_path raw = [] := by
    rw [← decode_repercent_eq_nil_iff, ← String.toList_ofList (l := decode_with _ _)]
    exact String.toList_eq_nil_iff.mpr hempty
  rw [line_path]
  simp only [percent_mem_iff]
  unfold decoded_path at hdecoded
  split at hdecoded
  · rename_i hpercent
    rw [if_pos hpercent, ← String.toList_eq_nil_iff, unquote_toList, hdecoded, decode_with_nil]
  · rename_i hpercent
    rw [if_neg hpercent, hdecoded]
    rfl

/-- Path and path info come out the same exactly for the paths that are read alike. -/
theorem paths_eq_iff {raw : Bytes} {path_info : String}
    (hpath_info : path_info = if promoted_path_info raw = "" then "/" else promoted_path_info raw) :
    ("/" ++ String.ofList (drop_first_slash path_info.toList) = line_path raw ∧
      path_info = line_path raw) ↔ AlikePath raw := by
  have hchars : (promoted_path_info raw).toList = decode_with repercent (decoded_path raw) :=
    String.toList_ofList
  rw [AlikePath, ← promoted_path_info_eq_iff, ← head?_decode_repercent_iff, ← hchars]
  by_cases hempty : promoted_path_info raw = ""
  · rw [if_pos hempty] at hpath_info
    rw [line_path_of_empty hempty, hempty, hpath_info]
    simp
  · rw [if_neg hempty] at hpath_info
    subst hpath_info
    constructor
    · rintro ⟨hpath, hinfo⟩
      refine ⟨?_, hinfo⟩
      rw [hinfo, ← hpath, String.toList_append]
      rfl
    · rintro ⟨hslash, hinfo⟩
      obtain ⟨rest, hrest⟩ := List.head?_eq_some_iff.mp hslash
      refine ⟨?_, hinfo⟩
      rw [← hinfo, ← String.toList_inj, String.toList_append, hrest]
      simp [drop_first_slash]

/-- The paths that the constructor stores for a request line. -/
theorem Django.ReadsLine.paths {django : Django Obj} (hdjango : django.ReadsLine)
    {core : RequestCore} {raw : Bytes} (hraw : core.path = some raw)
    (forwarded_overrides : String → List (Bytes × Bytes) → Option String × Option (String × Int)) :
    let vars := core.environ_vars (stdlib forwarded_overrides)
    django.path_info vars = (if promoted_path_info raw = "" then "/" else promoted_path_info raw) ∧
      django.full_path vars =
        "/" ++ String.ofList (drop_first_slash (django.path_info vars).toList) := by
  intro vars
  have hinfo : vars.get? "PATH_INFO" = some (decode_latin1 (decoded_path raw)) := by
    rw [core.get?_environ_vars _ (by decide) (by decide)]
    simp [RequestCore.request_vars, core.wsgi_path_eq hraw]
  have hscript : django.get_script_name vars = "" := by
    apply hdjango.script_name <;> rw [core.get?_environ_vars _ (by decide) (by decide)] <;>
      simp [RequestCore.request_vars]
  constructor
  · rw [Django.path_info, hdjango.path_info vars _ hinfo]
    rfl
  · rw [Django.full_path, hscript]
    rfl

/-- What the constructor stores for the request line. -/
theorem Django.constructed_line (django : Django Obj) (method : String) (vars : Dict String String)
    (body : Bytes) :
    (django.constructed (.str method) vars body).get? "method" =
      some (.py (.str (django.str_upper method))) ∧
    (django.constructed (.str method) vars body).get? "path" =
      some (.py (.str (django.full_path vars))) ∧
    (django.constructed (.str method) vars body).get? "path_info" =
      some (.py (.str (django.path_info vars))) := by
  unfold Django.constructed upper_method
  dsimp only
  split
  · contradiction
  · rename_i hmethod _
    cases hmethod
    simp [finished, Django.typed, Django.located]
  · rename_i hmethod _
    cases hmethod
    split <;> simp [finished, Django.typed, Django.located]

/-- The request line of a new request. -/
theorem MasslessRequest.new_line
    {forwarded_overrides : String → List (Bytes × Bytes) → Option String × Option (String × Int)}
    {core : RequestCore} {self : Attrs Obj}
    (hnew : MasslessRequest.new (stdlib forwarded_overrides) core = some self) :
    ∃ raw, core.path = some raw ∧ (∀ b ∈ core.method, b < 128) ∧
      self.dict.get? "method" = some (.py (.str (decode_latin1 core.method))) ∧
      self.dict.get? "path" = some (.py (.str (line_path raw))) ∧
      self.dict.get? "path_info" = some (.py (.str (line_path raw))) := by
  simp only [MasslessRequest.new, Option.bind_eq_bind, Option.bind_eq_some_iff] at hnew
  obtain ⟨method, hmethod, path, hpath, hself⟩ := hnew
  obtain ⟨raw, hraw, hpath⟩ := Option.map_eq_some_iff.mp hpath
  obtain ⟨hascii, hmethod⟩ := Option.ite_none_right_eq_some.mp hmethod
  have hline : path = line_path raw := hpath.symm
  rw [Option.some.injEq] at hself hmethod
  subst hself hmethod hline
  exact ⟨raw, hraw, by simpa using hascii, by simp⟩

/-- The request line after promotion. -/
theorem MasslessRequest.promoted_line {django : Django Obj} (hdjango : django.ReadsLine)
    {forwarded_overrides : String → List (Bytes × Bytes) → Option String × Option (String × Int)}
    {core : RequestCore} {self : Attrs Obj} {raw : Bytes} (hraw : core.path = some raw)
    (hnew : MasslessRequest.new (stdlib forwarded_overrides) core = some self) :
    let vars := core.environ_vars (stdlib forwarded_overrides)
    let promoted := (MasslessRequest.ensure_promoted django (stdlib forwarded_overrides) core self).2
    promoted.dict.get? "method" =
        some (.py (.str (django.str_upper (decode_latin1 core.method)))) ∧
      promoted.dict.get? "path" = some (.py (.str
        ("/" ++ String.ofList (drop_first_slash (django.path_info vars).toList)))) ∧
      promoted.dict.get? "path_info" = some (.py (.str (django.path_info vars))) := by
  intro vars promoted
  obtain ⟨_, -, -, hlatch, hcache⟩ := MasslessRequest.new_slots hnew
  obtain ⟨_, -, -, hmethod, -⟩ := MasslessRequest.new_line hnew
  have hpromoted := (MasslessRequest.ensure_promoted_run django (stdlib forwarded_overrides) core
    self _ hlatch hmethod hcache).2.1
  obtain ⟨hstored_method, hstored_path, hstored_info⟩ := django.constructed_line
    (decode_latin1 core.method) vars core.body
  refine ⟨?_, ?_, ?_⟩
  · rw [hpromoted, hstored_method, Option.some_or]
  · rw [hpromoted, hstored_path, Option.some_or, (hdjango.paths hraw forwarded_overrides).2]
  · rw [hpromoted, hstored_info, Option.some_or]

/-- The paths are kept exactly if they are read alike. -/
theorem MasslessRequest.paths_kept_iff {django : Django Obj} (hdjango : django.ReadsLine)
    {forwarded_overrides : String → List (Bytes × Bytes) → Option String × Option (String × Int)}
    {core : RequestCore} {self : Attrs Obj} {raw : Bytes} (hraw : core.path = some raw)
    (hnew : MasslessRequest.new (stdlib forwarded_overrides) core = some self) :
    (∀ name ∈ ["path", "path_info"],
      (MasslessRequest.ensure_promoted django (stdlib forwarded_overrides) core self).2.dict.get?
        name = self.dict.get? name) ↔ AlikePath raw := by
  obtain ⟨_, hpromoted_path, hpromoted_info⟩ := promoted_line hdjango hraw hnew
  obtain ⟨other, hother, -, -, hpath, hinfo⟩ := new_line hnew
  obtain rfl : raw = other := Option.some.inj (hraw.symm.trans hother)
  rw [← paths_eq_iff (hdjango.paths hraw forwarded_overrides).1]
  simp [hpromoted_path, hpromoted_info, hpath, hinfo]

/-- What a request says about its line does not depend on promotion exactly when its
method is in upper case and its path is read alike by both decoders. -/
theorem request_line_kept_iff {django : Django Obj} (hdjango : django.ReadsLine)
    (forwarded_overrides : String → List (Bytes × Bytes) → Option String × Option (String × Int))
    {core : RequestCore} {self : Attrs Obj}
    (hnew : MasslessRequest.new (stdlib forwarded_overrides) core = some self) :
    (∀ name ∈ ["method", "path", "path_info"],
      (MasslessRequest.ensure_promoted django (stdlib forwarded_overrides) core self).2.dict.get?
        name = self.dict.get? name) ↔
      UpperMethod core.method ∧ ∀ raw ∈ core.path, AlikePath raw := by
  obtain ⟨raw, hraw, hascii, hmethod, -⟩ := MasslessRequest.new_line hnew
  have hupper : django.str_upper (decode_latin1 core.method) = decode_latin1 core.method ↔
      UpperMethod core.method := by
    rw [hdjango.upper, upper_eq_iff hascii]
    intro c hc
    rw [toList_decode_latin1] at hc
    obtain ⟨b, hb, rfl⟩ := List.mem_map.mp hc
    rw [latin1_char_toNat]
    exact UInt8.lt_iff_toNat_lt.mp (hascii b hb)
  rw [List.forall_mem_cons, MasslessRequest.paths_kept_iff hdjango hraw hnew,
    (MasslessRequest.promoted_line hdjango hraw hnew).1, hmethod]
  simp [hupper, hraw]

/-- Django on requests without a content type. -/
def utf8_django : Django String :=
  { ascii_django with
    get_script_name := fun vars => (vars.get? "SCRIPT_NAME").getD ""
    get_path_info := fun vars =>
      let path := (vars.get? "PATH_INFO").getD "/"
      String.ofList (decode_with repercent ((encode_latin1 path).getD [])) }

theorem encode_decode_latin1 (data : Bytes) : encode_latin1 (decode_latin1 data) = some data := by
  rw [encode_latin1, toList_decode_latin1]
  induction data with
  | nil => rfl
  | cons b rest ih =>
    rw [List.map_cons, List.mapM_cons, ih, latin1_char_toNat, if_pos b.toNat_lt, UInt8.ofNat_toNat]
    rfl

theorem utf8_django_readsLine : utf8_django.ReadsLine where
  script_name vars _ _ hscript := by
    simp [utf8_django, hscript]
  path_info vars data hinfo := by
    simp [utf8_django, hinfo, encode_decode_latin1]
  upper text _ := rfl

/-- A `GET` for a path. -/
def get_core (path : String) : RequestCore :=
  .create (ascii "GET") (some (ascii path)) [] [] [] none none

/-- The test suite's path with an escaped letter outside ASCII. -/
theorem request_line_kept_iff_escaped : ∃ self,
    MasslessRequest.new (stdlib fun _ _ => (none, none)) (get_core "/caf%C3%A9/") = some self ∧
    ∀ name ∈ ["method", "path", "path_info"],
      (MasslessRequest.ensure_promoted utf8_django (stdlib fun _ _ => (none, none))
        (get_core "/caf%C3%A9/") self).2.dict.get? name = self.dict.get? name := by
  refine ⟨_, rfl, (request_line_kept_iff utf8_django_readsLine _ rfl).mpr
    ⟨by decide +kernel, ?_⟩⟩
  intro raw hraw
  rw [← Option.some.inj hraw]
  decide +kernel

/-- Before promotion `/%FF` is a path with a replacement character, and after it the
escape again. -/
theorem path_changes_on_promotion : ∃ self,
    MasslessRequest.new (stdlib fun _ _ => (none, none)) (get_core "/%FF") = some self ∧
    ¬∀ name ∈ ["method", "path", "path_info"],
      (MasslessRequest.ensure_promoted utf8_django (stdlib fun _ _ => (none, none))
        (get_core "/%FF") self).2.dict.get? name = self.dict.get? name := by
  refine ⟨_, rfl, fun hkept => ?_⟩
  have halike := (MasslessRequest.paths_kept_iff utf8_django_readsLine rfl rfl).mp
    (List.forall_mem_cons.mp hkept).2
  exact absurd halike (by decide)

end massless.request
