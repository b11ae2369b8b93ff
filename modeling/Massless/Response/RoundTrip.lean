import Massless.Http.Head
import Massless.Response.Framing

open python

namespace massless.response

open Reply (latin1)

/-- No blank at either end of a text. -/
def TightText (text : String) : Prop :=
  (text.toList.head? ≠ some ' ' ∧ text.toList.head? ≠ some '\t') ∧
    text.toList.getLast? ≠ some ' ' ∧ text.toList.getLast? ≠ some '\t'

instance (text : String) : Decidable (TightText text) := inferInstanceAs (Decidable (_ ∧ _))

/-- A Django response whose header names are tokens and whose header values and cookies
are latin-1 on one line, without blanks around them. -/
structure HttpResponse.Clean (dj_resp : HttpResponse) : Prop where
  status : 100 ≤ dj_resp.status_code ∧ dj_resp.status_code ≤ 599
  names : ∀ entry ∈ dj_resp.headers.entries, FieldText 128 entry.1 ∧ http.Token (ascii entry.1)
  values : ∀ entry ∈ dj_resp.headers.entries, FieldText 256 entry.2 ∧ TightText entry.2
  cookies : ∀ cookie ∈ dj_resp.cookies, FieldText 256 cookie ∧ TightText cookie

/-- The headers that the serializer does not set itself. -/
def HttpResponse.kept (self : HttpResponse) : List (String × String) :=
  self.headers.entries.filter fun entry => lower_str entry.1 ∉ serializer_headers

/-- A header as a field of the head. -/
def own_field (entry : String × String) : http.Field := ⟨ascii (lower_str entry.1), latin1 entry.2⟩

/-- The fields say what the response says. -/
structure Carried (date : Bytes) (keep_alive : Bool) (dj_resp : HttpResponse)
    (fields : List http.Field) : Prop where
  content_type : http.named (ascii "content-type") fields =
    (dj_resp.headers.get? "Content-Type").toList.map latin1
  headers : ∀ entry ∈ dj_resp.kept, lower_str entry.1 ≠ "set-cookie" →
    http.named (ascii (lower_str entry.1)) fields = [latin1 entry.2]
  order : (dj_resp.kept.map own_field).Sublist fields
  cookies : http.named (ascii "set-cookie") fields =
    (dj_resp.headers.get? "Set-Cookie").toList.map latin1 ++ dj_resp.cookies.map latin1
  content_length : http.named (ascii "content-length") fields =
    [http.decimal dj_resp.content.length]
  date : http.named (ascii "date") fields =
    [((dj_resp.headers.get? "Date").map latin1).getD (http.trim date)]
  connection : http.named (ascii "connection") fields =
    if keep_alive then [] else [ascii "close"]

/-- The head on the wire, read back, gives the status and what the response carries. -/
def RoundTrips (date : Bytes) (keep_alive : Bool) (method : Bytes) (dj_resp : HttpResponse) : Prop :=
  ∃ resp wire status fields, django_response_to_massless dj_resp = some resp ∧
    resp.to_bytes date keep_alive method = some wire ∧
    http.read_head wire =
      some (status, fields, sent_body dj_resp.status_code method dj_resp.content) ∧
    (status : Int) = dj_resp.status_code ∧ Carried date keep_alive dj_resp fields

/-- The fields of the head, in order. -/
def sent_fields (date : Bytes) (keep_alive : Bool) (dj_resp : HttpResponse) : List http.Field :=
  (dj_resp.headers.get? "Content-Type").toList.map (fun ctype =>
    ⟨ascii "content-type", latin1 ctype⟩) ++
  ([⟨ascii "content-length", http.decimal dj_resp.content.length⟩] ++
  ((if keep_alive then [] else [⟨ascii "connection", ascii "close"⟩]) ++
  ((if (dj_resp.headers.get? "Date").isSome then [] else [⟨ascii "date", http.trim date⟩]) ++
  (dj_resp.kept.map own_field ++
  dj_resp.cookies.map fun cookie => ⟨ascii "set-cookie", latin1 cookie⟩))))

theorem latin1_eq_ascii {bound : Nat} (hbound : bound ≤ 256) {text : String}
    (htext : FieldText bound text) : latin1 text = ascii text := by
  have hmap : ∀ chars : List Char, (∀ c ∈ chars, c.toNat < bound ∧ c ≠ '\r' ∧ c ≠ '\n') →
      chars.mapM (fun c => if c.toNat < 256 then some (UInt8.ofNat c.toNat) else none) =
        some (chars.map fun c => UInt8.ofNat c.toNat) := by
    intro chars hchars
    induction chars with
    | nil => rfl
    | cons c later ih =>
      rw [List.forall_mem_cons] at hchars
      rw [List.mapM_cons, ih hchars.2, if_pos (by omega)]
      rfl
  have hencode : encode_latin1 text = some (ascii text) := hmap text.toList htext
  rw [latin1, hencode, Option.getD_some]

/-- A text whose characters are all ASCII. -/
def AsciiText (text : String) : Prop := ∀ c ∈ text.toList, c.toNat < 128

instance (text : String) : Decidable (AsciiText text) :=
  List.decidableBAll (fun c : Char => c.toNat < 128) text.toList

theorem FieldText.ascii_text {text : String} (htext : FieldText 128 text) : AsciiText text :=
  fun c hc => (htext c hc).1

theorem ascii_char {p : Char → Prop} (hall : ∀ n < 128, p (Char.ofNat n)) {c : Char}
    (hc : c.toNat < 128) : p c := by
  have hchar := hall c.toNat hc
  rwa [Char.ofNat_toNat] at hchar

theorem AsciiText.lower_str {text : String} (htext : AsciiText text) :
    AsciiText (lower_str text) := by
  have hlower : ∀ n < 128, (Char.ofNat n).toLower.toNat < 128 := by decide +kernel
  intro c hc
  rw [python.lower_str, String.toList_ofList, List.mem_map] at hc
  obtain ⟨upper, hupper, rfl⟩ := hc
  exact ascii_char (p := fun c => c.toLower.toNat < 128) hlower (htext upper hupper)

theorem lower_ascii {text : String} (htext : AsciiText text) :
    http.lower (ascii text) = ascii (lower_str text) := by
  have hlower : ∀ n < 128, (fun c : UInt8 => if 65 ≤ c ∧ c ≤ 90 then c + 32 else c)
      (UInt8.ofNat (Char.ofNat n).toNat) = UInt8.ofNat (Char.ofNat n).toLower.toNat := by
    decide +kernel
  rw [http.lower, ascii, ascii, lower_str, String.toList_ofList, List.map_map, List.map_map]
  apply List.map_congr_left
  intro c hc
  exact ascii_char (p := fun c => (fun c : UInt8 => if 65 ≤ c ∧ c ≤ 90 then c + 32 else c)
      (UInt8.ofNat c.toNat) = UInt8.ofNat c.toLower.toNat) hlower (htext c hc)

theorem ascii_inj {first second : String} (hfirst : AsciiText first) (hsecond : AsciiText second) :
    ascii first = ascii second ↔ first = second := by
  have hback : ∀ text : String, AsciiText text → (ascii text).map (fun b => Char.ofNat b.toNat) =
      text.toList := by
    intro text htext
    rw [ascii, List.map_map]
    conv_rhs => rw [← List.map_id text.toList]
    apply List.map_congr_left
    intro c hc
    have hcode : (UInt8.ofNat c.toNat).toNat = c.toNat := by
      have hlt := htext c hc
      rw [UInt8.toNat_ofNat']
      omega
    rw [Function.comp_apply, hcode, Char.ofNat_toNat, id]
  constructor
  · intro heq
    rw [← String.toList_inj, ← hback first hfirst, heq, hback second hsecond]
  · exact congrArg ascii

theorem setEntries_of_fresh {key value : String} {entries : List (String × String)}
    (hfresh : key ∉ entries.map Prod.fst) :
    setEntries key value entries = entries ++ [(key, value)] := by
  induction entries with
  | nil => rfl
  | cons entry rest ih =>
    rw [List.map_cons, List.mem_cons, not_or] at hfresh
    rw [setEntries, if_neg (Ne.symm hfresh.1), ih hfresh.2, List.cons_append]

/-- The headers are carried over in their order. -/
theorem carry_headers_entries (dj_resp : HttpResponse) :
    (carry_headers dj_resp.headers).entries = dj_resp.kept := by
  have hfold : ∀ (entries : List (String × String)) (carried : Dict String String),
      (entries.map Prod.fst).Nodup →
      (∀ entry ∈ entries, entry.1 ∉ carried.entries.map Prod.fst) →
      (entries.foldl (fun carried entry =>
        if lower_str entry.1 ∈ serializer_headers then carried
        else carried.set entry.1 entry.2) carried).entries =
      carried.entries ++ entries.filter fun entry => lower_str entry.1 ∉ serializer_headers := by
    intro entries
    induction entries with
    | nil => exact fun carried _ _ => (List.append_nil _).symm
    | cons entry later ih =>
      intro carried hnodup hfresh
      rw [List.map_cons, List.nodup_cons] at hnodup
      rw [List.forall_mem_cons] at hfresh
      rw [List.foldl_cons, List.filter_cons]
      by_cases hstripped : lower_str entry.1 ∈ serializer_headers
      · rw [if_pos hstripped, ih carried hnodup.2 hfresh.2]
        simp [hstripped]
      · have hset : (carried.set entry.1 entry.2).entries = carried.entries ++ [entry] :=
          setEntries_of_fresh hfresh.1
        rw [if_neg hstripped, ih _ hnodup.2, hset]
        · simp [hstripped]
        · intro other hother
          rw [hset, List.map_append, List.mem_append, not_or]
          refine ⟨hfresh.2 other hother, ?_⟩
          intro hsame
          have heq : other.1 = entry.1 := List.mem_singleton.mp hsame
          exact hnodup.1 (heq ▸ List.mem_map_of_mem hother)
  have hnodup : (dj_resp.headers.entries.map Prod.fst).Nodup := by
    have hlower := dj_resp.headers.nodup
    have hcomp : (dj_resp.headers.entries.map fun entry => lower_str entry.1) =
        (dj_resp.headers.entries.map Prod.fst).map lower_str := by rw [List.map_map]; rfl
    rw [hcomp] at hlower
    exact List.Nodup.of_map lower_str hlower
  exact hfold dj_resp.headers.entries .empty hnodup (by simp [Dict.empty])

theorem filter_eq_find? {α β : Type} [DecidableEq β] {f : α → β} {entries : List α}
    (hnodup : (entries.map f).Nodup) (key : β) :
    entries.filter (fun entry => f entry = key) =
      (entries.find? fun entry => f entry = key).toList := by
  induction entries with
  | nil => rfl
  | cons entry rest ih =>
    rw [List.map_cons, List.nodup_cons] at hnodup
    rw [List.filter_cons, List.find?_cons]
    by_cases hkey : f entry = key
    · have hrest : rest.filter (fun entry => f entry = key) = [] := by
        rw [List.filter_eq_nil_iff]
        intro other hother
        rw [decide_eq_true_eq]
        intro hsame
        exact hnodup.1 (List.mem_map.mpr ⟨other, hother, hsame.trans hkey.symm⟩)
      simp [hkey, hrest]
    · simp [hkey, ih hnodup.2]

theorem Headers.get?_of_mem (self : Headers) {entry : String × String}
    (hentry : entry ∈ self.entries) : self.get? entry.1 = some entry.2 := by
  have hfilter := filter_eq_find? self.nodup (lower_str entry.1)
  have hin : entry ∈ self.entries.filter fun other => lower_str other.1 = lower_str entry.1 :=
    List.mem_filter.mpr ⟨hentry, by simp⟩
  rw [hfilter, Option.mem_toList] at hin
  rw [Headers.get?, hin, Option.map_some]

/-- The headers under a name that the serializer does not set. -/
theorem kept_filter (dj_resp : HttpResponse) (name : String)
    (hlower : lower_str name ∉ serializer_headers) :
    (dj_resp.kept.filter fun entry => lower_str entry.1 = lower_str name).map Prod.snd =
      (dj_resp.headers.get? name).toList := by
  have hboth : dj_resp.kept.filter (fun entry => lower_str entry.1 = lower_str name) =
      dj_resp.headers.entries.filter fun entry => lower_str entry.1 = lower_str name := by
    rw [HttpResponse.kept, List.filter_filter]
    apply List.filter_congr
    intro entry _
    by_cases hname : lower_str entry.1 = lower_str name
    · simp [hname, hlower]
    · simp [hname]
  rw [hboth, filter_eq_find? dj_resp.headers.nodup, Headers.get?]
  cases dj_resp.headers.entries.find? _ <;> rfl

/-- The fields of the kept headers under a name. -/
theorem named_kept {dj_resp : HttpResponse} (hclean : dj_resp.Clean) {name : String}
    (hname : AsciiText name) :
    http.named (ascii name) (dj_resp.kept.map own_field) =
      (dj_resp.kept.filter fun entry => lower_str entry.1 = name).map fun entry =>
        latin1 entry.2 := by
  rw [http.named, List.filter_map, List.map_map]
  have hfilter : dj_resp.kept.filter ((fun field => decide (field.name = ascii name)) ∘ own_field) =
      dj_resp.kept.filter fun entry => lower_str entry.1 = name := by
    apply List.filter_congr
    intro entry hentry
    have hascii := (hclean.names entry (List.mem_of_mem_filter hentry)).1.ascii_text.lower_str
    exact decide_eq_decide.mpr (ascii_inj hascii hname)
  rw [hfilter]
  rfl

/-- What each part of the head has under a name. -/
theorem named_sent_fields {date : Bytes} {keep_alive : Bool} {dj_resp : HttpResponse}
    (hclean : dj_resp.Clean) {name : String} (hname : AsciiText name) :
    http.named (ascii name) (sent_fields date keep_alive dj_resp) =
      (if name = "content-type" then (dj_resp.headers.get? "Content-Type").toList.map latin1
        else []) ++
      ((if name = "content-length" then [http.decimal dj_resp.content.length] else []) ++
      ((if name = "connection" ∧ keep_alive = false then [ascii "close"] else []) ++
      ((if name = "date" ∧ (dj_resp.headers.get? "Date").isSome = false then [http.trim date]
        else []) ++
      (((dj_resp.kept.filter fun entry => lower_str entry.1 = name).map fun entry =>
          latin1 entry.2) ++
      if name = "set-cookie" then dj_resp.cookies.map latin1 else [])))) := by
  have hsame : ∀ known : String, AsciiText known → (ascii known = ascii name ↔ name = known) :=
    fun known hknown => (ascii_inj hknown hname).trans eq_comm
  have htype := hsame "content-type" (by decide)
  have hlength := hsame "content-length" (by decide)
  have hconnection := hsame "connection" (by decide)
  have hdate := hsame "date" (by decide)
  have hcookie := hsame "set-cookie" (by decide)
  have hnone : http.named (ascii name) [] = [] := rfl
  simp only [sent_fields, http.named_append, named_kept hclean hname, http.named_lines,
    http.named_line, htype, hlength, hcookie]
  congr 3
  · cases keep_alive <;> simp [hnone, http.named_line, hconnection]
  · congr 1
    cases (dj_resp.headers.get? "Date").isSome <;> simp [hnone, http.named_line, hdate]

theorem carried_sent_fields {date : Bytes} {keep_alive : Bool} {dj_resp : HttpResponse}
    (hclean : dj_resp.Clean) :
    Carried date keep_alive dj_resp (sent_fields date keep_alive dj_resp) := by
  have hstripped : ∀ name ∈ serializer_headers,
      (dj_resp.kept.filter fun entry => lower_str entry.1 = name) = [] := by
    intro name hname
    rw [List.filter_eq_nil_iff]
    intro entry hentry
    rw [decide_eq_true_eq]
    rintro rfl
    exact absurd hname (of_decide_eq_true (List.mem_filter.mp hentry).2)
  have hown : ∀ name, lower_str name ∉ serializer_headers →
      (dj_resp.kept.filter fun entry => lower_str entry.1 = lower_str name).map
        (fun entry => latin1 entry.2) = (dj_resp.headers.get? name).toList.map latin1 := by
    intro name hname
    rw [← kept_filter dj_resp name hname, List.map_map]
    rfl
  constructor
  case content_type =>
    rw [named_sent_fields hclean (by decide), hstripped _ (by decide)]
    simp
  case headers =>
    intro entry hentry hcookie
    obtain ⟨hin, hkept⟩ := List.mem_filter.mp hentry
    have hname : lower_str entry.1 ∉ serializer_headers := of_decide_eq_true hkept
    have hown := hown entry.1 hname
    have hget := dj_resp.headers.get?_of_mem hin
    rw [named_sent_fields hclean (hclean.names entry hin).1.ascii_text.lower_str, hown, hget]
    simp only [serializer_headers, List.mem_cons, List.not_mem_nil, or_false, not_or] at hname
    by_cases hdate : lower_str entry.1 = "date"
    · have hsame : dj_resp.headers.get? "Date" = some entry.2 := by
        rw [← hget, Headers.get?, Headers.get?, hdate]
        rfl
      simp [hdate, hsame]
    · simp [hname, hdate, hcookie]
  case order =>
    apply List.Sublist.trans (List.sublist_append_left _ _)
    apply List.Sublist.trans (List.sublist_append_right _ _)
    apply List.Sublist.trans (List.sublist_append_right _ _)
    apply List.Sublist.trans (List.sublist_append_right _ _)
    exact List.sublist_append_right _ _
  case cookies =>
    rw [named_sent_fields hclean (by decide)]
    have hcookies := hown "Set-Cookie" (by decide)
    have hlower : lower_str "Set-Cookie" = "set-cookie" := by decide
    rw [hlower] at hcookies
    simp [hcookies]
  case content_length =>
    rw [named_sent_fields hclean (by decide), hstripped _ (by decide)]
    simp
  case date =>
    rw [named_sent_fields hclean (by decide)]
    have hdate := hown "Date" (by decide)
    have hlower : lower_str "Date" = "date" := by decide
    rw [hlower] at hdate
    rw [hdate]
    cases dj_resp.headers.get? "Date" <;> simp
  case connection =>
    rw [named_sent_fields hclean (by decide), hstripped _ (by decide)]
    cases keep_alive <;> simp

theorem latin1_one_line {text : String} (htext : FieldText 256 text) : OneLine (latin1 text) := by
  have hcode : ∀ b : UInt8, b ∈ latin1 text → ∃ c ∈ text.toList, b.toNat = c.toNat := by
    intro b hb
    rw [latin1_eq_ascii (by decide) htext, ascii, List.mem_map] at hb
    obtain ⟨c, hc, rfl⟩ := hb
    have hlt := (htext c hc).1
    exact ⟨c, hc, by rw [UInt8.toNat_ofNat']; omega⟩
  constructor
  · intro hreturn
    obtain ⟨c, hc, hsame⟩ := hcode 13 hreturn
    exact (htext c hc).2.1 (Char.toNat_inj.mp hsame.symm)
  · intro hfeed
    obtain ⟨c, hc, hsame⟩ := hcode 10 hfeed
    exact (htext c hc).2.2 (Char.toNat_inj.mp hsame.symm)

theorem latin1_trim {text : String} (htext : FieldText 256 text) (htight : TightText text) :
    http.trim (latin1 text) = latin1 text := by
  have hblank : ∀ c ∈ text.toList, (c ≠ ' ' ∧ c ≠ '\t') →
      http.blank (UInt8.ofNat c.toNat) = false := by
    intro c hc hvisible
    have hlt := (htext c hc).1
    have hspace : c.toNat ≠ ' '.toNat := fun heq => hvisible.1 (Char.toNat_inj.mp heq)
    have htab : c.toNat ≠ '\t'.toNat := fun heq => hvisible.2 (Char.toNat_inj.mp heq)
    have h32 : ' '.toNat = 32 := rfl
    have h9 : '\t'.toNat = 9 := rfl
    rw [http.blank, decide_eq_false_iff_not, ← UInt8.toNat_inj, ← UInt8.toNat_inj,
      UInt8.toNat_ofNat']
    have h32' : (32 : UInt8).toNat = 32 := rfl
    have h9' : (9 : UInt8).toNat = 9 := rfl
    omega
  rw [latin1_eq_ascii (by decide) htext, ascii]
  apply http.Tight.trim
  constructor
  · intro b hb
    rw [List.head?_map, Option.mem_def, Option.map_eq_some_iff] at hb
    obtain ⟨c, hc, rfl⟩ := hb
    refine hblank c (List.mem_of_mem_head? hc) ⟨?_, ?_⟩
    · rintro rfl
      exact htight.1.1 hc
    · rintro rfl
      exact htight.1.2 hc
  · intro b hb
    rw [List.getLast?_map, Option.mem_def, Option.map_eq_some_iff] at hb
    obtain ⟨c, hc, rfl⟩ := hb
    refine hblank c (List.mem_of_getLast? hc) ⟨?_, ?_⟩
    · rintro rfl
      exact htight.2.1 hc
    · rintro rfl
      exact htight.2.2 hc

/-- What the fold makes of a response. -/
def folded (dj_resp : HttpResponse) : Response where
  status := dj_resp.status_code
  headers := carry_headers dj_resp.headers
  cookies := dj_resp.cookies
  body := dj_resp.content
  content_type := latin1 ((dj_resp.headers.get? "Content-Type").getD "")
  reason := latin1 dj_resp.reason_phrase
  ct_present := (dj_resp.headers.get? "Content-Type").isSome

theorem field_text_empty (bound : Nat) : FieldText bound "" := by simp [FieldText]

/-- The content type, or the text for none, is clean. -/
theorem content_type_clean {dj_resp : HttpResponse} (hclean : dj_resp.Clean) :
    FieldText 256 ((dj_resp.headers.get? "Content-Type").getD "") ∧
      TightText ((dj_resp.headers.get? "Content-Type").getD "") := by
  cases hget : dj_resp.headers.get? "Content-Type" with
  | none => exact ⟨field_text_empty 256, by decide⟩
  | some ctype =>
    obtain ⟨entry, hentry, rfl⟩ := Option.map_eq_some_iff.mp hget
    exact hclean.values entry (List.mem_of_find?_eq_some hentry)

theorem django_response_to_massless_eq {dj_resp : HttpResponse} (hclean : dj_resp.Clean)
    (hreason : FieldText 256 dj_resp.reason_phrase) :
    django_response_to_massless dj_resp = some (folded dj_resp) := by
  have htype := (Reply.latin1_eq (by decide) (content_type_clean hclean).1).1
  have hreason := (Reply.latin1_eq (by decide) hreason).1
  unfold django_response_to_massless folded
  cases hget : dj_resp.headers.get? "Content-Type" with
  | none =>
    rw [hreason]
    rfl
  | some ctype =>
    rw [hget, Option.getD_some] at htype
    simp only [htype, hreason]
    rfl

/-- The response as a reply to a request. -/
def reply_of {dj_resp : HttpResponse} (hclean : dj_resp.Clean) {date : Bytes}
    (hdate : OneLine date) (keep_alive : Bool) (method : Bytes) : Reply where
  writer := .to_bytes (folded dj_resp)
  date := date
  keep_alive := keep_alive
  method := method
  status_admitted := hclean.status
  headers_admitted := by
    intro entry hentry
    have hkept : entry ∈ dj_resp.kept := carry_headers_entries dj_resp ▸ hentry
    have hin := List.mem_of_mem_filter hkept
    exact ⟨(hclean.names entry hin).1, (hclean.values entry hin).1⟩
  headers_stripped := carry_headers_stripped dj_resp.headers
  content_type_whole := latin1_one_line (content_type_clean hclean).1
  date_whole := hdate

theorem whole_reply_of {dj_resp : HttpResponse} (hclean : dj_resp.Clean)
    (hreason : FieldText 256 dj_resp.reason_phrase) {date : Bytes} (hdate : OneLine date)
    (keep_alive : Bool) (method : Bytes) : (reply_of hclean hdate keep_alive method).Whole :=
  ⟨latin1_one_line hreason, fun cookie hcookie => (hclean.cookies cookie hcookie).1⟩

/-- A header whose name is a token does not go on the line before it. -/
theorem own_lines_start {dj_resp : HttpResponse} (hclean : dj_resp.Clean) {date : Bytes}
    (hdate : OneLine date) (keep_alive : Bool) (method : Bytes) :
    ∀ line ∈ (reply_of hclean hdate keep_alive method).own_lines,
      http.is_continuation line = false := by
  intro line hline
  obtain ⟨entry, hentry, rfl⟩ := List.mem_map.mp hline
  have hkept : entry ∈ dj_resp.kept := carry_headers_entries dj_resp ▸ hentry
  obtain ⟨hname, htoken⟩ := hclean.names entry (List.mem_of_mem_filter hkept)
  rw [latin1_eq_ascii (by decide) hname]
  obtain ⟨c, later, hname⟩ := List.exists_cons_of_ne_nil htoken.1
  have hstart : (ascii entry.1).head?.all http.blank = false := by
    rw [hname]
    exact htoken.not_blank c (hname ▸ List.mem_cons_self)
  exact (Reply.field_line_whole hstart htoken.no_colon _).1

theorem folds_length_reply_of {dj_resp : HttpResponse} (hclean : dj_resp.Clean) {date : Bytes}
    (hdate : OneLine date) (keep_alive : Bool) (method : Bytes) :
    (reply_of hclean hdate keep_alive method).folds_length = false := by
  have hstart := own_lines_start hclean hdate keep_alive method
  rw [Reply.folds_length]
  cases hlines : (reply_of hclean hdate keep_alive method).own_lines with
  | nil => simp
  | cons line later => simp [hstart line (by simp [hlines])]

/-- None of the lines of the head goes on the line before it. -/
theorem fields_eq_map {dj_resp : HttpResponse} (hclean : dj_resp.Clean) {date : Bytes}
    (hdate : OneLine date) (keep_alive : Bool) (method : Bytes) :
    (reply_of hclean hdate keep_alive method).fields =
      (reply_of hclean hdate keep_alive method).head_lines.map http.parse_field := by
  apply http.read_fields_eq_map
  intro line hline
  rw [Reply.head_lines, List.mem_append, List.mem_append] at hline
  obtain (hline | hline) | hline := hline
  · exact Reply.serializer_lines_start _ line hline
  · exact own_lines_start hclean hdate keep_alive method line hline
  · exact Reply.own_cookies_start _ line hline

section
variable {dj_resp : HttpResponse}

theorem parse_own_lines (hclean : dj_resp.Clean) :
    (dj_resp.kept.map fun entry =>
      Reply.field_line (latin1 entry.1) (latin1 entry.2)).map http.parse_field =
      dj_resp.kept.map own_field := by
  rw [List.map_map]
  apply List.map_congr_left
  intro entry hentry
  have hin := List.mem_of_mem_filter hentry
  obtain ⟨hname, htoken⟩ := hclean.names entry hin
  obtain ⟨hvalue, htight⟩ := hclean.values entry hin
  rw [Function.comp_apply, latin1_eq_ascii (by decide) hname,
    Reply.parse_field_line htoken.no_colon, http.trim_eq_self htoken.not_blank,
    lower_ascii hname.ascii_text, latin1_trim hvalue htight, own_field]

theorem parse_cookies (hclean : dj_resp.Clean) :
    (dj_resp.cookies.map fun cookie =>
      Reply.field_line (ascii "Set-Cookie") (latin1 cookie)).map http.parse_field =
      dj_resp.cookies.map fun cookie => ⟨ascii "set-cookie", latin1 cookie⟩ := by
  rw [List.map_map]
  apply List.map_congr_left
  intro cookie hcookie
  obtain ⟨htext, htight⟩ := hclean.cookies cookie hcookie
  rw [Function.comp_apply, Reply.parse_field_line (by decide), latin1_trim htext htight]
  rfl

/-- A `Date` of the response is among the headers that it keeps. -/
theorem any_date_kept (dj_resp : HttpResponse) :
    (dj_resp.kept.any fun entry => lower_str entry.1 = "date") =
      (dj_resp.headers.get? "Date").isSome := by
  have hfilter := kept_filter dj_resp "Date" (by decide)
  have hlower : lower_str "Date" = "date" := by decide
  rw [hlower] at hfilter
  cases hget : dj_resp.headers.get? "Date" with
  | none =>
    rw [hget] at hfilter
    have hnone := List.filter_eq_nil_iff.mp (List.map_eq_nil_iff.mp hfilter)
    rw [Option.isSome_none, List.any_eq_false]
    exact hnone
  | some value =>
    rw [hget] at hfilter
    have hne : dj_resp.kept.filter (fun entry => lower_str entry.1 = "date") ≠ [] := by
      intro hnil
      rw [hnil] at hfilter
      cases hfilter
    obtain ⟨found, hfound⟩ := List.exists_mem_of_ne_nil _ hne
    obtain ⟨hin, hname⟩ := List.mem_filter.mp hfound
    exact List.any_eq_true.mpr ⟨found, hin, hname⟩

end

/-- The lines of the head are read as the fields that are sent. -/
theorem fields_reply_of {dj_resp : HttpResponse} (hclean : dj_resp.Clean) {date : Bytes}
    (hdate : OneLine date) (keep_alive : Bool) (method : Bytes) :
    (reply_of hclean hdate keep_alive method).fields = sent_fields date keep_alive dj_resp := by
  have hkept := carry_headers_entries dj_resp
  have htype := content_type_clean hclean
  have htrim := latin1_trim htype.1 htype.2
  have hlength := http.trim_eq_self (http.decimal_not_blank dj_resp.content.length)
  have hpresent : (!(latin1 ((dj_resp.headers.get? "Content-Type").getD "")).isEmpty ||
      (dj_resp.headers.get? "Content-Type").isSome) =
      (dj_resp.headers.get? "Content-Type").isSome := by
    cases dj_resp.headers.get? "Content-Type" with
    | none => rfl
    | some ctype => simp
  rw [fields_eq_map]
  simp only [Reply.head_lines, Reply.serializer_lines, Reply.type_lines, Reply.length_line,
    Reply.closing_lines, Reply.own_lines, Reply.own_cookies, Reply.has_date, reply_of,
    Writer.written, folded, hkept, List.map_append, parse_own_lines hclean, parse_cookies hclean,
    List.append_assoc, sent_fields, any_date_kept, hpresent, Reply.ascii_toString]
  refine congrArg₂ (· ++ ·) ?_ (congrArg₂ (· ++ ·) ?_ (congrArg₂ (· ++ ·) ?_
    (congrArg₂ (· ++ ·) ?_ rfl)))
  · cases hget : dj_resp.headers.get? "Content-Type" with
    | none => rfl
    | some ctype =>
      rw [hget] at htrim
      simp only [Option.isSome_some, if_true, List.map_singleton, Option.toList_some]
      rw [Reply.parse_field_line (by decide), htrim]
      rfl
  · rw [List.map_singleton, Reply.parse_field_line (by decide), hlength]
    rfl
  · cases keep_alive with
    | true => rfl
    | false =>
      have hclose : http.parse_field (Reply.field_line (ascii "Connection") (ascii "close")) =
          ⟨ascii "connection", ascii "close"⟩ := by decide
      exact congrArg (fun field => [field]) hclose
  · cases (dj_resp.headers.get? "Date").isSome with
    | true => rfl
    | false =>
      simp only [Bool.not_false, if_true, List.map_singleton, Bool.false_eq_true, if_false]
      rw [Reply.parse_field_line (by decide)]
      rfl

/-- The head of a clean response, read back, says what the response says, as long as its
reason phrase fits on the status line. -/
theorem head_round_trips (date : Bytes) (keep_alive : Bool) (method : Bytes)
    (dj_resp : HttpResponse) (hclean : dj_resp.Clean)
    (hreason : FieldText 256 dj_resp.reason_phrase) (hdate : OneLine date) :
    RoundTrips date keep_alive method dj_resp := by
  let reply := reply_of hclean hdate keep_alive method
  have hwhole : reply.Whole := whole_reply_of hclean hreason hdate keep_alive method
  obtain ⟨n, hn, -⟩ := reply.status_eq
  have hread := http.read_head_block (Reply.head_unbroken hwhole)
    (Reply.parse_status_start_line hn) (sent_body reply.status reply.method reply.body)
  rw [← Reply.fields, fields_reply_of hclean hdate keep_alive method] at hread
  exact ⟨folded dj_resp, _, n, _, django_response_to_massless_eq hclean hreason,
    Reply.wire_eq hwhole, hread, hn.symm, carried_sent_fields hclean⟩

def page_headers : Headers :=
  ⟨[("Content-Type", ""), ("Date", "today"), ("X-Frame-Options", "DENY")], by decide⟩

def page_cookies : List String := ["sid=1; Path=/"]

/-- A page with a cookie and a date of its own. -/
def dated_page (reason_phrase : String) : HttpResponse where
  status_code := 200
  reason_phrase := reason_phrase
  headers := page_headers
  cookies := page_cookies
  content := ascii "page"

theorem dated_page_clean (reason_phrase : String) : (dated_page reason_phrase).Clean where
  status := (by decide : (100 : Int) ≤ 200 ∧ (200 : Int) ≤ 599)
  names := (by decide : ∀ entry ∈ page_headers.entries,
    FieldText 128 entry.1 ∧ http.Token (ascii entry.1))
  values := (by decide : ∀ entry ∈ page_headers.entries, FieldText 256 entry.2 ∧ TightText entry.2)
  cookies := (by decide : ∀ cookie ∈ page_cookies, FieldText 256 cookie ∧ TightText cookie)

theorem head_round_trips_dated :
    RoundTrips (ascii "now") false (ascii "GET") (dated_page "Fine") :=
  head_round_trips (ascii "now") false (ascii "GET") (dated_page "Fine") (dated_page_clean "Fine")
    (by decide) (by decide)

/-- A reason phrase goes on the status line as it is: one outside latin-1 leaves no
response at all, and one with a line break makes a field of its own. -/
theorem reason_phrase_breaks_head :
    ((dated_page "€").Clean ∧ ¬RoundTrips (ascii "now") true (ascii "GET") (dated_page "€")) ∧
    ((dated_page "OK\r\nContent-Length: 7").Clean ∧
      ¬RoundTrips (ascii "now") true (ascii "GET") (dated_page "OK\r\nContent-Length: 7")) := by
  refine ⟨⟨dated_page_clean _, ?_⟩, dated_page_clean _, ?_⟩
  · rintro ⟨resp, wire, status, fields, hfold, -⟩
    have hnone : django_response_to_massless (dated_page "€") = none := by decide +kernel
    rw [hnone] at hfold
    cases hfold
  · rintro ⟨resp, wire, status, fields, hfold, hwire, hread, -, hcarried⟩
    have hfields : ((django_response_to_massless (dated_page "OK\r\nContent-Length: 7")).bind
        fun resp => (resp.to_bytes (ascii "now") true (ascii "GET")).bind fun wire =>
          (http.read_head wire).map fun head => http.named (ascii "content-length") head.2.1) =
        some [ascii "7", ascii "4"] := by decide +kernel
    rw [hfold, Option.bind_some, hwire, Option.bind_some, hread, Option.map_some,
      hcarried.content_length] at hfields
    cases hfields

end massless.response
