import Massless.Middleware.Representation
import Massless.Response.Delivered

open python
open massless.chain

namespace massless.response

open Reply (latin1)

theorem decode_latin1_text {text : String} (htext : FieldText 256 text) :
    decode_latin1 (latin1 text) = text := by
  rw [latin1_eq_ascii (by decide) htext]
  exact decode_latin1_ascii fun c hc => (htext c hc).1

section
variable {dj_resp : HttpResponse} {date : Bytes} {keep_alive : Bool}

theorem Headers.get?_congr {self : Headers} {name query : String}
    (hname : lower_str query = lower_str name) : self.get? query = self.get? name := by
  simp only [get?, hname]

/-- A header that is set is the one field of its name, but for those of the connection and
the cookies. -/
theorem named_of_get? (hclean : dj_resp.Clean) {name value : String}
    (hname : lower_str name ∉ ["content-length", "connection", "set-cookie"])
    (hget : dj_resp.headers.get? name = some value) :
    http.named (ascii (lower_str name)) (sent_fields date keep_alive dj_resp) = [latin1 value] := by
  have hcarried : Carried date keep_alive dj_resp (sent_fields date keep_alive dj_resp) :=
    carried_sent_fields hclean
  by_cases htype : lower_str name = "content-type"
  · have hsame : dj_resp.headers.get? "Content-Type" = some value :=
      (Headers.get?_congr (Eq.trans (by decide) htype.symm)).trans hget
    rw [htype, hcarried.content_type, hsame]
    rfl
  · obtain ⟨entry, hfound, rfl⟩ := Option.map_eq_some_iff.mp hget
    have hsame : lower_str entry.1 = lower_str name := by
      simpa using List.find?_some hfound
    have hkept : entry ∈ dj_resp.kept := by
      refine List.mem_filter.mpr ⟨List.mem_of_find?_eq_some hfound, decide_eq_true ?_⟩
      rw [hsame]
      simp only [List.mem_cons, List.not_mem_nil, or_false, not_or] at hname
      simp [serializer_headers, htype, hname.1, hname.2.1]
    have hcookie : lower_str entry.1 ≠ "set-cookie" := by
      rw [hsame]
      simp only [List.mem_cons, List.not_mem_nil, or_false, not_or] at hname
      exact hname.2.2
    rw [← hsame, hcarried.headers entry hkept hcookie]

/-- A coding that is not set is no field. -/
theorem named_of_get?_none (hclean : dj_resp.Clean)
    (hnone : dj_resp.headers.get? "Content-Encoding" = none) :
    http.named (ascii "content-encoding") (sent_fields date keep_alive dj_resp) = [] := by
  have hkept := kept_filter dj_resp "Content-Encoding" (by decide)
  have hlower : lower_str "Content-Encoding" = "content-encoding" := by decide
  rw [hlower, hnone, Option.toList_none, List.map_eq_nil_iff] at hkept
  rw [named_sent_fields hclean (by decide), hkept]
  simp

end

instance (dj_resp : HttpResponse) : Decidable dj_resp.Clean :=
  decidable_of_iff ((100 ≤ dj_resp.status_code ∧ dj_resp.status_code ≤ 599) ∧
    (∀ entry ∈ dj_resp.headers.entries, FieldText 128 entry.1 ∧ http.Token (ascii entry.1)) ∧
    (∀ entry ∈ dj_resp.headers.entries, FieldText 256 entry.2 ∧ TightText entry.2) ∧
    ∀ cookie ∈ dj_resp.cookies, FieldText 256 cookie ∧ TightText cookie)
    ⟨fun ⟨hstatus, hnames, hvalues, hcookies⟩ => ⟨hstatus, hnames, hvalues, hcookies⟩,
      fun hclean => ⟨hclean.status, hclean.names, hclean.values, hclean.cookies⟩⟩

end massless.response

namespace massless.middleware

open massless.response (FieldText OneLine send_django sent_fields)
open massless.response.Reply (latin1)

variable {W Req Args : Type} {decode : String → Bytes → Option Bytes}

/-- A response with this `content`, as it is serialized. A streaming one has none, and is
answered with a `501` in its place. -/
def HttpResponse.serialized (self : HttpResponse) (content : Bytes) : response.HttpResponse where
  status_code := self.status_code
  reason_phrase := self.reason_phrase
  headers := self.headers
  cookies := self.cookies
  content := content

/-- What a client makes of the octets of a body: it undoes the coding that a field names. -/
def undone (decode : String → Bytes → Option Bytes) (fields : List http.Field) (body : Bytes) :
    Option Bytes :=
  match http.named (ascii "content-encoding") fields with
  | [] => some body
  | coding :: _ => decode (decode_latin1 coding) body

/-- What a client reads is what a response says. -/
structure HttpResponse.ReadAs (decode : String → Bytes → Option Bytes) (origin : HttpResponse)
    (status : Nat) (fields : List http.Field) (body : Bytes) : Prop where
  status_code : status = origin.status_code
  content : undone decode fields body = origin.decoded decode
  headers : ∀ name value, lower_str name ∉ rewritten →
    lower_str name ∉ ["connection", "set-cookie"] → origin.get name = some value →
    http.named (ascii (lower_str name)) fields = [latin1 value]
  cookies : ∃ own, http.named (ascii "set-cookie") fields = own ++ origin.cookies.map latin1

section
variable {sent : HttpResponse} {content : Bytes} (hclean : (sent.serialized content).Clean)
  (date : Bytes) (keep_alive : Bool)
include hclean

theorem undone_sent_fields (hcontent : sent.body = .content content) :
    undone decode (sent_fields date keep_alive (sent.serialized content)) content =
      sent.decoded decode := by
  unfold undone HttpResponse.decoded
  rw [hcontent, Body.bytes]
  cases hcoding : sent.get "Content-Encoding" with
  | none => rw [response.named_of_get?_none hclean hcoding]
  | some coding =>
    have hnamed := @response.named_of_get? _ date keep_alive hclean _ _ (by decide) hcoding
    have htext : FieldText 256 coding := by
      obtain ⟨entry, hentry, rfl⟩ := Option.map_eq_some_iff.mp hcoding
      exact (hclean.values entry (List.mem_of_find?_eq_some hentry)).1
    rw [show lower_str "Content-Encoding" = "content-encoding" by decide] at hnamed
    simp only [hnamed, response.decode_latin1_text htext]

/-- A client reads a response that was handed on as what its origin says. -/
theorem HttpResponse.Passed.read_as {origin : HttpResponse} (hpassed : origin.Passed decode sent)
    (hcontent : sent.body = .content content) :
    origin.ReadAs decode sent.status_code (sent_fields date keep_alive (sent.serialized content))
      content where
  status_code := hpassed.status_code
  content := (undone_sent_fields hclean date keep_alive hcontent).trans hpassed.decoded
  headers := by
    intro name value hfree hown hget
    refine response.named_of_get? hclean ?_ (hpassed.headers name value hfree hget)
    simp only [rewritten, List.mem_cons, List.not_mem_nil, or_false, not_or] at hfree hown ⊢
    exact ⟨hfree.2.2.1, hown⟩
  cookies := by
    have hcarried := @response.carried_sent_fields date keep_alive _ hclean
    rw [← hpassed.cookies]
    exact ⟨_, hcarried.cookies⟩

end

theorem content_of_bytes {sent : HttpResponse} {content : Bytes} (hwhole : sent.streaming = false)
    (hbytes : sent.body.bytes = content) : sent.body = .content content := by
  cases hbody : sent.body with
  | content data =>
    rw [hbody, Body.bytes] at hbytes
    rw [hbytes]
  | streaming_content is_async chunks =>
    rw [HttpResponse.streaming, hbody] at hwhole
    cases hwhole

end massless.middleware
