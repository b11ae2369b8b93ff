import Massless.Response.Wire

open python

namespace massless.response

/-- Django's `ResponseHeaders`: names in the case they were set with, no two of
them equal up to case. -/
structure Headers where
  entries : List (String × String)
  nodup : (entries.map fun entry => lower_str entry.1).Nodup

/-- `headers.get(name)`, whatever the case of the name. -/
def Headers.get? (self : Headers) (name : String) : Option String :=
  (self.entries.find? fun entry => lower_str entry.1 = lower_str name).map Prod.snd

/-- What both folds read of a materialized `HttpResponse`; a cookie is the
`OutputString()` of its morsel. -/
structure HttpResponse where
  status_code : Int
  reason_phrase : String
  headers : Headers
  cookies : List String
  content : Bytes

/-- The headers that the serializer sets itself. -/
def serializer_headers : List String := ["content-type", "content-length", "connection"]

/-- The loop over `headers.items()` that both folds make. -/
def carry_headers (headers : Headers) : Dict String String :=
  headers.entries.foldl
    (fun carried entry =>
      if lower_str entry.1 ∈ serializer_headers then carried
      else carried.set entry.1 entry.2)
    .empty

/-- `_Fast._content_type_bytes` -/
def content_type_bytes (self : HttpResponse) : Option Bytes :=
  encode_latin1 ((self.headers.get? "Content-Type").getD "")

/-- The body of a massless response: bytes from the start, or JSON data with the
bytes it was encoded to on the first read of `content`. -/
inductive FastBody (Data : Type) where
  | http
  | json (data : Data) (materialized : Bool)

/-- `_serialize()`: body and content type. `none` is an exception, of msgspec or
of encoding the content type. -/
def serialize {Data : Type} (serialize_body : Data → Option Bytes) (body : FastBody Data)
    (self : HttpResponse) : Option (Bytes × Bytes) := do
  let body ← match body with
    | .json data false => serialize_body data
    | _ => some self.content
  let ctype ← content_type_bytes self
  some (body, ctype)

/-- The fold of a `_Fast` response in `dispatch`. -/
def fast_response_to_massless {Data : Type} (serialize_body : Data → Option Bytes)
    (body : FastBody Data) (dj_resp : HttpResponse) : Option Response := do
  let (body, ctype) ← serialize serialize_body body dj_resp
  let resp := Response.new dj_resp.status_code body ctype []
  some { resp with
    ct_present := !ctype.isEmpty
    headers := carry_headers dj_resp.headers
    cookies := dj_resp.cookies }

/-- `_django_response_to_massless` -/
def django_response_to_massless (dj_resp : HttpResponse) : Option Response := do
  let ctype_b ← (match dj_resp.headers.get? "Content-Type" with
    | none => some []
    | some ctype => encode_latin1 ctype)
  let reason ← encode_latin1 dj_resp.reason_phrase
  let resp := Response.new dj_resp.status_code dj_resp.content ctype_b reason
  some { resp with
    ct_present := (dj_resp.headers.get? "Content-Type").isSome
    headers := carry_headers dj_resp.headers
    cookies := dj_resp.cookies }

/-- The `Connection: close` that a Django response asks for. -/
def HttpResponse.asks_close (self : HttpResponse) : Bool :=
  match self.headers.get? "Connection" with
  | some conn => lower_str conn = "close"
  | none => false

/-- What `dispatch` returns for a `_Fast` response; `none` is an exception. -/
def send_fast {Data : Type} (serialize_body : Data → Option Bytes) (date : Bytes)
    (body : FastBody Data) (dj_resp : HttpResponse) (keep_alive : Bool) (method : Bytes) :
    Option (Bytes × Bool) := do
  let resp ← fast_response_to_massless serialize_body body dj_resp
  let wire ← resp.to_bytes date keep_alive method
  some (wire, keep_alive)

/-- What `dispatch` returns for a plain Django response. -/
def send_django (date : Bytes) (dj_resp : HttpResponse) (keep_alive : Bool) (method : Bytes) :
    Option (Bytes × Bool) := do
  let resp ← django_response_to_massless dj_resp
  let keep_alive := keep_alive && !dj_resp.asks_close
  let wire ← resp.to_bytes date keep_alive method
  some (wire, keep_alive)

/-- The content is in bytes already. -/
def FastBody.Materialized {Data : Type} : FastBody Data → Prop
  | .http => True
  | .json _ materialized => materialized = true

/-- Every text that goes on the wire after the status line is latin-1. -/
def HttpResponse.Encodable (self : HttpResponse) : Prop :=
  content_type_bytes self ≠ none ∧
    header_lines (carry_headers self.headers).entries ≠ none ∧ cookie_lines self.cookies ≠ none

/-- The data that the fold of a fast response drops says nothing: the reason
phrase is that of the status, a content type is not empty, and no `Connection`
header asks to close a connection that is kept alive. -/
def HttpResponse.DropsNothing (self : HttpResponse) (keep_alive : Bool) : Prop :=
  (self.reason_phrase = "" ∨
    encode_latin1 self.reason_phrase = some (response.reason_phrase self.status_code)) ∧
  self.headers.get? "Content-Type" ≠ some "" ∧
  (keep_alive = true → self.asks_close = false)

/-- What follows the status line and the content type on the wire. -/
def wire_tail (date : Bytes) (dj_resp : HttpResponse) (keep_alive : Bool) (method : Bytes)
    (headers cookies : List Bytes) : Bytes :=
  content_length_line dj_resp.content ++ line_if (!keep_alive) connection_close_line ++
    line_if (!(carry_headers dj_resp.headers).entries.any fun entry => lower_str entry.1 = "date")
      (header_line (ascii "Date") date) ++
    headers.flatten ++ cookies.flatten ++ crlf ++
    sent_body dj_resp.status_code method dj_resp.content

/-- A carriage return ends a line without one: two such line starts followed by
the end of line have the same bytes only if they are the same. -/
theorem line_end_unique {line other extra : Bytes} (hline : 13 ∉ line)
    (heq : other ++ crlf ++ extra = line ++ crlf) : extra = [] ∧ other = line := by
  have hcrlf : crlf = [13, 10] := rfl
  have hlength := congrArg List.length heq
  simp only [List.length_append, hcrlf, List.length_cons, List.length_nil] at hlength
  by_cases hshort : other.length < line.length
  · have hreturn : (other ++ crlf ++ extra)[other.length]? = some 13 := by
      simp [hcrlf]
    rw [heq, List.getElem?_append_left hshort] at hreturn
    exact absurd (List.mem_of_getElem? hreturn) hline
  · have hextra : extra = [] := List.eq_nil_of_length_eq_zero (by omega)
    subst hextra
    rw [List.append_nil] at heq
    exact ⟨rfl, List.append_cancel_right heq⟩

/-- No phrase of the status table breaks its line. -/
theorem reason_phrase_unbroken (status : Int) : 13 ∉ reason_phrase status := by
  have htable : ∀ entry ∈ http_status, 13 ∉ ascii entry.2 := by decide +kernel
  rw [reason_phrase]
  cases hfound : http_status.lookup status with
  | none => decide
  | some phrase =>
    obtain ⟨before, after, hsplit, -⟩ := List.lookup_eq_some_iff.mp hfound
    exact htable (status, phrase) (by simp [hsplit])

theorem send_fast_eq {Data : Type} (serialize_body : Data → Option Bytes) (date : Bytes)
    {body : FastBody Data} (dj_resp : HttpResponse) (keep_alive : Bool) (method : Bytes)
    (hbody : body.Materialized) :
    send_fast serialize_body date body dj_resp keep_alive method = (do
      let ctype ← content_type_bytes dj_resp
      let headers ← header_lines (carry_headers dj_resp.headers).entries
      let cookies ← cookie_lines dj_resp.cookies
      some (status_line dj_resp.status_code (reason_phrase dj_resp.status_code) ++
        line_if (!ctype.isEmpty) (header_line (ascii "Content-Type") ctype) ++
        wire_tail date dj_resp keep_alive method headers cookies, keep_alive)) := by
  have hserialize : serialize serialize_body body dj_resp =
      (content_type_bytes dj_resp).map fun ctype => (dj_resp.content, ctype) := by
    cases body with
    | http =>
      unfold serialize
      cases content_type_bytes dj_resp <;> rfl
    | json data materialized =>
      simp only [FastBody.Materialized] at hbody
      subst hbody
      unfold serialize
      cases content_type_bytes dj_resp <;> rfl
  simp only [send_fast, fast_response_to_massless, hserialize, Response.to_bytes, Response.new]
  cases content_type_bytes dj_resp with
  | none => rfl
  | some ctype =>
    cases hheaders : header_lines (carry_headers dj_resp.headers).entries with
    | none => simp [hheaders]
    | some headers =>
      cases hcookies : cookie_lines dj_resp.cookies with
      | none => simp [hheaders, hcookies]
      | some cookies => simp [hheaders, hcookies, wire_tail]

theorem send_django_eq (date : Bytes) (dj_resp : HttpResponse) (keep_alive : Bool)
    (method : Bytes) :
    send_django date dj_resp keep_alive method = (do
      let ctype ← content_type_bytes dj_resp
      let reason ← encode_latin1 dj_resp.reason_phrase
      let headers ← header_lines (carry_headers dj_resp.headers).entries
      let cookies ← cookie_lines dj_resp.cookies
      some (status_line dj_resp.status_code
          (if reason.isEmpty then reason_phrase dj_resp.status_code else reason) ++
        line_if (dj_resp.headers.get? "Content-Type").isSome
          (header_line (ascii "Content-Type") ctype) ++
        wire_tail date dj_resp (keep_alive && !dj_resp.asks_close) method headers cookies,
        keep_alive && !dj_resp.asks_close)) := by
  have hctype : (match dj_resp.headers.get? "Content-Type" with
      | none => some []
      | some ctype => encode_latin1 ctype) = content_type_bytes dj_resp := by
    rw [content_type_bytes]
    cases dj_resp.headers.get? "Content-Type" <;> rfl
  have hpresent : ∀ ctype, content_type_bytes dj_resp = some ctype →
      (!ctype.isEmpty || (dj_resp.headers.get? "Content-Type").isSome) =
        (dj_resp.headers.get? "Content-Type").isSome := by
    intro ctype hencoded
    rw [content_type_bytes] at hencoded
    cases hget : dj_resp.headers.get? "Content-Type" with
    | some text => simp
    | none =>
      rw [hget, Option.getD_none] at hencoded
      cases hencoded
      rfl
  simp only [send_django, django_response_to_massless, hctype, Response.to_bytes, Response.new]
  cases hencoded : content_type_bytes dj_resp with
  | none => rfl
  | some ctype =>
    cases hreason : encode_latin1 dj_resp.reason_phrase with
    | none => rfl
    | some reason =>
      cases hheaders : header_lines (carry_headers dj_resp.headers).entries with
      | none => simp [hheaders]
      | some headers =>
        cases hcookies : cookie_lines dj_resp.cookies with
        | none => simp [hheaders, hcookies]
        | some cookies => simp [hheaders, hcookies, wire_tail, hpresent ctype hencoded]

/-- The status line and the content type decide: with the same tail, both
serializers emit the same bytes exactly when the reason phrase is the table's and
no empty content type is left out. -/
theorem heads_eq_iff (status : Int) (reason ctype tail : Bytes) (present : Bool)
    (hpresent : present = false → ctype = []) :
    status_line status (reason_phrase status) ++
        line_if (!ctype.isEmpty) (header_line (ascii "Content-Type") ctype) ++ tail =
      status_line status (if reason.isEmpty then reason_phrase status else reason) ++
        line_if present (header_line (ascii "Content-Type") ctype) ++ tail ↔
    (reason = [] ∨ reason = reason_phrase status) ∧ (ctype = [] → present = false) := by
  have hgap : ∃ extra, line_if present (header_line (ascii "Content-Type") ctype) =
      extra ++ line_if (!ctype.isEmpty) (header_line (ascii "Content-Type") ctype) ∧
      (extra = [] ↔ (ctype = [] → present = false)) := by
    cases present with
    | false =>
      obtain rfl := hpresent rfl
      exact ⟨[], rfl, by simp⟩
    | true =>
      cases ctype with
      | nil => exact ⟨header_line (ascii "Content-Type") [], by simp [line_if], by decide⟩
      | cons byte rest => exact ⟨[], by simp [line_if], by simp⟩
  obtain ⟨extra, hextra, hnone⟩ := hgap
  have hcancel : ∀ line other rest : Bytes,
      line ++ (crlf ++ rest) = other ++ (crlf ++ (extra ++ rest)) ↔
        other ++ crlf ++ extra = line ++ crlf := by
    intro line other rest
    rw [← List.append_assoc, ← List.append_assoc, ← List.append_assoc, List.append_left_inj]
    exact eq_comm
  rw [hextra, ← hnone]
  simp only [status_line, List.append_assoc, List.append_right_inj]
  rw [hcancel]
  cases reason with
  | nil => simp
  | cons byte rest =>
    simp only [List.isEmpty_cons, Bool.false_eq_true, if_false, reduceCtorEq, false_or]
    constructor
    · intro heq
      exact (line_end_unique (reason_phrase_unbroken status) heq).symm
    · rintro ⟨hline, rfl⟩
      rw [hline, List.append_nil]

/-- A materialized fast response is sent as the plain Django response with the
same data exactly when the fast fold drops nothing that matters, or when a header
or cookie makes both fail. -/
theorem send_fast_eq_send_django_iff {Data : Type} (serialize_body : Data → Option Bytes)
    (date : Bytes) (body : FastBody Data) (dj_resp : HttpResponse) (keep_alive : Bool)
    (method : Bytes) (hbody : body.Materialized) :
    send_fast serialize_body date body dj_resp keep_alive method =
        send_django date dj_resp keep_alive method ↔
      ¬dj_resp.Encodable ∨ dj_resp.DropsNothing keep_alive := by
  rw [send_fast_eq serialize_body date dj_resp keep_alive method hbody, send_django_eq]
  simp only [HttpResponse.Encodable, HttpResponse.DropsNothing]
  cases hctype : content_type_bytes dj_resp with
  | none => simp
  | some ctype =>
    cases hheaders : header_lines (carry_headers dj_resp.headers).entries with
    | none => cases encode_latin1 dj_resp.reason_phrase <;> simp
    | some headers =>
      cases hcookies : cookie_lines dj_resp.cookies with
      | none => cases encode_latin1 dj_resp.reason_phrase <;> simp
      | some cookies =>
        have hpresent : (dj_resp.headers.get? "Content-Type").isSome = false → ctype = [] := by
          intro hnone
          cases hget : dj_resp.headers.get? "Content-Type" with
          | some text => simp [hget] at hnone
          | none =>
            rw [content_type_bytes, hget] at hctype
            cases hctype
            rfl
        have hempty : (ctype = [] → (dj_resp.headers.get? "Content-Type").isSome = false) ↔
            dj_resp.headers.get? "Content-Type" ≠ some "" := by
          rw [content_type_bytes] at hctype
          cases hget : dj_resp.headers.get? "Content-Type" with
          | none => simp
          | some text =>
            rw [hget, Option.getD_some] at hctype
            have hnil := encode_latin1_eq_nil_iff text
            rw [hctype, Option.some.injEq] at hnil
            simp [hnil]
        cases hreason : encode_latin1 dj_resp.reason_phrase with
        | none =>
          have hne : dj_resp.reason_phrase ≠ "" := by
            rintro hphrase
            rw [hphrase] at hreason
            cases hreason
          simp [hne]
        | some reason =>
          have hphrase := encode_latin1_eq_nil_iff dj_resp.reason_phrase
          rw [hreason, Option.some.injEq] at hphrase
          rw [← hphrase, ← hempty]
          by_cases hkeep : keep_alive = true → dj_resp.asks_close = false
          · have hflag : (keep_alive && !dj_resp.asks_close) = keep_alive := by
              cases keep_alive with
              | false => rfl
              | true => simp [hkeep rfl]
            have hheads := heads_eq_iff dj_resp.status_code reason ctype
              (wire_tail date dj_resp keep_alive method headers cookies) _ hpresent
            simpa [hflag, and_iff_left hkeep] using hheads
          · have hflag : keep_alive ≠ (keep_alive && !dj_resp.asks_close) := by
              simp only [Classical.not_imp, Bool.not_eq_false] at hkeep
              simp [hkeep.1, hkeep.2]
            simp [hkeep, hflag]

/-- `JsonResponse({})`, encoded, with headers a middleware may have set. -/
def json_response (headers : Headers) : HttpResponse :=
  { status_code := 200, reason_phrase := "OK", headers, cookies := ["sid=1"],
    content := ascii "\x7b\x7d" }

/-- A JSON response goes out as the plain response with the same data. -/
theorem send_fast_eq_send_django_iff_json :
    send_fast (fun _ : Unit => none) (ascii "now") (.json () true)
        (json_response ⟨[("Content-Type", "application/json"), ("ETag", "1")], by decide⟩) true
        (ascii "GET") =
      send_django (ascii "now")
        (json_response ⟨[("Content-Type", "application/json"), ("ETag", "1")], by decide⟩) true
        (ascii "GET") :=
  (send_fast_eq_send_django_iff (fun _ : Unit => none) (ascii "now") (.json () true) _ true
    (ascii "GET") rfl).mpr (Or.inr ⟨Or.inr rfl, by decide, fun _ => rfl⟩)

/-- A `Connection: close` that a middleware set closes the connection after a plain
response, and is lost on a fast one. -/
theorem connection_close_ignored :
    send_fast (fun _ : Unit => none) (ascii "now") (.json () true)
        (json_response ⟨[("Content-Type", "application/json"), ("Connection", "close")], by decide⟩)
        true (ascii "GET") ≠
      send_django (ascii "now")
        (json_response ⟨[("Content-Type", "application/json"), ("Connection", "close")], by decide⟩)
        true (ascii "GET") := by
  intro heq
  have hflag := congrArg (Option.map Prod.snd) heq
  revert hflag
  decide +kernel

end massless.response
