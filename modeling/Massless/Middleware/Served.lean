import Massless.Middleware.Sent
import Massless.Protocol.Transcript

open python
open transition
open massless.chain
open massless.protocol (Act Action Answers Calls Connection DjangoResponse Op Presents Request
  ResponseKind Server continue_line dispatch fold_response)

namespace massless.response

variable {dj_resp : HttpResponse}

/-- A reply that the serializer writes of a folded response is the one made of it. -/
theorem eq_reply_of (hclean : dj_resp.Clean) {reply : Reply}
    (hwriter : reply.writer = .to_bytes (folded dj_resp)) :
    reply = reply_of hclean reply.date_whole reply.keep_alive reply.method := by
  cases reply
  subst hwriter
  rfl

/-- The fold of a fast response is that of a plain one without a reason phrase, where the
content type is not the empty text. -/
theorem fast_response_to_massless_eq {Data : Type} {serialize_body : Data → Option Bytes}
    {body : FastBody Data} {content ctype : Bytes} (hclean : dj_resp.Clean)
    (htype : dj_resp.headers.get? "Content-Type" ≠ some "")
    (hserialize : serialize serialize_body body dj_resp = some (content, ctype)) :
    fast_response_to_massless serialize_body body dj_resp =
      some (folded { dj_resp with reason_phrase := "", content := content }) := by
  obtain ⟨htype_eq, -⟩ := Reply.latin1_eq (by decide) (content_type_clean hclean).1
  have hctype : content_type_bytes dj_resp = some ctype := by
    rcases body with - | ⟨data, - | -⟩ <;>
    · simp only [serialize, Option.bind_eq_bind, Option.bind_eq_some_iff, Option.some.injEq,
        Prod.mk.injEq] at hserialize
      obtain ⟨_, -, other, hother, -, rfl⟩ := hserialize
      exact hother
  have hsame : ctype = Reply.latin1 ((dj_resp.headers.get? "Content-Type").getD "") :=
    Option.some.inj (hctype.symm.trans htype_eq)
  have hpresent : (!ctype.isEmpty) = (dj_resp.headers.get? "Content-Type").isSome := by
    cases hget : dj_resp.headers.get? "Content-Type" with
    | none =>
      rw [hsame, hget]
      rfl
    | some value =>
      rw [hget, Option.getD_some] at htype_eq hsame
      rw [hget] at htype
      have hfull : ctype ≠ [] := by
        rintro rfl
        rw [← hsame, encode_latin1_eq_nil_iff] at htype_eq
        exact htype (congrArg some htype_eq)
      simpa using hfull
  have hreason : Reply.latin1 "" = [] := by decide
  simp only [fast_response_to_massless, hserialize, Option.bind_eq_bind, Option.bind_some, folded,
    Response.new, hpresent, hreason]
  rw [hsame]

end massless.response

namespace massless.middleware

open massless.response (FieldText OneLine serialize)

variable {W Req Args Data : Type}

/-- What the serializer makes of the body of a response object: the content of a plain one,
and what a fast one serializes. A stream has no content. -/
def Sends (calls : Calls Data) (fields : response.HttpResponse) (sent : HttpResponse) :
    ResponseKind Data → Prop
  | .plain => sent.body = .content fields.content
  | .fast body => sent.get "Content-Type" ≠ some "" ∧ ∃ content ctype,
    serialize calls.serialize_body body fields = some (content, ctype) ∧
      sent.body = .content content
  | .streaming => sent.streaming = true

/-- The response object that `dispatch` gets for a response of the chain, whose texts go on
a line each. -/
structure Presented (calls : Calls Data) (dj_resp : DjangoResponse Data) (sent : HttpResponse) :
    Prop where
  fields : dj_resp.fields = sent.serialized dj_resp.fields.content
  sends : Sends calls dj_resp.fields sent dj_resp.kind
  clean : dj_resp.fields.Clean
  reason : FieldText 256 sent.reason_phrase
  final : 200 ≤ sent.status_code
  transfer : sent.get "Transfer-Encoding" = none

/-- The answer in place of a stream. -/
def streaming_response : response.Response :=
  .new 501 (ascii "Streaming responses are not supported yet") (ascii "text/plain; charset=utf-8")
    (ascii "Not Implemented")

theorem clean_serialized {sent : HttpResponse} {content : Bytes}
    (hclean : (sent.serialized content).Clean) (reason : String) (other : Bytes) :
    ({ sent with reason_phrase := reason }.serialized other).Clean :=
  ⟨hclean.status, hclean.names, hclean.values, hclean.cookies⟩

section
variable {calls : Calls Data} {dj_resp : DjangoResponse Data} {sent : HttpResponse}
  (hpresented : Presented calls dj_resp sent)
include hpresented

/-- What `dispatch` folds such a response to: its own content goes out, or the answer in place
of a stream. -/
theorem Presented.fold (keep_alive : Bool) :
    (∃ content reason stays, sent.body = .content content ∧ FieldText 256 reason ∧
      ({ sent with reason_phrase := reason }.serialized content).Clean ∧
      fold_response calls keep_alive (.response dj_resp) =
        .ok (response.folded ({ sent with reason_phrase := reason }.serialized content), stays)) ∨
    (sent.streaming = true ∧
      fold_response calls keep_alive (.response dj_resp) = .ok (streaming_response, keep_alive)) := by
  obtain ⟨hfields, hsends, hclean, hreason, -, -⟩ := hpresented
  have hclean_sent : (sent.serialized dj_resp.fields.content).Clean := hfields ▸ hclean
  cases hkind : dj_resp.kind with
  | plain =>
    rw [hkind] at hsends
    left
    refine ⟨_, sent.reason_phrase, keep_alive && !dj_resp.fields.asks_close, hsends, hreason,
      clean_serialized hclean_sent _ _, ?_⟩
    have hfield_reason : FieldText 256 dj_resp.fields.reason_phrase := by
      rw [hfields]
      exact hreason
    simp only [fold_response, hkind,
      response.django_response_to_massless_eq hclean hfield_reason]
    rw [← hfields]
  | fast body =>
    rw [hkind] at hsends
    obtain ⟨htype, content, ctype, hserialize, hcontent⟩ := hsends
    left
    refine ⟨content, "", keep_alive, hcontent, response.field_text_empty 256,
      clean_serialized hclean_sent _ _, ?_⟩
    have hfield_type : dj_resp.fields.headers.get? "Content-Type" ≠ some "" := by
      rw [hfields]
      exact htype
    simp only [fold_response, hkind,
      response.fast_response_to_massless_eq hclean hfield_type hserialize]
    rw [hfields]
    rfl
  | streaming =>
    rw [hkind] at hsends
    right
    refine ⟨hsends, ?_⟩
    simp only [fold_response, hkind]
    rfl

/-- Such a response is a reply that a client can read. -/
theorem Presented.presents {date : Bytes} (hdate : OneLine date) (r : Request)
    {folded : response.Response × Bool}
    (hfolded : fold_response calls r.keep_alive (.response dj_resp) = .ok folded) :
    ∃ reply, Presents date r folded reply := by
  obtain ⟨content, reason, stays, -, hreason, hclean, hsame⟩ | ⟨-, hsame⟩ :=
    hpresented.fold r.keep_alive
  · obtain rfl := Except.ok.inj (hsame.symm.trans hfolded)
    have hfinal : (200 : Int) ≤ sent.status_code := Int.ofNat_le.mpr hpresented.final
    exact ⟨response.reply_of hclean hdate stays r.core.method, rfl, rfl, rfl, rfl,
      response.whole_reply_of hclean hreason hdate _ _, hfinal,
      response.delimited_reply_of hclean hdate _ _ hfinal hpresented.transfer _⟩
  · obtain rfl := Except.ok.inj (hsame.symm.trans hfolded)
    let reply : response.Reply := {
      writer := .to_bytes streaming_response
      date := date
      keep_alive := r.keep_alive
      method := r.core.method
      status_admitted := by decide
      headers_admitted := by decide
      headers_stripped := by decide
      content_type_whole := by decide
      date_whole := hdate }
    have hwhole : reply.Whole :=
      ⟨show OneLine (ascii "Not Implemented") by decide, List.forall_mem_nil _⟩
    have hfinal : 200 ≤ reply.status := show (200 : Int) ≤ 501 by decide
    exact ⟨reply, rfl, rfl, rfl, rfl, hwhole, hfinal,
      response.Reply.delimited_of_no_headers rfl hfinal _⟩

omit hpresented in
/-- What a client reads of a response that was handed on from an origin. -/
theorem HttpResponse.Passed.read_reply {decode : String → Bytes → Option Bytes}
    {origin : HttpResponse} (hpassed : origin.Passed decode sent) {content : Bytes}
    (hcontent : sent.body = .content content) (hfinal : 200 ≤ sent.status_code) {reason : String}
    (hreason : FieldText 256 reason)
    (hclean : ({ sent with reason_phrase := reason }.serialized content).Clean)
    {reply : response.Reply} (hwriter : reply.writer =
      .to_bytes (response.folded ({ sent with reason_phrase := reason }.serialized content))) :
    ∃ fields, http.read_head reply.writing.wire =
        some (sent.status_code, fields, reply.writing.body) ∧
      origin.ReadAs decode sent.status_code fields content ∧
      reply.writing.body = response.sent_body sent.status_code reply.method content := by
  have hsame := response.eq_reply_of hclean hwriter
  have hwhole : reply.Whole := by
    rw [hsame]
    exact response.whole_reply_of hclean hreason _ _ _
  have hstatus : reply.status = (sent.status_code : Int) := by
    rw [hsame]
    rfl
  have hstill : 200 ≤ reply.status := by
    rw [hstatus]
    exact Int.ofNat_le.mpr hfinal
  have hbody : reply.writing.body = response.sent_body sent.status_code reply.method content := by
    rw [response.Reply.writing_body hstill, hstatus, response.Reply.body, hwriter]
    rfl
  have hhead := response.Reply.read_head_writing hwhole hstatus []
  have hfields : reply.fields = response.sent_fields reply.date
      reply.keep_alive ({ sent with reason_phrase := reason }.serialized content) := by
    conv_lhs => rw [hsame]
    exact response.fields_reply_of hclean _ _ _
  have hclean_sent : (sent.serialized content).Clean :=
    ⟨hclean.status, hclean.names, hclean.values, hclean.cookies⟩
  refine ⟨_, ?_, hpassed.read_as hclean_sent reply.date reply.keep_alive hcontent, hbody⟩
  rw [List.append_nil, List.append_nil, ← response.Reply.writing_body hstill, hfields] at hhead
  exact hhead

end

section
variable (site : Site W Req HttpResponse Args) (django : Django W Req HttpResponse Args)
  (lib : Http W Req) (fast_mw : Bool) (MIDDLEWARE : List String)

/-- What a client can read as the answer to a request: what the response said where it came
from, or an answer that the server makes up itself, to a stream or where `dispatch` failed. -/
inductive Site.Told (decode : String → Bytes → Option Bytes) (request : Req) (method : Bytes)
    (failed : Prop) (message : http.Message) : Prop where
  | origin {status : Nat} {fields : List http.Field} {origin : HttpResponse} {content : Bytes}
    (horigin : site.Origin django lib fast_mw MIDDLEWARE request origin)
    (hhead : http.read_head message.raw = some (status, fields, message.body))
    (hread : origin.ReadAs decode status fields content)
    (hbody : message.body = response.sent_body status method content) :
    Told decode request method failed message
  | streaming {fields : List http.Field} {s t : W} {sent : HttpResponse}
    (hrun : site.run fast_mw MIDDLEWARE django request s = (.ok sent, t))
    (hstreaming : sent.streaming = true)
    (hhead : http.read_head message.raw = some (501, fields, message.body)) :
    Told decode request method failed message
  | failed {fields : List http.Field} (hfailed : failed)
    (hhead : http.read_head message.raw = some (500, fields, message.body)) :
    Told decode request method failed message

/-- A `dispatch` for the request ended in an exception. -/
def Failed (steps : List (Server × Action Data)) (c : Nat) (r : Request) : Prop :=
  ∃ before date calls e, (before, .connection c (.dispatched date calls)) ∈ steps ∧
    (∃ conn, before.conns[c]? = some conn ∧ conn.worker = .handling r) ∧
    (dispatch calls date r.keep_alive r.core.method ⟨[], []⟩).1 = .error e

/-- A step of a server on whose connection the site answers the requests: what `dispatch` gets
is what the chain sent for the request. -/
def Site.Serves (make : request.RequestCore → Req) (c : Nat) (s : Server) : Action Data → Prop
  | .connection d (.data_received date _) => d = c → OneLine date
  | .connection d (.dispatched date calls) => d = c → OneLine date ∧
    ∀ conn ∈ s.conns[d]?, ∀ r, conn.worker = .handling r → ∀ dj_resp, calls.Reaches dj_resp →
      ∃ sent before after, Presented calls dj_resp sent ∧
        site.run fast_mw MIDDLEWARE django (make r.core) before = (.ok sent, after)
  | _ => True

end

section
variable {site : Site W Req HttpResponse Args} {django : Django W Req HttpResponse Args}
  {fast_mw : Bool} {MIDDLEWARE : List String} {make : request.RequestCore → Req} {c : Nat}
  {s : Server} {a : Action Data}

theorem Site.Serves.presentable (hserves : site.Serves django fast_mw MIDDLEWARE make c s a) :
    s.Presentable c a := by
  cases a with
  | connection d act =>
    intro conn hconn hsame
    cases act with
    | data_received date feed => exact hserves hsame
    | dispatched date calls =>
      obtain ⟨hdate, hanswered⟩ := hserves hsame
      refine ⟨hdate, fun r hworker dj_resp folded hreaches hfolded => ?_⟩
      obtain ⟨sent, -, -, hpresented, -⟩ := hanswered conn hconn r hworker dj_resp hreaches
      exact hpresented.presents hdate r hfolded
    | _ => trivial
  | _ => trivial

end

/-- A reply that the server makes up itself is read with its status. -/
theorem read_head_message {reply : response.Reply} (hwhole : reply.Whole) {status : Nat}
    (hstatus : reply.status = status) (hfinal : 200 ≤ status) :
    ∃ fields, http.read_head (protocol.Server.message reply).raw =
      some (status, fields, (protocol.Server.message reply).body) := by
  have hhead := response.Reply.read_head_writing hwhole hstatus []
  have hstill : 200 ≤ reply.status := by omega
  have hbody : (protocol.Server.message reply).body =
      response.sent_body reply.status reply.method reply.body :=
    response.Reply.writing_body hstill
  rw [List.append_nil, List.append_nil, ← hbody] at hhead
  exact ⟨_, hhead⟩

/-- What a client reads of the reply to a request that the site answered. -/
theorem Site.told_of_replied {decode : String → Bytes → Option Bytes}
    (site : Site W Req HttpResponse Args) (settings : Settings) {lib : Http W Req}
    (hdocumented : lib.Documented) (hlossless : lib.Lossless decode)
    (django : Django W Req HttpResponse Args) (fast_mw : Bool) (MIDDLEWARE : List String)
    (make : request.RequestCore → Req) {c : Nat} {steps : List (Server × Action Data)}
    (hserves : ∀ taken ∈ steps,
      (site.with_hooks settings lib).Serves django fast_mw MIDDLEWARE make c taken.1 taken.2)
    {r : Request} {reply : response.Reply} (hreplied : protocol.Server.Replied steps c r reply) :
    (site.with_hooks settings lib).Told django lib fast_mw MIDDLEWARE decode (make r.core)
      r.core.method (Failed steps c r) (protocol.Server.message reply) := by
  obtain ⟨before, date, calls, hmem, ⟨conn, hconn, hworker⟩, hmethod, hwhole, -, -,
    hsource⟩ := hreplied
  obtain ⟨-, hanswered⟩ := hserves _ hmem rfl
  obtain ⟨dj_resp, folded, hreaches, hfolded, hwriter, -⟩ | ⟨hwriter, -, e, herror⟩ := hsource
  · obtain ⟨sent, s, t, hpresented, hrun⟩ := hanswered conn hconn r hworker dj_resp hreaches
    obtain ⟨content, reason, stays, hcontent, hreason, hclean, hsame⟩ | ⟨hstreaming, hsame⟩ :=
      hpresented.fold r.keep_alive
    · obtain rfl := Except.ok.inj (hsame.symm.trans hfolded)
      have hhanded := site.returns_handed settings hdocumented hlossless django fast_mw MIDDLEWARE
        (make r.core)
      obtain ⟨origin, horigin, hpassed⟩ :=
        (site.with_hooks settings lib).returns_run django hhanded s sent t hrun sent rfl
      obtain ⟨fields, hhead, hread, hbody⟩ :=
        hpassed.read_reply hcontent hpresented.final hreason hclean hwriter
      rw [hmethod] at hbody
      exact .origin horigin hhead hread hbody
    · obtain rfl := Except.ok.inj (hsame.symm.trans hfolded)
      have hstatus : reply.status = (501 : Nat) := by
        rw [response.Reply.status, hwriter]
        rfl
      obtain ⟨fields, hhead⟩ := read_head_message hwhole hstatus (by decide)
      exact .streaming hrun hstreaming hhead
  · have hstatus : reply.status = (500 : Nat) := by
      rw [response.Reply.status, hwriter]
      rfl
    obtain ⟨fields, hhead⟩ := read_head_message hwhole hstatus (by decide)
    exact .failed ⟨before, date, calls, e, hmem, ⟨conn, hconn, hworker⟩, herror⟩ hhead

theorem related_take {α β : Type} {related : α → β → Prop} {items : List α} {n : Nat}
    {found : List β} (hfound : List.Forall₂ (fun k b => ∃ a, items[k]? = some a ∧ related a b)
      (List.range n) found) : List.Forall₂ related (items.take n) found := by
  obtain ⟨hlength, hget⟩ := List.forall₂_iff_get.mp hfound
  rw [List.length_range] at hlength
  have hat (k : Nat) (hk : k < n) (hb : k < found.length) :
      ∃ a, items[k]? = some a ∧ related a found[k] := by
    simpa using hget k (by simpa using hk) hb
  have hlong : n ≤ items.length := by
    by_contra hshort
    obtain ⟨a, ha, -⟩ := hat items.length (by omega) (by omega)
    simp at ha
  refine List.forall₂_iff_get.mpr ⟨?_, fun k hk hb => ?_⟩
  · rw [List.length_take, Nat.min_eq_left hlong, hlength]
  · obtain ⟨a, ha, hrelated⟩ := hat k (by omega) hb
    obtain ⟨hlt, rfl⟩ := List.getElem?_eq_some_iff.mp ha
    simpa using hrelated

/-- The methods that a client knows of its requests are those that the replies are written for. -/
theorem is_head_eq {steps : List (Server × Action Data)} {c : Nat} {requests : List Request}
    {replies : List response.Reply}
    (hreplied : List.Forall₂ (protocol.Server.Replied steps c) requests replies) :
    replies.map response.Reply.is_head =
      requests.map fun r => decide (r.core.method = ascii "HEAD") := by
  induction hreplied with
  | nil => rfl
  | cons hfirst _ ih =>
    obtain ⟨_, _, _, -, -, hanswers⟩ := hfirst
    rw [List.map_cons, List.map_cons, ih, response.Reply.is_head, hanswers.method]

/-- A handler that gives the page as the chain sent it. -/
def page_calls (sent : HttpResponse) : Calls Unit :=
  { protocol.json_calls fun _ => none with
    routed := .ok false
    handle := .ok (.response ⟨.plain, sent.serialized page_gzipped, [], false⟩) }

/-- The page is asked for and sent. -/
def page_served (sent : HttpResponse) : List (Action Unit) :=
  [.connection_made none none, .connection 0 .worker,
   .connection 0 (.data_received (ascii "now") (protocol.get_feed none)), .connection 0 .worker,
   .connection 0 (.dispatched (ascii "now") (page_calls sent))]

end massless.middleware
