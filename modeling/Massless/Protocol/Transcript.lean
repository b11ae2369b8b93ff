import Massless.Protocol.Progress
import Massless.Response.Delivered

open python
open transition
open massless.response (OneLine build_http_response)

namespace massless.protocol

/-- `_CONTINUE` -/
def continue_line : Bytes := ascii "HTTP/1.1 100 Continue\r\n\r\n"

/-- The bytes that go out with an op. -/
def Op.bytes : Op → Bytes
  | .continue_100 _ => continue_line
  | .response _ raw => raw
  | .bad_request _ raw => raw
  | _ => []

/-- What `dispatch` returns is the response that Django gave, folded and serialized. -/
theorem dispatch_ok {Data : Type} {calls : Calls Data} {date method raw : Bytes}
    {keep_alive stays : Bool}
    (hreturned : (dispatch calls date keep_alive method ⟨[], []⟩).1 = .ok (raw, stays)) :
    ∃ dj_resp folded, calls.Reaches dj_resp ∧
      fold_response calls keep_alive (.response dj_resp) = .ok folded ∧
      wire_bytes date method folded = .ok (raw, stays) := by
  obtain ⟨routed, run, hlifted, hreturned⟩ := Py.bind_ok hreturned
  obtain ⟨hrouted, rfl⟩ := Prod.mk.inj hlifted
  obtain ⟨reply, run, hview, hreturned⟩ := Py.bind_ok hreturned
  obtain ⟨folded, run, hlifted, hreturned⟩ := Py.bind_ok hreturned
  obtain ⟨hfolded, -⟩ := Prod.mk.inj hlifted
  obtain ⟨-, run, -, hwire⟩ := Py.bind_ok hreturned
  have hstarted : calls.pool_lifecycle = false → calls.request_started = .ok () := by
    intro hpool
    cases hrefused : calls.request_started with
    | ok _ => rfl
    | error e =>
      cases routed <;>
        simp [run_view, fast_path, handler_path, start_refused hpool hrefused] at hview
  obtain ⟨dj_resp, hreaches, hresponse⟩ | ⟨-, outcome, registered, hother, hnone⟩ :=
    run_view_run hstarted hrouted
  · obtain ⟨hsame, -⟩ := Prod.mk.inj (hresponse.symm.trans hview)
    obtain rfl := Except.ok.inj hsame
    exact ⟨dj_resp, folded, hreaches, hfolded, hwire⟩
  · obtain ⟨rfl, -⟩ := Prod.mk.inj (hother.symm.trans hview)
    cases reply with
    | response dj_resp => exact absurd rfl (hnone dj_resp)
    | _ => cases hfolded

/-- A response that the server makes up itself. -/
def plain_reply (status : Int) (hstatus : 100 ≤ status ∧ status ≤ 599) (body date method : Bytes)
    (hdate : OneLine date) : response.Reply where
  writer := .build_http_response status (ascii "text/plain; charset=utf-8") body
  date := date
  keep_alive := false
  method := method
  status_admitted := hstatus
  headers_admitted := by simp [response.Writer.written, response.Response.new, Dict.empty]
  headers_stripped := by simp [response.Writer.written, response.Response.new, Dict.empty]
  content_type_whole := show OneLine (ascii "text/plain; charset=utf-8") by decide
  date_whole := hdate

theorem plain_reply_whole {status : Int} (hstatus : 100 ≤ status ∧ status ≤ 599)
    (body method : Bytes) {date : Bytes} (hdate : OneLine date) :
    (plain_reply status hstatus body date method hdate).Whole :=
  ⟨show OneLine [] by decide, by simp [plain_reply, response.Writer.written, response.Response.new]⟩

/-- A folded response as a reply to a request that a client can read: it is a final
response whose reason phrase and cookies stay on their lines, and its end is marked on the
wire, by a length, or by the close of a connection that does not stay open. -/
structure Presents (date : Bytes) (r : Request) (folded : response.Response × Bool)
    (reply : response.Reply) : Prop where
  writer : reply.writer = .to_bytes folded.1
  date : reply.date = date
  keep_alive : reply.keep_alive = folded.2
  method : reply.method = r.core.method
  whole : reply.Whole
  final : 200 ≤ reply.status
  delimited : reply.Delimited (folded.2 = false)

/-- The reply to a request: the response that Django gave to it, folded, or the answer
to a failure of `dispatch`. -/
structure Answers {Data : Type} (date : Bytes) (calls : Calls Data) (r : Request)
    (reply : response.Reply) : Prop where
  method : reply.method = r.core.method
  whole : reply.Whole
  final : 200 ≤ reply.status
  delimited : reply.Delimited (reply.keep_alive = false)
  source : (∃ dj_resp folded, calls.Reaches dj_resp ∧
      fold_response calls r.keep_alive (.response dj_resp) = .ok folded ∧
      reply.writer = .to_bytes folded.1 ∧ reply.keep_alive = folded.2) ∨
    (reply.writer = .build_http_response 500 (ascii "text/plain; charset=utf-8")
        (ascii "Internal Server Error") ∧ reply.keep_alive = false ∧
      ∃ e, (dispatch calls date r.keep_alive r.core.method ⟨[], []⟩).1 = .error e)

/-- What the worker writes behind a `dispatch` is the reply to its request. -/
theorem answer_is_reply {Data : Type} {date raw : Bytes} {calls : Calls Data} {r : Request}
    {stays : Bool} (hdate : OneLine date)
    (hpresents : ∀ dj_resp folded, calls.Reaches dj_resp →
      fold_response calls r.keep_alive (.response dj_resp) = .ok folded →
        ∃ reply, Presents date r folded reply)
    (hanswer : Connection.answer date r (dispatch calls date r.keep_alive r.core.method ⟨[], []⟩).1 =
      some (raw, stays)) :
    ∃ reply, Answers date calls r reply ∧ reply.wire = some raw ∧ reply.keep_alive = stays := by
  cases houtcome : (dispatch calls date r.keep_alive r.core.method ⟨[], []⟩).1 with
  | ok answered =>
    simp only [houtcome, Connection.answer, Option.some.injEq] at hanswer
    subst hanswer
    obtain ⟨dj_resp, folded, hreaches, hfolded, hwire⟩ := dispatch_ok houtcome
    obtain ⟨reply, hwriter, hreply_date, hkeep_alive, hmethod, hwhole, hfinal, hdelimited⟩ :=
      hpresents dj_resp folded hreaches hfolded
    have hsame : reply.wire = folded.1.to_bytes date folded.2 r.core.method := by
      rw [response.Reply.wire, hwriter, hreply_date, hkeep_alive, hmethod]
      rfl
    unfold wire_bytes at hwire
    split at hwire
    · rename_i wire hbytes
      obtain ⟨rfl, rfl⟩ := Prod.mk.inj (Except.ok.inj hwire)
      refine ⟨reply, ⟨hmethod, hwhole, hfinal, ?_, Or.inl ⟨dj_resp, folded, hreaches, hfolded, hwriter,
        hkeep_alive⟩⟩, hsame.trans hbytes, hkeep_alive⟩
      rwa [hkeep_alive]
    · cases hwire
  | error e =>
    simp only [houtcome, Connection.answer, Option.ite_none_left_eq_some, Option.some.injEq,
      Prod.mk.injEq] at hanswer
    obtain ⟨-, rfl, rfl⟩ := hanswer
    let reply := plain_reply 500 (by decide) (ascii "Internal Server Error") date r.core.method hdate
    have hfinal : 200 ≤ reply.status := show (200 : Int) ≤ 500 by decide
    exact ⟨reply, ⟨rfl, plain_reply_whole _ _ _ hdate, hfinal,
      response.Reply.delimited_of_no_headers rfl hfinal _, Or.inr ⟨rfl, rfl, e, houtcome⟩⟩, rfl, rfl⟩

/-- The answer to malformed input, as a reply. -/
def refusal (date : Bytes) (hdate : OneLine date) : response.Reply :=
  plain_reply 400 (by decide) (ascii "Bad Request") date (ascii "GET") hdate

namespace Connection

/-- A step after which a client can read what it has written. -/
def Presentable {Data : Type} (self : Connection) : Act Data → Prop
  | .data_received date _ => OneLine date
  | .dispatched date calls => OneLine date ∧ ∀ r, self.worker = .handling r →
    ∀ dj_resp folded, calls.Reaches dj_resp →
      fold_response calls r.keep_alive (.response dj_resp) = .ok folded →
        ∃ reply, Presents date r folded reply
  | _ => True

/-- What an op put on the wire, and what was done behind it: a response is a reply to
its request, the answer to malformed input is a `400`, and behind either the transport
is closed at once if the connection does not stay open. -/
def Told (replied : Request → response.Reply → Prop) (self : Connection) (after : List Op) :
    Op → Prop
  | .response k raw => ∃ r reply, self.enqueued[k]? = some r ∧ replied r reply ∧
    reply.wire = some raw ∧ (reply.keep_alive = false → after.head? = some .close)
  | .bad_request _ raw => (∃ date, ∃ hdate : OneLine date, (refusal date hdate).wire = some raw) ∧
    after.head? = some .close
  | _ => True

/-- All that was written on a connection is told. -/
def Transcript (replied : Request → response.Reply → Prop) (self : Connection) : Prop :=
  ∀ before op after, self.ops = before ++ op :: after → self.Told replied after op

variable {draining : Bool} {self next : Connection} {replied more : Request → response.Reply → Prop}

theorem getElem?_of_prefix {requests later : List Request} (hearlier : requests <+: later) {k : Nat}
    {r : Request} (hr : requests[k]? = some r) : later[k]? = some r := by
  obtain ⟨rest, rfl⟩ := hearlier
  exact (List.getElem?_append_left (List.getElem?_eq_some_iff.mp hr).1).trans hr

/-- The request that the worker handles is in its place in the stream. -/
theorem Sound.enqueued_index (hsound : self.Sound draining) {r : Request}
    (hworker : self.worker = .handling r) : self.enqueued[r.index]? = some r := by
  have hat := hsound.worker
  rw [hworker] at hat
  obtain ⟨-, -, earlier, hdispatched, -⟩ := hat
  rw [hsound.books.order, hdispatched, hsound.books.index_eq hdispatched]
  simp

theorem Told.mono {after tail : List Op} {op : Op} (htold : self.Told replied after op)
    (hreplied : ∀ r reply, replied r reply → more r reply)
    (henqueued : self.enqueued <+: next.enqueued) : next.Told more (after ++ tail) op := by
  have hclose : after.head? = some Op.close → (after ++ tail).head? = some Op.close := by
    intro hhead
    rw [List.head?_append, hhead, Option.some_or]
  cases op with
  | response k raw =>
    obtain ⟨r, reply, hr, hsaid, hwire, hkept⟩ := htold
    exact ⟨r, reply, getElem?_of_prefix henqueued hr, hreplied r reply hsaid, hwire,
      fun h => hclose (hkept h)⟩
  | bad_request k raw => exact ⟨htold.1, hclose htold.2⟩
  | _ => trivial

/-- A transcript goes on with what is told of the new ops. -/
theorem Transcript.append (htranscript : self.Transcript replied)
    (hreplied : ∀ r reply, replied r reply → more r reply)
    (henqueued : self.enqueued <+: next.enqueued) {tail : List Op}
    (hops : next.ops = self.ops ++ tail)
    (htail : ∀ before op after, tail = before ++ op :: after → next.Told more after op) :
    next.Transcript more := by
  intro before op after hsplit
  rw [hops] at hsplit
  obtain ⟨middle, hbefore, htail_eq⟩ | ⟨middle, hself, hlater⟩ := List.append_eq_append_iff.mp hsplit
  · exact htail middle op after htail_eq
  · cases middle with
    | nil =>
      rw [List.nil_append] at hlater
      exact htail [] op after hlater.symm
    | cons first rest =>
      obtain ⟨rfl, rfl⟩ := List.cons.inj hlater
      exact (htranscript before op rest hself).mono hreplied henqueued

theorem told_of_no_answer {op : Op} (hnone : op.answers = none) (after : List Op) :
    self.Told replied after op := by
  cases op with
  | response k raw => cases hnone
  | bad_request k raw => cases hnone
  | _ => trivial

/-- Ops that put no final response on the wire need no telling. -/
theorem Transcript.append_quiet (htranscript : self.Transcript replied)
    (hreplied : ∀ r reply, replied r reply → more r reply)
    (henqueued : self.enqueued <+: next.enqueued) {tail : List Op}
    (hops : next.ops = self.ops ++ tail) (hquiet : ∀ op ∈ tail, op.answers = none) :
    next.Transcript more := by
  refine htranscript.append hreplied henqueued hops fun before op after hsplit => ?_
  exact told_of_no_answer (hquiet op (by simp [hsplit])) after

/-- A final response is told with what comes right behind it. -/
theorem Transcript.append_final (htranscript : self.Transcript replied)
    (hreplied : ∀ r reply, replied r reply → more r reply)
    (henqueued : self.enqueued <+: next.enqueued) {final : Op} {tail : List Op}
    (hops : next.ops = self.ops ++ final :: tail) (htold : next.Told more tail final)
    (hquiet : ∀ op ∈ tail, op.answers = none) : next.Transcript more := by
  refine htranscript.append hreplied henqueued hops fun before op after hsplit => ?_
  cases before with
  | nil =>
    obtain ⟨rfl, rfl⟩ := List.cons.inj hsplit
    exact htold
  | cons first rest =>
    obtain ⟨-, htail⟩ := List.cons.inj hsplit
    exact told_of_no_answer (hquiet op (by simp [htail])) after

theorem Silent.no_answer {tail : List Op} (hsilent : Silent tail) :
    ∀ op ∈ tail, op.answers = none := by
  obtain rfl | rfl := hsilent <;> simp [Op.answers]

/-- A step that a client can read goes on with the transcript. -/
theorem Transcript.act {Data : Type} {parse_url : ParseUrl} {handler : Handler} {act : Act Data}
    (hsound : self.Sound handler.draining) (htranscript : self.Transcript replied)
    (hpresentable : self.Presentable act) (hreplied : ∀ r reply, replied r reply → more r reply)
    (hanswers : ∀ date calls r reply, act = .dispatched date calls → self.worker = .handling r →
      Answers date calls r reply → more r reply)
    (hnext : self.act parse_url handler act = some next) : next.Transcript more := by
  have hgrows := grows_act hnext
  have hquiet : ∀ tail : List Op, next.ops = self.ops ++ tail →
      (∀ op ∈ tail, op.answers = none) → next.Transcript more :=
    fun tail => htranscript.append_quiet hreplied hgrows.enqueued
  cases act with
  | data_received date feed =>
    obtain ⟨hopen, rfl⟩ := act_data_received hnext
    obtain ⟨interim, tail, collector, taken, rs, hinterim, heq, -, hcases⟩ :=
      read_ready_cases parse_url date feed hopen
    have hcontinues : ∀ op ∈ interim, op.answers = none := by
      intro op hop
      obtain ⟨request, rfl⟩ := hinterim op hop
      rfl
    obtain ⟨rfl, -⟩ | ⟨rfl, -⟩ | ⟨rfl, -⟩ := hcases
    · exact hquiet interim (by simp [heq]) hcontinues
    · refine hquiet (interim ++ [.abort]) (by simp [heq]) ?_
      simp only [List.forall_mem_append, List.forall_mem_singleton]
      exact ⟨hcontinues, rfl⟩
    · have hwaited : Transcript more { self with ops := self.ops ++ interim } :=
        htranscript.append_quiet hreplied List.prefix_rfl rfl hcontinues
      refine hwaited.append_final (fun _ _ h => h) hgrows.enqueued (by rw [heq]) ?_
        (by simp [Op.answers])
      exact ⟨⟨date, hpresentable, rfl⟩, rfl⟩
  | transport_closed =>
    obtain ⟨-, rfl⟩ := act_transport_closed hnext
    exact hquiet [.abort] rfl (by simp [Op.answers])
  | connection_lost =>
    obtain ⟨-, rfl⟩ := act_connection_lost hnext
    exact hquiet [] (List.append_nil _).symm (by simp)
  | worker =>
    obtain ⟨tail, hsilent, hworks⟩ := works_run_worker hnext
    exact hquiet tail hworks.ops hsilent.no_answer
  | waker => exact hquiet [] (works_run_waker hnext).ops (by simp)
  | dispatched date calls =>
    obtain ⟨tail, hsilent, hops, -⟩ | ⟨r, raw, stays, tail, hopen, hworker, hanswer, hsilent, hops,
      hclose⟩ := ops_finish_dispatch hnext
    · exact hquiet tail hops hsilent.no_answer
    · obtain ⟨hdate, hpresents⟩ := hpresentable
      obtain ⟨reply, hreply, hwire, hkeep_alive⟩ := answer_is_reply hdate (hpresents r hworker) hanswer
      refine htranscript.append_final hreplied hgrows.enqueued hops ?_ hsilent.no_answer
      refine ⟨r, reply, ?_, hanswers date calls r reply rfl hworker hreply, hwire, fun hleaves => ?_⟩
      · exact getElem?_of_prefix hgrows.enqueued (hsound.enqueued_index hworker)
      · rw [hclose (hkeep_alive.symm.trans hleaves)]
        rfl

/-- Nothing is written behind a close. -/
theorem quiet_of_close {ops : List Op} (hclose : ops.head? = some .close)
    (hquiet : ops.Pairwise fun earlier later => later.is_write = true → earlier.is_write = true) :
    ∀ op ∈ ops, op.is_write = false := by
  cases ops with
  | nil => simp
  | cons first rest =>
    obtain rfl : first = .close := by simpa using hclose
    have hbehind := (List.pairwise_cons.mp hquiet).1
    rw [List.forall_mem_cons]
    refine ⟨rfl, fun op hop => Bool.eq_false_iff.mpr fun hwrite => ?_⟩
    exact absurd (hbehind op hop hwrite) (by simp [Op.is_write])

theorem bytes_of_not_write {ops : List Op} (hquiet : ∀ op ∈ ops, op.is_write = false) :
    ops.flatMap Op.bytes = [] ∧ ops.filterMap Op.responds = [] ∧
      ops.any Op.is_bad_request = false := by
  have hsilent : ∀ op ∈ ops, op.bytes = [] ∧ op.responds = none ∧ op.is_bad_request = false := by
    intro op hop
    have hnot := hquiet op hop
    cases op with
    | close => exact ⟨rfl, rfl, rfl⟩
    | abort => exact ⟨rfl, rfl, rfl⟩
    | _ => cases hnot
  refine ⟨List.flatMap_eq_nil_iff.mpr fun op hop => (hsilent op hop).1,
    List.filterMap_eq_nil_iff.mpr fun op hop => (hsilent op hop).2.1,
    List.any_eq_false.mpr fun op hop => ?_⟩
  rw [(hsilent op hop).2.2]
  exact Bool.false_ne_true

theorem continue_readable (rest : Bytes) : (http.Piece.interim continue_line).Readable rest := by
  have hstart : http.parse_status (ascii "HTTP/1.1 100 Continue") = some 100 := by decide
  have hunbroken : ∀ line ∈ [ascii "HTTP/1.1 100 Continue"], http.Unbroken line := by
    simp only [List.forall_mem_singleton, http.Unbroken]
    decide
  have hline : http.block [ascii "HTTP/1.1 100 Continue"] ++ http.crlf = continue_line := by decide
  rw [← hline]
  exact http.readable_interim hunbroken hstart (by decide) rest

/-- What a list of ops put on the wire, cut into interim responses and the replies told
of them, with the answer to malformed input behind these. -/
structure Pieces (replied : Request → response.Reply → Prop) (conn : Connection) (ops : List Op)
    (pieces : List http.Piece) (replies : List response.Reply) (refused : Option response.Reply) :
    Prop where
  wire : pieces.flatMap http.Piece.wire = ops.flatMap Op.bytes
  few : pieces.length ≤ ops.length
  spelled : http.Spelled pieces
  interim : ∀ wire ∈ pieces.filterMap http.Piece.interim?, wire = continue_line
  finals : pieces.filterMap http.Piece.writing? =
    (replies ++ refused.toList).map response.Reply.writing
  answered : List.Forall₂ (fun k reply => ∃ r, conn.enqueued[k]? = some r ∧ replied r reply)
    (ops.filterMap Op.responds) replies
  refused_iff : refused.isSome = ops.any Op.is_bad_request
  refused_eq : ∀ reply ∈ refused, ∃ date, ∃ hdate : OneLine date, reply = refusal date hdate

theorem pieces_nil : Pieces replied self [] [] [] none :=
  ⟨rfl, Nat.le_refl _, trivial, by simp, rfl, .nil, rfl, by simp⟩

/-- An op that writes nothing changes nothing in the pieces. -/
theorem Pieces.cons_silent {ops : List Op} {pieces : List http.Piece}
    {replies : List response.Reply} {refused : Option response.Reply}
    (hpieces : Pieces replied self ops pieces replies refused) {op : Op}
    (hsilent : op.is_write = false) : Pieces replied self (op :: ops) pieces replies refused := by
  obtain ⟨hwire, hfew, hspelled, hinterim, hfinals, hanswered, hrefused, hrefusal⟩ := hpieces
  have hnone : ∀ other ∈ [op], other.is_write = false := List.forall_mem_singleton.mpr hsilent
  obtain ⟨hbytes, hresponds, hno_refusal⟩ := bytes_of_not_write hnone
  refine ⟨?_, ?_, hspelled, hinterim, hfinals, ?_, ?_, hrefusal⟩
  · rw [← List.singleton_append, List.flatMap_append, hbytes, hwire, List.nil_append]
  · rw [List.length_cons]
    omega
  · rwa [← List.singleton_append, List.filterMap_append, hresponds, List.nil_append]
  · rw [hrefused, ← List.singleton_append, List.any_append, hno_refusal, Bool.false_or]

theorem Pieces.cons_continue {ops : List Op} {pieces : List http.Piece}
    {replies : List response.Reply} {refused : Option response.Reply}
    (hpieces : Pieces replied self ops pieces replies refused) (k : Nat) :
    Pieces replied self (.continue_100 k :: ops) (.interim continue_line :: pieces) replies
      refused := by
  obtain ⟨hwire, hfew, hspelled, hinterim, hfinals, hanswered, hrefused, hrefusal⟩ := hpieces
  refine ⟨?_, Nat.succ_le_succ hfew, ⟨continue_readable _, hspelled⟩, ?_, hfinals, hanswered, hrefused,
    hrefusal⟩
  · simp [http.Piece.wire, Op.bytes, hwire]
  · intro wire hmem
    obtain rfl | hmem := List.mem_cons.mp hmem
    · rfl
    · exact hinterim wire hmem

theorem Pieces.cons_response {ops : List Op} {pieces : List http.Piece}
    {replies : List response.Reply} {refused : Option response.Reply}
    (hpieces : Pieces replied self ops pieces replies refused) {k : Nat} {raw : Bytes} {r : Request}
    {reply : response.Reply} (hr : self.enqueued[k]? = some r) (hreplied : replied r reply)
    (hraw : reply.wire = some raw) (hwhole : reply.Whole) (hfinal : 200 ≤ reply.status)
    (hdelimited : reply.Delimited (ops.flatMap Op.bytes = [])) :
    Pieces replied self (.response k raw :: ops) (.final reply.writing :: pieces)
      (reply :: replies) refused := by
  obtain ⟨hwire, hfew, hspelled, hinterim, hfinals, hanswered, hrefused, hrefusal⟩ := hpieces
  have hwriting : reply.writing.wire = raw := by rw [response.Reply.writing, hraw, Option.getD_some]
  rw [← hwire] at hdelimited
  refine ⟨?_, Nat.succ_le_succ hfew, ⟨response.Reply.readable hwhole hfinal hdelimited, hspelled⟩, hinterim, ?_,
    .cons ⟨r, hr, hreplied⟩ hanswered, hrefused, hrefusal⟩
  · simp [http.Piece.wire, Op.bytes, hwire, hwriting]
  · simp only [List.filterMap_cons, http.Piece.writing?, hfinals, List.cons_append, List.map_cons]

/-- Nothing but the close is behind the answer to malformed input. -/
theorem Pieces.cons_bad_request {ops : List Op} {pieces : List http.Piece}
    {replies : List response.Reply} {refused : Option response.Reply}
    (hpieces : Pieces replied self ops pieces replies refused)
    (hquiet : ∀ op ∈ ops, op.is_write = false) {k : Nat} {raw date : Bytes}
    {hdate : OneLine date} (hraw : (refusal date hdate).wire = some raw) :
    Pieces replied self (.bad_request k raw :: ops) (.final (refusal date hdate).writing :: pieces)
      [] (some (refusal date hdate)) := by
  obtain ⟨hwire, hfew, hspelled, hinterim, hfinals, hanswered, hrefused, -⟩ := hpieces
  obtain ⟨-, hresponds, hno_refusal⟩ := bytes_of_not_write hquiet
  rw [hresponds] at hanswered
  obtain rfl := List.forall₂_nil_left_iff.mp hanswered
  rw [hno_refusal, Option.isSome_eq_false_iff, Option.isNone_iff_eq_none] at hrefused
  subst hrefused
  have hwriting : (refusal date hdate).writing.wire = raw := by
    rw [response.Reply.writing, hraw, Option.getD_some]
  have hfinal : 200 ≤ (refusal date hdate).status := show (200 : Int) ≤ 400 by decide
  refine ⟨?_, Nat.succ_le_succ hfew, ⟨?_, hspelled⟩, hinterim, ?_, ?_, rfl, ?_⟩
  · simp [http.Piece.wire, Op.bytes, hwire, hwriting]
  · exact response.Reply.readable (plain_reply_whole _ _ _ hdate) hfinal
      (response.Reply.delimited_of_no_headers rfl hfinal _)
  · simp only [List.filterMap_cons, http.Piece.writing?, hfinals, Option.toList_none,
      Option.toList_some, List.append_nil, List.nil_append, List.map_cons, List.map_nil]
  · have hnone : (Op.bad_request k raw).responds = none := rfl
    rw [List.filterMap_cons_none hnone, hresponds]
    exact .nil
  · rintro reply hreply
    exact ⟨date, hdate, (Option.some.inj hreply).symm⟩

/-- Ops of which everything is told go on the wire as replies and interim responses. -/
theorem exists_pieces {ops : List Op}
    (htold : ∀ before op after, ops = before ++ op :: after → self.Told replied after op)
    (hreplied : ∀ r reply, replied r reply → reply.Whole ∧ 200 ≤ reply.status ∧
      reply.Delimited (reply.keep_alive = false))
    (hquiet : ops.Pairwise fun earlier later => later.is_write = true → earlier.is_write = true) :
    ∃ pieces replies refused, Pieces replied self ops pieces replies refused := by
  induction ops with
  | nil => exact ⟨[], [], none, pieces_nil⟩
  | cons op later ih =>
    obtain ⟨-, hlater_quiet⟩ := List.pairwise_cons.mp hquiet
    obtain ⟨pieces, replies, refused, hpieces⟩ := ih
      (fun before op after hsplit => htold _ op after (by rw [hsplit, ← List.cons_append]))
      hlater_quiet
    have hop := htold [] op later rfl
    cases op with
    | continue_100 k => exact ⟨_, replies, refused, hpieces.cons_continue k⟩
    | response k raw =>
      obtain ⟨r, reply, hr, hreply, hwire, hclose⟩ := hop
      obtain ⟨hwhole, hfinal, hdelimited⟩ := hreplied r reply hreply
      refine ⟨_, _, refused, hpieces.cons_response hr hreply hwire hwhole hfinal
        (hdelimited.imp fun hleaves => ?_)⟩
      exact (bytes_of_not_write (quiet_of_close (hclose hleaves) hlater_quiet)).1
    | bad_request k raw =>
      obtain ⟨⟨date, hdate, hwire⟩, hclose⟩ := hop
      exact ⟨_, [], _, hpieces.cons_bad_request (quiet_of_close hclose hlater_quiet) hwire⟩
    | _ => exact ⟨pieces, replies, refused, hpieces.cons_silent rfl⟩

end Connection

namespace Server

variable {Data : Type} {parse_url : ParseUrl} {s : Server} {c : Nat}

/-- A step after which a client can read what the connection has written. -/
def Presentable (s : Server) (c : Nat) : Action Data → Prop
  | .connection d act => ∀ conn ∈ s.conns[d]?, d = c → conn.Presentable act
  | _ => True

/-- A `dispatch` of the run was for the request, and ended in the reply. -/
def Replied (steps : List (Server × Action Data)) (c : Nat) (r : Request)
    (reply : response.Reply) : Prop :=
  ∃ before date calls, (before, .connection c (.dispatched date calls)) ∈ steps ∧
    (∃ conn, before.conns[c]? = some conn ∧ conn.worker = .handling r) ∧
    Answers date calls r reply

theorem Replied.mono {steps : List (Server × Action Data)} (later : List (Server × Action Data))
    {r : Request} {reply : response.Reply} (hreplied : Replied steps c r reply) :
    Replied (steps ++ later) c r reply := by
  obtain ⟨before, date, calls, hmem, hanswers⟩ := hreplied
  exact ⟨before, date, calls, List.mem_append_left later hmem, hanswers⟩

/-- All that a run wrote on a connection is told of its steps. -/
theorem transcript_run {steps : List (Server × Action Data)}
    (hrun : (server Data parse_url).Run steps s)
    (hpresentable : ∀ taken ∈ steps, taken.1.Presentable c taken.2) {conn : Connection}
    (hconn : s.conns[c]? = some conn) : conn.Transcript (Replied steps c) := by
  refine hrun.invariant_steps
    (I := fun steps s => (∀ taken ∈ steps, taken.1.Presentable c taken.2) →
      ∀ conn, s.conns[c]? = some conn → conn.Transcript (Replied steps c))
    (by rintro s rfl - conn hconn; simp [new] at hconn) ?_ hpresentable conn hconn
  intro steps s a t hbefore htold hstep hpresentable next hnext
  simp only [List.forall_mem_append, List.forall_mem_singleton] at hpresentable
  have hmono : ∀ r reply, Replied steps c r reply → Replied (steps ++ [(s, a)]) c r reply :=
    fun _ _ hreplied => hreplied.mono [(s, a)]
  cases hconn : s.conns[c]? with
  | none =>
    obtain ⟨peer, sockname, rfl⟩ := (step_joined hstep hconn).2 next hnext
    intro before op after hsplit
    simp [Connection.connection_made, Connection.new] at hsplit
  | some conn =>
    have htranscript := htold hpresentable.1 conn hconn
    obtain ⟨now, hnow, hcases⟩ := step_at hstep hconn
    obtain rfl := Option.some.inj (hnow.symm.trans hnext)
    obtain ⟨act, rfl, hact⟩ | ⟨-, rfl | rfl⟩ := hcases
    · have hconn_sound := (sound_run hbefore).conns conn (List.mem_of_getElem? hconn)
      refine htranscript.act hconn_sound (hpresentable.2 conn hconn rfl) hmono ?_ hact
      rintro date calls r reply rfl hworker hanswers
      exact ⟨s, date, calls, by simp, ⟨conn, hconn, hworker⟩, hanswers⟩
    · exact htranscript.append_quiet hmono List.prefix_rfl (List.append_nil _).symm (by simp)
    · exact htranscript.append_quiet hmono List.prefix_rfl (List.append_nil _).symm (by simp)

/-- What a client gets of a reply: its octets, and the body they are meant to carry. -/
def message (reply : response.Reply) : http.Message := ⟨reply.writing.wire, reply.intended_body⟩

/-- What is told of a connection is what a client reads off it. -/
theorem reads_of_transcript {replied : Request → response.Reply → Prop} {conn : Connection}
    {draining : Bool} (hsound : conn.Sound draining) (htranscript : conn.Transcript replied)
    (hreplied : ∀ r reply, replied r reply → reply.Whole ∧ 200 ≤ reply.status ∧
      reply.Delimited (reply.keep_alive = false)) :
    ∃ (replies : List response.Reply) (refused : Option response.Reply) (n : Nat),
      List.Forall₂ (fun k reply => ∃ r, conn.enqueued[k]? = some r ∧ replied r reply)
        (List.range conn.responses.length) replies ∧
      refused.isSome = conn.answered_400 ∧
      (∀ reply ∈ refused, ∃ date, ∃ hdate : OneLine date, reply = refusal date hdate) ∧
      ∀ fuel, conn.ops.length < fuel →
        http.read_finals fuel ((replies ++ refused.toList).map response.Reply.is_head)
            (conn.ops.flatMap Op.bytes) =
          some ((replies ++ refused.toList).map message, (List.replicate n continue_line).flatten) := by
  have hwire := hsound.books.wire
  obtain ⟨pieces, replies, refused, hpieces⟩ :=
    Connection.exists_pieces htranscript hreplied hwire.quiet
  have hanswered := hpieces.answered
  rw [hwire.in_order] at hanswered
  obtain ⟨behind, hbehind, hread⟩ := http.read_finals_pieces hpieces.spelled
  have hcontinues : behind = List.replicate behind.length continue_line :=
    List.eq_replicate_of_mem fun wire hmem => hpieces.interim wire (hbehind.subset hmem)
  refine ⟨replies, refused, behind.length, hanswered, hpieces.refused_iff, hpieces.refused_eq, ?_⟩
  intro fuel hfuel
  have hmessages := hread fuel (Nat.lt_of_le_of_lt hpieces.few hfuel)
  rw [hpieces.wire, hpieces.finals, List.map_map, List.map_map, hcontinues] at hmessages
  exact hmessages

/-- A client that knows the methods of its requests and skips the interim responses reads
off the connection the reply to each of its first requests, in order and with its whole
body, then the answer to malformed input if there was any, and nothing else. -/
theorem client_reads_replies {steps : List (Server × Action Data)}
    (hrun : (server Data parse_url).Run steps s)
    (hpresentable : ∀ taken ∈ steps, taken.1.Presentable c taken.2) {conn : Connection}
    (hconn : s.conns[c]? = some conn) :
    ∃ (replies : List response.Reply) (refused : Option response.Reply) (n : Nat),
      List.Forall₂ (fun k reply => ∃ r, conn.enqueued[k]? = some r ∧ Replied steps c r reply)
        (List.range conn.responses.length) replies ∧
      refused.isSome = conn.answered_400 ∧
      (∀ reply ∈ refused, ∃ date, ∃ hdate : OneLine date, reply = refusal date hdate) ∧
      ∀ fuel, conn.ops.length < fuel →
        http.read_finals fuel ((replies ++ refused.toList).map response.Reply.is_head)
            (conn.ops.flatMap Op.bytes) =
          some ((replies ++ refused.toList).map message, (List.replicate n continue_line).flatten) := by
  refine reads_of_transcript ((sound_run hrun).conns conn (List.mem_of_getElem? hconn))
    (transcript_run hrun hpresentable hconn) ?_
  rintro _ _ ⟨_, _, _, -, -, hanswers⟩
  exact ⟨hanswers.whole, hanswers.final, hanswers.delimited⟩

/-- The reply to a request that a view answers with an empty `JsonResponse`. -/
def json_reply (keep_alive : Bool) (method : Bytes) : response.Reply where
  writer := .to_bytes ⟨200, .empty, ["sid=1"], [], ascii "application/json", [], true⟩
  date := ascii "now"
  keep_alive := keep_alive
  method := method
  status_admitted := by decide
  headers_admitted := by decide
  headers_stripped := by decide
  content_type_whole := by decide
  date_whole := by decide

theorem json_reply_whole (keep_alive : Bool) (method : Bytes) :
    (json_reply keep_alive method).Whole :=
  ⟨show OneLine [] by decide, show ∀ cookie ∈ ["sid=1"], response.FieldText 256 cookie by decide⟩

theorem client_reads_replies_served : ∃ steps s conn,
    (server Unit fun url => .ok ⟨some url, none⟩).trace new served = some (steps, s) ∧
      s.conns[0]? = some conn ∧
      ∃ (replies : List response.Reply) (refused : Option response.Reply) (n : Nat),
        replies.length = 1 ∧ refused = none ∧ ∀ fuel, conn.ops.length < fuel →
          http.read_finals fuel ((replies ++ refused.toList).map response.Reply.is_head)
              (conn.ops.flatMap Op.bytes) =
            some ((replies ++ refused.toList).map message,
              (List.replicate n continue_line).flatten) := by
  have hruns : ((server Unit fun url => .ok ⟨some url, none⟩).trace new served).any (fun reached =>
      reached.2.conns[0]?.any fun conn =>
        decide (conn.responses.length = 1 ∧ conn.answered_400 = false)) = true := by
    decide +kernel
  obtain ⟨⟨steps, s⟩, htrace, hconns⟩ := (Option.any_eq_true _ _).mp hruns
  obtain ⟨conn, hconn, hdone⟩ := (Option.any_eq_true _ _).mp hconns
  obtain ⟨hone, hunrefused⟩ := of_decide_eq_true hdone
  have hpresentable : ∀ taken ∈ steps, taken.1.Presentable 0 taken.2 := by
    intro taken htaken
    have haction := List.mem_map_of_mem (f := Prod.snd) htaken
    rw [Machine.trace_actions htrace] at haction
    obtain ⟨before, a⟩ := taken
    simp only [served, List.mem_cons, List.not_mem_nil, or_false] at haction
    obtain rfl | rfl | rfl | rfl | rfl := haction
    · trivial
    · exact fun _ _ _ => trivial
    · exact fun _ _ _ => show OneLine (ascii "now") by decide
    · exact fun _ _ _ => trivial
    · refine fun conn _ _ => ⟨by decide, fun r _ dj_resp folded hreaches hfolded => ?_⟩
      obtain rfl := hreaches.unique (Or.inl ⟨rfl, _, rfl, rfl, fun _ => rfl⟩)
      obtain rfl := Except.ok.inj hfolded
      have hfinal : 200 ≤ (json_reply r.keep_alive r.core.method).status :=
        show (200 : Int) ≤ 200 by decide
      exact ⟨json_reply r.keep_alive r.core.method, rfl, rfl, rfl, rfl, json_reply_whole _ _, hfinal,
        response.Reply.delimited_of_no_headers rfl hfinal _⟩
  obtain ⟨replies, refused, n, hanswered, hrefused, -, hread⟩ := client_reads_replies
    (Machine.run_of_trace served rfl htrace) hpresentable hconn
  refine ⟨steps, s, conn, htrace, hconn, replies, refused, n, ?_, ?_, hread⟩
  · rw [← hanswered.length_eq, List.length_range, hone]
  · simpa [hunrefused] using hrefused

end Server

end massless.protocol
