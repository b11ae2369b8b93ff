import Massless.Http.Client
import Massless.Protocol.Runs
import Massless.Protocol.Teardown

open python
open transition

namespace massless.protocol

/-- A response that the client reads as an interim one, by the status of its first line. -/
def is_interim (raw : Bytes) : Bool :=
  (http.parse_status raw).any fun status => 100 ≤ status ∧ status < 200

/-- The request that a final response answers. -/
def Op.finishes : Op → Option Nat
  | .response request raw => if is_interim raw then none else some request
  | .bad_request request _ => some request
  | _ => none

/-- What a view answered with a 1xx status: its request gets no other response. -/
def Op.is_unfinished : Op → Bool
  | .response _ raw => is_interim raw
  | _ => false

namespace Connection

/-- The requests that the final responses answer, in the order they were written. -/
def finals (self : Connection) : List Nat := self.ops.filterMap Op.finishes

/-- A view answered a request with a 1xx status. -/
def answered_1xx (self : Connection) : Bool := self.ops.any Op.is_unfinished

/-- The final responses are those to the first requests of the stream, one each and in
order, with a 400 behind all of them, and nothing is written behind a close. -/
def Ordered (self : Connection) : Prop :=
  self.finals = List.range self.finals.length ∧
    self.ops.Pairwise fun earlier later => later.is_write = true → earlier.is_write = true

/-- A segment meets a connection with nothing to answer: it completes no message, no
request waits on the queue, and the worker handles none and was not cancelled. -/
def NothingToAnswer (self : Connection) (feed : Feed) : Prop :=
  (feed.callbacks.foldl receive self).collector.requests = [] ∧ self.pending = [] ∧
    (∀ r, self.worker ≠ .handling r) ∧ self.worker ≠ .exited .cancelled

/-- The end of a `dispatch` puts a final response on the wire. -/
def Finishes (date : Bytes) (outcome : Request → Except Exc (Bytes × Bool)) (self : Connection) :
    Prop :=
  ∃ r raw stays, self.worker = .handling r ∧ self.is_open = true ∧
    answer date r (outcome r) = some (raw, stays) ∧ is_interim raw = false

/-- Malformed input only meets a connection with nothing to answer, and neither the 400
nor a response of the worker is the final one behind a 1xx that a view answered. -/
def AnsweredBefore {Data : Type} (self : Connection) : Act Data → Prop
  | .data_received _ feed =>
    feed.malformed = true → self.NothingToAnswer feed ∧ self.answered_1xx = false
  | .dispatched date calls =>
    self.Finishes date (fun r => (dispatch calls date r.keep_alive r.core.method ⟨[], []⟩).1) →
      self.answered_1xx = false
  | _ => True

variable {draining : Bool} {self next : Connection}

/-- Without a 400, what a response of the worker lacks to be a final one is its status. -/
theorem finishes_length {ops : List Op} (hrefused : ops.any Op.is_bad_request = false) :
    (ops.filterMap Op.finishes).Sublist (ops.filterMap Op.responds) ∧
      ((ops.filterMap Op.finishes).length = (ops.filterMap Op.responds).length ↔
        ops.any Op.is_unfinished = false) := by
  induction ops with
  | nil => exact ⟨List.Sublist.refl _, by simp⟩
  | cons op rest ih =>
    rw [List.any_cons, Bool.or_eq_false_iff] at hrefused
    obtain ⟨hsublist, hlength⟩ := ih hrefused.2
    have hle := hsublist.length_le
    rw [List.any_cons, List.filterMap_cons, List.filterMap_cons]
    cases op with
    | bad_request request raw => cases hrefused.1
    | response request raw =>
      cases hinterim : is_interim raw with
      | false =>
        simp only [Op.finishes, Op.responds, Op.is_unfinished, hinterim, Bool.false_eq_true,
          if_false, Bool.false_or, List.length_cons, Nat.add_right_cancel_iff]
        exact ⟨hsublist.cons_cons request, hlength⟩
      | true =>
        simp only [Op.finishes, Op.responds, Op.is_unfinished, hinterim, if_true, Bool.true_or,
          List.length_cons, reduceCtorEq, iff_false]
        exact ⟨hsublist.cons request, by omega⟩
    | _ => exact ⟨hsublist, hlength⟩

theorem finals_sublist (hrefused : self.answered_400 = false) :
    self.finals.Sublist self.responses :=
  (finishes_length hrefused).1

/-- Without a 400 every response is a final one exactly when no view answered a 1xx. -/
theorem finals_length_iff (hrefused : self.answered_400 = false) :
    self.finals.length = self.responses.length ↔ self.answered_1xx = false :=
  (finishes_length hrefused).2

theorem finals_append {tail : List Op} (hops : next.ops = self.ops ++ tail) :
    next.finals = self.finals ++ tail.filterMap Op.finishes := by
  rw [finals, hops, List.filterMap_append, finals]

theorem Silent.finishes {tail : List Op} (hsilent : Silent tail) :
    tail.filterMap Op.finishes = [] := by
  obtain rfl | rfl := hsilent <;> rfl

/-- The worker answers nothing while it handles no request. -/
theorem finals_run_worker (hnext : self.run_worker draining = some next) :
    next.finals = self.finals := by
  obtain ⟨tail, hsilent, hworks⟩ := works_run_worker hnext
  rw [finals_append hworks.ops, hsilent.finishes, List.append_nil]

theorem finals_run_waker {event_set : Bool} (hnext : self.run_waker event_set = some next) :
    next.finals = self.finals := by
  rw [finals_append (works_run_waker hnext).ops, List.filterMap_nil, List.append_nil]

/-- What the end of a `dispatch` does to an open transport: the response is written, and
the close comes right behind it if the connection does not stay open. -/
theorem ops_finish_dispatch {date : Bytes} {outcome : Request → Except Exc (Bytes × Bool)}
    (hnext : self.finish_dispatch draining date outcome = some next) :
    (∃ tail, Silent tail ∧ next.ops = self.ops ++ tail ∧ ∀ r, self.worker = .handling r →
        self.is_open = true → answer date r (outcome r) = none) ∨
      ∃ r raw stays tail, self.is_open = true ∧ self.worker = .handling r ∧
        answer date r (outcome r) = some (raw, stays) ∧ Silent tail ∧
        next.ops = self.ops ++ .response r.index raw :: tail ∧
        (stays = false → tail = [.close]) := by
  unfold finish_dispatch at hnext
  split at hnext
  · rename_i r hworker
    split at hnext <;> obtain rfl := Option.some.inj hnext
    · rename_i raw stays hanswer
      unfold respond
      split
      · rename_i hopen
        right
        cases stays with
        | true =>
          obtain ⟨tail, hsilent, hworks⟩ := works_loop_top draining
            (self.push (.response r.index raw))
          refine ⟨r, raw, true, tail, hopen, hworker, hanswer, hsilent, ?_, by simp⟩
          rw [if_pos rfl, hworks.ops]
          simp [push]
        | false =>
          refine ⟨r, raw, false, [.close], hopen, hworker, hanswer, Or.inr rfl, ?_, fun _ => rfl⟩
          have hstill : (self.push (.response r.index raw)).is_open = true := by
            simpa [is_open, is_closing, push] using hopen
          rw [if_neg (by simp), close_transport, if_pos hstill]
          simp [leave, push]
      · left
        obtain ⟨tail, hsilent, hworks⟩ := works_loop_top draining self
        exact ⟨tail, hsilent, hworks.ops, fun _ _ hopen => absurd hopen ‹_›⟩
    · rename_i hnone
      refine Or.inl ⟨[], Or.inl rfl, by simp [leave], fun handled hhandled _ => ?_⟩
      rw [hworker, Worker.handling.injEq] at hhandled
      rw [← hhandled]
      exact hnone
  · cases hnext

/-- The worker writes the response to the request it handles, on an open transport. -/
theorem finals_finish_dispatch (hsound : self.Sound draining) {date : Bytes}
    {outcome : Request → Except Exc (Bytes × Bool)}
    (hnext : self.finish_dispatch draining date outcome = some next) :
    (¬self.Finishes date outcome ∧ next.finals = self.finals) ∨
      (self.Finishes date outcome ∧ self.is_open = true ∧
        next.finals = self.finals ++ [self.responses.length]) := by
  obtain ⟨tail, hsilent, hops, hnone⟩ | ⟨r, raw, stays, tail, hopen, hworker, hanswer, hsilent, hops,
    -⟩ := ops_finish_dispatch hnext
  · left
    constructor
    · rintro ⟨r, raw, stays, hworker, hopen, hanswer, -⟩
      rw [hnone r hworker hopen] at hanswer
      cases hanswer
    · rw [finals_append hops, hsilent.finishes, List.append_nil]
  · have hindex := (hsound.index_eq hopen hworker).1
    cases hinterim : is_interim raw with
    | true =>
      left
      constructor
      · rintro ⟨r', raw', stays', hworker', -, hanswer', hfinal⟩
        obtain rfl : r' = r := Worker.handling.inj (hworker'.symm.trans hworker)
        rw [hanswer, Option.some.injEq, Prod.mk.injEq] at hanswer'
        rw [← hanswer'.1, hinterim] at hfinal
        cases hfinal
      · rw [finals_append hops, List.filterMap_cons, Op.finishes, hinterim, hsilent.finishes]
        exact List.append_nil _
    | false =>
      right
      refine ⟨⟨r, raw, stays, hworker, hopen, hanswer, hinterim⟩, hopen, ?_⟩
      rw [finals_append hops, List.filterMap_cons, Op.finishes, hinterim, hsilent.finishes, hindex]
      rfl

/-- A segment is answered when it is malformed, in the place behind every complete
request. -/
theorem finals_data_received (hopen : self.is_open = true) (parse_url : ParseUrl) (date : Bytes)
    (feed : Feed) : (self.read_ready parse_url date feed).finals =
      if feed.malformed then self.finals ++ [(feed.callbacks.foldl receive self).completed]
      else self.finals := by
  obtain ⟨interim, tail, collector, taken, rs, hinterim, heq, -, hcases⟩ :=
    read_ready_cases parse_url date feed hopen
  have hnone : interim.filterMap Op.finishes = [] := by
    refine List.filterMap_eq_nil_iff.mpr fun op hop => ?_
    obtain ⟨request, rfl⟩ := hinterim op hop
    rfl
  rw [heq, finals, List.filterMap_append, List.filterMap_append, hnone, List.append_nil]
  obtain ⟨rfl, -, hcalm⟩ | ⟨rfl, hcalm⟩ | ⟨rfl, hmalformed⟩ := hcases
  · simp [hcalm, finals]
  · simp [hcalm, finals, Op.finishes]
  · simp [hmalformed, finals, Op.finishes]

/-- The worker of an undisturbed connection has answered all that it dispatched, but
for the request that it handles or was cancelled over. -/
theorem answered_iff (hsound : self.Sound draining) (hundisturbed : self.Undisturbed) :
    self.responses.length ≤ self.dispatched.length ∧
      (self.responses.length = self.dispatched.length ↔
        (∀ r, self.worker ≠ .handling r) ∧ self.worker ≠ .exited .cancelled) := by
  rw [responses_eq_handled hsound hundisturbed]
  have hat := hsound.worker
  cases hworker : self.worker with
  | handling r =>
    rw [hworker] at hat
    obtain ⟨-, -, earlier, hdispatched, -⟩ := hat
    simp [handled, hworker, hdispatched]
  | exited exit =>
    rw [hworker] at hat
    cases exit with
    | cancelled =>
      obtain ⟨earlier, r, hdispatched, -⟩ := hat hundisturbed
      simp [handled, hworker, hdispatched]
    | _ => simp [handled, hworker]
  | _ => simp [handled, hworker]

/-- The complete requests of an open connection: those dispatched, those on the queue,
and those that a segment completes. -/
theorem completed_eq (hsound : self.Sound draining) (hopen : self.is_open = true)
    (callbacks : List Callback) : (callbacks.foldl receive self).completed =
      self.dispatched.length + self.pending.length +
        (callbacks.foldl receive self).collector.requests.length := by
  obtain ⟨interim, -, heq⟩ := foldl_receive callbacks self
  have henqueued := congrArg List.length hsound.books.order
  rw [List.length_append, ← hsound.books.taken hopen] at henqueued
  rw [← henqueued, completed, heq]

/-- Every complete request of an open connection has its final response exactly when
there is nothing to answer and no view answered a 1xx. -/
theorem completed_eq_iff (hsound : self.Sound draining) (hopen : self.is_open = true)
    (feed : Feed) : (feed.callbacks.foldl receive self).completed = self.finals.length ↔
      self.NothingToAnswer feed ∧ self.answered_1xx = false := by
  have hundisturbed := hsound.books.undisturbed hopen
  obtain ⟨hle, hanswered⟩ := answered_iff hsound hundisturbed
  have hfewer := (finals_sublist hundisturbed.2.2).length_le
  rw [completed_eq hsound hopen, NothingToAnswer, ← finals_length_iff hundisturbed.2.2,
    ← hanswered, ← List.length_eq_zero_iff, ← List.length_eq_zero_iff (l := self.pending)]
  omega

/-- No more responses are written than requests are complete. -/
theorem responses_le_completed (hsound : self.Sound draining) (hopen : self.is_open = true)
    (callbacks : List Callback) :
    self.responses.length ≤ (callbacks.foldl receive self).completed := by
  have hle := (answered_iff hsound (hsound.books.undisturbed hopen)).1
  rw [completed_eq hsound hopen]
  omega

/-- One more entry keeps a list of places complete exactly when it is the next one. -/
theorem append_eq_range_iff (places : List Nat) (k : Nat) :
    places ++ [k] = List.range (places ++ [k]).length ↔
      places = List.range places.length ∧ k = places.length := by
  rw [List.length_append, List.length_singleton, List.range_succ]
  constructor
  · intro happended
    obtain ⟨hplaces, hlast⟩ := List.append_inj' happended rfl
    exact ⟨hplaces, List.singleton_inj.mp hlast⟩
  · rintro ⟨hplaces, rfl⟩
    rw [← hplaces]

/-- A step keeps the order exactly when it writes no final response over the head of a
complete request. -/
theorem ordered_act_iff {Data : Type} {parse_url : ParseUrl} {handler : Handler}
    (hsound : self.Sound handler.draining)
    (hevent : handler.drain_event = some true → handler.draining = true) {act : Act Data}
    (hnext : self.act parse_url handler act = some next) :
    next.Ordered ↔ self.Ordered ∧ self.AnsweredBefore act := by
  have hquiet := hsound.books.wire.quiet
  have hstill := (hsound.act hevent hnext).books.wire.quiet
  simp only [Ordered, hquiet, hstill, and_true]
  have hsame : next.finals = self.finals → self.AnsweredBefore act →
      (next.finals = List.range next.finals.length ↔
        self.finals = List.range self.finals.length ∧ self.AnsweredBefore act) := by
    intro hfinals hanswered
    rw [hfinals, and_iff_left hanswered]
  cases act with
  | data_received date feed =>
    obtain ⟨hopen, rfl⟩ := act_data_received hnext
    rw [finals_data_received hopen]
    cases hmalformed : feed.malformed with
    | false => simp [AnsweredBefore, hmalformed]
    | true =>
      simp only [if_true, AnsweredBefore, hmalformed, forall_const]
      rw [append_eq_range_iff, completed_eq_iff hsound hopen]
  | transport_closed =>
    obtain ⟨-, rfl⟩ := act_transport_closed hnext
    exact hsame (by simp [finals, push, Op.finishes]) trivial
  | connection_lost =>
    obtain ⟨-, rfl⟩ := act_connection_lost hnext
    exact hsame rfl trivial
  | worker => exact hsame (finals_run_worker hnext) trivial
  | waker => exact hsame (finals_run_waker hnext) trivial
  | dispatched date calls =>
    obtain ⟨hnot, hfinals⟩ | ⟨hfinishes, hopen, hfinals⟩ := finals_finish_dispatch hsound hnext
    · exact hsame hfinals fun hfinishes => absurd hfinishes hnot
    · rw [hfinals, append_eq_range_iff, AnsweredBefore, imp_iff_right hfinishes,
        ← finals_length_iff (hsound.books.undisturbed hopen).2.2, eq_comm (a := self.finals.length)]

end Connection

namespace Server

variable {Data : Type} {parse_url : ParseUrl}

/-- No step writes a final response on a connection while an earlier complete request
has none. -/
def AnsweredBefore (c : Nat) (s : Server) (a : Action Data) : Prop :=
  ∀ act conn, a = .connection c act → s.conns[c]? = some conn → conn.AnsweredBefore act

/-- What a step on a connection keeps exactly under a condition, a step of the server
keeps on each connection exactly under that condition. -/
theorem conn_step_iff {s t : Server} {P : Connection → Prop} {G : Connection → Act Data → Prop}
    {c : Nat} (hmade : ∀ peer sockname, P (.connection_made peer sockname))
    (hnoted : ∀ conn : Connection, P conn.note_drain ↔ P conn)
    (hact : ∀ conn next act, s.conns[c]? = some conn →
      conn.act parse_url s.handler act = some next → (P next ↔ P conn ∧ G conn act))
    {a : Action Data} (hstep : s.step parse_url a = some t) :
    (∀ conn, t.conns[c]? = some conn → P conn) ↔
      (∀ conn, s.conns[c]? = some conn → P conn) ∧
        ∀ act conn, a = .connection c act → s.conns[c]? = some conn → G conn act := by
  cases a with
  | connection_made peer sockname =>
    simp only [Server.step, Option.some.injEq] at hstep
    subst hstep
    simp only [reduceCtorEq, false_implies, implies_true, and_true]
    refine ⟨fun hkept conn hconn => ?_, fun hkept conn hconn => ?_⟩
    · have hbound := (List.getElem?_eq_some_iff.mp hconn).1
      exact hkept conn (by rwa [List.getElem?_append_left hbound])
    · obtain hbefore | rfl := getElem?_joined hconn
      · exact hkept conn hbefore
      · exact hmade peer sockname
  | connection d act =>
    obtain ⟨other, next, hother, hnext, rfl⟩ := step_connection hstep
    by_cases hsame : d = c
    · subst hsame
      have hiff := hact other next act hother hnext
      obtain ⟨hbound, rfl⟩ := List.getElem?_eq_some_iff.mp hother
      simpa [hbound] using hiff
    · simp [hsame]
  | stop =>
    obtain ⟨-, rfl⟩ := step_stop hstep
    simp [hnoted]
  | drain act =>
    rw [(drain_act_kept hstep).2.1]
    simp

/-- A step keeps the order on a connection exactly when it meets that condition. -/
theorem ordered_step_iff {s t : Server} (hsound : s.Sound) {a : Action Data}
    (hstep : s.step parse_url a = some t) (c : Nat) :
    (∀ conn, t.conns[c]? = some conn → conn.Ordered) ↔
      (∀ conn, s.conns[c]? = some conn → conn.Ordered) ∧ AnsweredBefore c s a :=
  conn_step_iff (fun _ _ => ⟨rfl, List.Pairwise.nil⟩) (fun _ => Iff.rfl)
    (fun conn _ _ hconn hnext => Connection.ordered_act_iff
      (hsound.conns conn (List.mem_of_getElem? hconn)) hsound.draining_of_event hnext) hstep

/-- The final responses on a connection are in request order after exactly the runs in
which each of them met a connection with every earlier complete request answered. -/
theorem ordered_iff_answered_before {steps : List (Server × Action Data)} {s : Server}
    (hrun : (server Data parse_url).Run steps s) (c : Nat) :
    (∀ conn, s.conns[c]? = some conn → conn.Ordered) ↔
      ∀ taken ∈ steps, AnsweredBefore c taken.1 taken.2 := by
  refine hrun.iff_forall_steps (P := fun s => ∀ conn, s.conns[c]? = some conn → conn.Ordered)
    (G := AnsweredBefore c) ?_ ?_
  · rintro s rfl conn hconn
    simp [new] at hconn
  · intro steps s a t hbefore hstep
    exact ordered_step_iff (sound_run hbefore) hstep c

/-- A request is served. -/
def served : List (Action Unit) :=
  [.connection_made none none, .connection 0 .worker,
   .connection 0 (.data_received (ascii "now") (get_feed none)), .connection 0 .worker,
   .connection 0 (.dispatched (ascii "now") (json_calls fun _ => some []))]

/-- What follows is no request. -/
def served_then_malformed : List (Action Unit) :=
  served ++ [.connection 0 (.data_received (ascii "now") ⟨[], some .HttpParserError⟩)]

theorem ordered_iff_answered_before_served : ∃ steps s,
    (server Unit fun url => .ok ⟨some url, none⟩).trace new served_then_malformed =
        some (steps, s) ∧
      ∀ conn, s.conns[0]? = some conn → conn.Ordered := by
  obtain ⟨⟨steps, s⟩, htrace⟩ := Option.isSome_iff_exists.mp (show
    ((server Unit fun url => .ok ⟨some url, none⟩).trace new served_then_malformed).isSome = true
      from rfl)
  refine ⟨steps, s, htrace, (ordered_iff_answered_before
    (Machine.run_of_trace served_then_malformed rfl htrace) 0).mpr ?_⟩
  cases htrace
  simp only [List.forall_mem_cons]
  refine ⟨?_, ?_, ?_, ?_, ?_, ?_, by simp⟩
  · intro act conn hact hconn
    cases hact
  · intro act conn hact hconn
    cases hact
    trivial
  · intro act conn hact hconn
    cases hact
    intro hmalformed
    cases hmalformed
  · intro act conn hact hconn
    cases hact
    trivial
  · intro act conn hact hconn
    cases hact
    cases hconn
    exact fun _ => rfl
  · intro act conn hact hconn
    cases hact
    cases hconn
    exact fun _ => ⟨⟨rfl, rfl, fun r hr => (by cases hr), fun hcancelled => (by cases hcancelled)⟩,
      by decide⟩

/-- Malformed input that comes while a view is running is answered first. -/
def slow_then_malformed : List (Action Unit) :=
  [.connection_made none none, .connection 0 .worker,
   .connection 0 (.data_received (ascii "now") (get_feed none)), .connection 0 .worker,
   .connection 0 (.data_received (ascii "now") ⟨[], some .HttpParserError⟩)]

theorem malformed_answered_first : ¬∀ steps s,
    (server Unit fun url => .ok ⟨some url, none⟩).Run steps s →
      ∀ conn, s.conns[0]? = some conn → conn.Ordered := by
  intro hordered
  have hfirst := hordered _ _ (Machine.run_of_trace (s := new) slow_then_malformed rfl rfl) _ rfl
  have hfinals := hfirst.1
  revert hfinals
  decide

end Server

end massless.protocol
