import Massless.Protocol.Runs
import Massless.Protocol.Teardown

open python
open transition

namespace massless.protocol

namespace Connection

/-- The requests whose responses were produced. -/
def produced (self : Connection) : List Request := self.dispatched.take self.handled

/-- The worker is through with what was noted when the drain began, or has left behind
a response that closed the connection. -/
def Settled (self : Connection) : Prop :=
  self.before_drain ≤ self.handled ∨ self.worker = .exited .closed

/-- The worker has not left. -/
def Alive (self : Connection) : Prop :=
  self.worker = .created ∨ self.worker = .getting ∨ ∃ r, self.worker = .handling r

variable {draining : Bool} {self next : Connection}

/-- A worker that waits with nothing on its queue is through with everything. -/
theorem settled_of_empty (hbooks : self.Books draining) (hworker : self.worker = .getting)
    (hempty : self.queue = []) : self.Settled := by
  have hcovered := hbooks.covered
  rw [hempty, List.idxOf_nil] at hcovered
  left
  rw [handled, hworker]
  omega

theorem handled_take_item (self : Connection) (item : Item) (rest : List Item) :
    ({ self with queue := rest }.take_item item).handled = self.dispatched.length := by
  cases item with
  | sentinel => simp [take_item, leave, handled]
  | request r => simp [take_item, handled]

theorem handled_loop_top (draining : Bool) (self : Connection) :
    (self.loop_top draining).handled = self.dispatched.length := by
  unfold loop_top
  split
  · split
    · simp [leave, handled]
    · rfl
  · exact handled_take_item self _ _

/-- The worker takes the next request, or settles. -/
theorem settled_take_item {item : Item} {rest : List Item} (hbooks : self.Books draining)
    (hqueue : self.queue = item :: rest) :
    (∃ r, ({ self with queue := rest }.take_item item).worker = .handling r) ∨
      ({ self with queue := rest }.take_item item).Settled := by
  cases item with
  | sentinel =>
    right
    left
    rw [handled_take_item]
    have hbefore := (hbooks.pop_sentinel hqueue).2
    simpa [take_item, leave] using hbefore
  | request r => exact Or.inl ⟨r, rfl⟩

theorem settled_loop_top (hbooks : self.Books draining) :
    (∃ r, (self.loop_top draining).worker = .handling r) ∨ (self.loop_top draining).Settled := by
  have hhandled := handled_loop_top draining self
  obtain ⟨_, -, hworks⟩ := works_loop_top draining self
  rw [Settled, hhandled, hworks.before_drain]
  unfold loop_top
  split
  · rename_i hempty
    have hcovered := hbooks.covered
    rw [hempty, List.idxOf_nil] at hcovered
    exact Or.inr (Or.inl (by simpa using hcovered))
  · rename_i item rest hqueue
    have htaken := settled_take_item hbooks hqueue
    obtain ⟨_, -, htake⟩ := works_take_item { self with queue := rest } item
    rw [Settled, handled_take_item, htake.before_drain] at htaken
    exact htaken

/-- A worker that runs takes a request or settles, unless it was cancelled. -/
theorem settled_run_worker (hsound : self.Sound draining) (hkept : self.cancelling = false)
    (hnext : self.run_worker draining = some next) :
    (∃ r, next.worker = .handling r) ∨ next.Settled := by
  obtain ⟨hcancelling, -⟩ | ⟨-, hworker, rfl⟩ | ⟨-, -, item, rest, hqueue, rfl⟩ :=
    run_worker_cases hnext
  · rw [hkept] at hcancelling
    cases hcancelling
  · have hat := hsound.worker
    rw [hworker] at hat
    exact settled_loop_top (hsound.books.set_tasks self.worker (by simp [hat.2]))
  · exact settled_take_item hsound.books hqueue

/-- So does one whose `dispatch` is over, unless that was cancelled over a request
from before the drain. -/
theorem settled_finish_dispatch (hsound : self.Sound draining) {date : Bytes}
    {outcome : Request → Except Exc (Bytes × Bool)}
    (hkept : ∀ r, self.worker = .handling r → r.index < self.before_drain →
      outcome r ≠ .error CancelledError)
    (hnext : self.finish_dispatch draining date outcome = some next) :
    (∃ r, next.worker = .handling r) ∨ next.Settled := by
  obtain ⟨r, hworker, ⟨hanswer, rfl⟩ | ⟨hopen, raw, hwritten⟩ | ⟨-, rfl⟩⟩ :=
    finish_dispatch_cases hnext
  · have hat := hsound.worker
    rw [hworker] at hat
    obtain ⟨-, -, earlier, hdispatched, -⟩ := hat
    have hindex := hsound.books.index_eq hdispatched
    have hlate : self.before_drain ≤ r.index := by
      by_contra hearly
      exact hkept r hworker (by omega) ((answer_eq_none_iff date r _).mp hanswer)
    right
    left
    simp only [leave, handled, hdispatched, List.length_append, List.length_singleton]
    omega
  · obtain ⟨hindex, -⟩ := hsound.index_eq hopen hworker
    have hpushed := hsound.books.push_response hopen hindex raw
    obtain rfl | rfl := hwritten
    · exact settled_loop_top hpushed
    · exact Or.inr (Or.inr rfl)
  · exact settled_loop_top hsound.books

/-- A step that is not the worker's own. -/
def Aside {Data : Type} : Act Data → Prop
  | .worker => False
  | .dispatched _ _ => False
  | _ => True

theorem aside_kept {Data : Type} {parse_url : ParseUrl} {handler : Handler} {act : Act Data}
    (haside : Aside act) (hnext : self.act parse_url handler act = some next) :
    next.worker = self.worker ∧ next.dispatched = self.dispatched := by
  cases act with
  | data_received date feed =>
    obtain ⟨hopen, rfl⟩ := act_data_received hnext
    obtain ⟨interim, tail, collector, taken, rs, -, heq, -⟩ :=
      read_ready_cases parse_url date feed hopen
    simp [heq]
  | transport_closed =>
    obtain ⟨-, rfl⟩ := act_transport_closed hnext
    simp [push]
  | connection_lost =>
    obtain ⟨-, rfl⟩ := act_connection_lost hnext
    simp [Connection.connection_lost]
  | waker => obtain ⟨-, -, rfl⟩ | ⟨-, rfl⟩ := run_waker_cases hnext <;> simp [put_sentinel]
  | worker => cases haside
  | dispatched date calls => cases haside

/-- A worker that is not cancelled is never through with less than before. -/
theorem handled_act {Data : Type} {parse_url : ParseUrl} {handler : Handler} {act : Act Data}
    (hkept : self.cancelling = false) (hnext : self.act parse_url handler act = some next) :
    self.handled ≤ next.handled := by
  by_cases haside : Aside act
  · obtain ⟨hworker, hdispatched⟩ := aside_kept haside hnext
    have hsame : self.handled = next.handled := by rw [handled, handled, hworker, hdispatched]
    exact Nat.le_of_eq hsame
  · cases act with
    | worker =>
      have hlast : self.handled ≤ self.dispatched.length := by
        unfold handled
        split <;> omega
      obtain ⟨hcancelling, -⟩ | ⟨-, -, rfl⟩ | ⟨-, -, item, rest, -, rfl⟩ := run_worker_cases hnext
      · rw [hkept] at hcancelling
        cases hcancelling
      · rw [handled_loop_top]
        exact hlast
      · rw [handled_take_item]
        exact hlast
    | dispatched date calls =>
      obtain ⟨r, hworker, hends⟩ := finish_dispatch_cases hnext
      have hbefore : self.handled = self.dispatched.length - 1 := by rw [handled, hworker]
      rw [hbefore]
      obtain ⟨-, rfl⟩ | ⟨-, raw, rfl | rfl⟩ | ⟨-, rfl⟩ := hends
      · simp [leave, handled]
      · simp [handled_loop_top, push]
      · simp [leave, handled, push]
      · simp [handled_loop_top]
    | _ => exact absurd trivial haside

/-- A worker that has left stays away. -/
theorem closed_act {Data : Type} {parse_url : ParseUrl} {handler : Handler} {act : Act Data}
    (hclosed : self.worker = .exited .closed)
    (hnext : self.act parse_url handler act = some next) :
    next.worker = .exited .closed ∧ next.dispatched = self.dispatched := by
  by_cases haside : Aside act
  · obtain ⟨hworker, hdispatched⟩ := aside_kept haside hnext
    exact ⟨hworker.trans hclosed, hdispatched⟩
  · cases act with
    | worker => simp [Connection.act, run_worker, hclosed] at hnext
    | dispatched date calls => simp [Connection.act, finish_dispatch, hclosed] at hnext
    | _ => exact absurd trivial haside

/-- A worker that has settled stays so. -/
theorem settled_act {Data : Type} {parse_url : ParseUrl} {handler : Handler} {act : Act Data}
    (hsettled : self.Settled) (hkept : self.cancelling = false)
    (hnext : self.act parse_url handler act = some next) : next.Settled := by
  have hhandled := handled_act hkept hnext
  have hgrows := grows_act hnext
  obtain hthrough | hclosed := hsettled
  · left
    rw [hgrows.before_drain]
    omega
  · exact Or.inr (closed_act hclosed hnext).1

/-- Every request from before the drain has its response, or the worker has left behind
a response that closed the connection. -/
def Through (self : Connection) : Prop :=
  self.before_drain ≤ self.responses.length ∨ self.worker = .exited .closed

/-- A step during a drain that loses nothing from before it: nobody but the worker ends
the connection until it is through with that, and no `dispatch` of it is cancelled. -/
def Orderly {Data : Type} (parse_url : ParseUrl) (self : Connection) : Act Data → Prop
  | .data_received _ feed => self.intact parse_url feed = false → self.Through
  | .transport_closed => self.Through
  | .connection_lost => self.Through
  | .dispatched date calls =>
    match self.worker with
    | .handling r => r.index < self.before_drain →
      (dispatch calls date r.keep_alive r.core.method ⟨[], []⟩).1 ≠ .error CancelledError
    | _ => True
  | _ => True

instance (self : Connection) : Decidable self.Through := inferInstanceAs (Decidable (_ ∨ _))

instance {Data : Type} (parse_url : ParseUrl) (self : Connection) :
    (act : Act Data) → Decidable (self.Orderly parse_url act)
  | .data_received _ feed =>
    inferInstanceAs (Decidable (self.intact parse_url feed = false → self.Through))
  | .dispatched date calls =>
    match hworker : self.worker with
    | .handling r => decidable_of_iff (r.index < self.before_drain →
        (dispatch calls date r.keep_alive r.core.method ⟨[], []⟩).1 ≠ .error CancelledError)
        (by simp [Orderly, hworker])
    | .absent => .isTrue (by simp [Orderly, hworker])
    | .created => .isTrue (by simp [Orderly, hworker])
    | .getting => .isTrue (by simp [Orderly, hworker])
    | .exited _ => .isTrue (by simp [Orderly, hworker])
  | .transport_closed => inferInstanceAs (Decidable self.Through)
  | .connection_lost => inferInstanceAs (Decidable self.Through)
  | .worker => .isTrue trivial
  | .waker => .isTrue trivial

/-- How far a connection is that was open when the drain began. The worker is through
with what came before that, or it will be: while `_drain` waits it has not left, and
once `_drain` is woken it handles a request or is ahead on the ready queue. -/
def Covered (self : Connection) (drain : Drain) (c : Nat) : Prop :=
  self.Settled ∨
    match drain with
    | .waiting _ => self.Alive
    | .woken ahead => (∃ r, self.worker = .handling r) ∨ c ∈ ahead
    | .returned => False
    | _ => True

/-- The step of another connection leaves it covered. -/
theorem Covered.ran_other {Data : Type} {drain : Drain} {c d : Nat}
    (hcovered : self.Covered drain d) (hne : d ≠ c) {act : Act Data} :
    self.Covered (drain.ran c act) d := by
  refine hcovered.imp_right fun hunsettled => ?_
  cases drain with
  | woken ahead =>
    cases act with
    | worker =>
      exact hunsettled.imp_right fun hahead =>
        List.mem_filter.mpr ⟨hahead, by simpa using hne⟩
    | _ => exact hunsettled
  | _ => exact hunsettled

/-- What was dispatched from before the drain has its response, or gets it if the worker
comes to that. -/
def Unharmed (self : Connection) : Prop :=
  self.Undisturbed ∨ self.before_drain ≤ self.responses.length ∨
    (self.worker = .exited .closed ∧ self.dispatched.length ≤ self.responses.length)

theorem alive_of_handling (hhandling : ∃ r, self.worker = .handling r) : self.Alive :=
  Or.inr (Or.inr hhandling)

/-- An orderly step keeps a connection covered. -/
theorem covered_act {Data : Type} {parse_url : ParseUrl} {handler : Handler} {act : Act Data}
    {drain : Drain} {c : Nat} (hsound : self.Sound handler.draining)
    (hkept : self.cancelling = false) (horderly : self.Orderly parse_url act)
    (hcovered : self.Covered drain c) (hnext : self.act parse_url handler act = some next) :
    next.Covered (drain.ran c act) c := by
  obtain hsettled | hunsettled := hcovered
  · exact Or.inl (settled_act hsettled hkept hnext)
  · have hturn : ¬Aside act → (∃ r, next.worker = .handling r) ∨ next.Settled := by
      intro hown
      cases act with
      | worker => exact settled_run_worker hsound hkept hnext
      | dispatched date calls =>
        refine settled_finish_dispatch hsound (fun r hworker => ?_) hnext
        simpa only [Orderly, hworker] using horderly
      | _ => exact absurd trivial hown
    by_cases haside : Aside act
    · right
      have hran : drain.ran c act = drain := by
        cases drain <;> cases act <;> first | rfl | cases haside
      rw [hran, Alive, (aside_kept haside hnext).1]
      exact hunsettled
    · obtain hhandling | hsettled := hturn haside
      · right
        cases drain with
        | waiting pending => exact alive_of_handling hhandling
        | woken ahead => cases act <;> exact Or.inl hhandling
        | returned => exact hunsettled
        | _ => trivial
      · exact Or.inl hsettled

/-- Responses, closes by the protocol and `100 Continue` disturb nothing. -/
theorem Undisturbed.append {tail : List Op} (hundisturbed : self.Undisturbed)
    (hattached : next.attached = self.attached) (hops : next.ops = self.ops ++ tail)
    (htail : ∀ op ∈ tail, op ≠ .abort ∧ op.is_bad_request = false) : next.Undisturbed := by
  obtain ⟨hmade, habort, hrefused⟩ := hundisturbed
  refine ⟨hattached.trans hmade, ?_, ?_⟩
  · rw [hops, List.mem_append, not_or]
    exact ⟨habort, fun hmem => (htail _ hmem).1 rfl⟩
  · have hnone : tail.any Op.is_bad_request = false :=
      List.any_eq_false.mpr fun op hop => by simp [(htail op hop).2]
    rw [answered_400, hops, List.any_append, hnone, Bool.or_false]
    exact hrefused

theorem Silent.undisturbing {tail : List Op} (hsilent : Silent tail) :
    ∀ op ∈ tail, op ≠ .abort ∧ op.is_bad_request = false := by
  obtain rfl | rfl := hsilent <;> simp [Op.is_bad_request]

/-- An orderly step leaves a connection undisturbed that is not through yet. -/
theorem undisturbed_act {Data : Type} {parse_url : ParseUrl} {handler : Handler} {act : Act Data}
    (hundisturbed : self.Undisturbed) (horderly : self.Orderly parse_url act)
    (hnext : self.act parse_url handler act = some next) : next.Undisturbed ∨ self.Through := by
  cases act with
  | data_received date feed =>
    obtain ⟨-, rfl⟩ := act_data_received hnext
    cases hintact : self.intact parse_url feed with
    | false => exact Or.inr (horderly hintact)
    | true =>
      obtain ⟨hattached, interim, hinterim, hops⟩ := ops_read_ready_intact hintact date
      refine Or.inl (hundisturbed.append hattached hops fun op hop => ?_)
      obtain ⟨request, rfl⟩ := hinterim op hop
      simp [Op.is_bad_request]
  | transport_closed => exact Or.inr horderly
  | connection_lost => exact Or.inr horderly
  | worker =>
    obtain ⟨tail, hsilent, hworks⟩ := works_run_worker hnext
    exact Or.inl (hundisturbed.append hworks.attached hworks.ops hsilent.undisturbing)
  | waker =>
    have hworks := works_run_waker hnext
    exact Or.inl (hundisturbed.append hworks.attached hworks.ops (by simp))
  | dispatched date calls =>
    left
    obtain ⟨tail, hsilent, hworks | ⟨-, r, raw, -, hworks⟩⟩ := works_finish_dispatch hnext
    · exact hundisturbed.append hworks.attached hworks.ops hsilent.undisturbing
    · refine hundisturbed.append hworks.attached hworks.ops ?_
      rw [List.forall_mem_cons]
      exact ⟨⟨by simp, rfl⟩, hsilent.undisturbing⟩

/-- An orderly step harms nothing. -/
theorem unharmed_act {Data : Type} {parse_url : ParseUrl} {handler : Handler} {act : Act Data}
    (hsound : self.Sound draining) (hunharmed : self.Unharmed)
    (horderly : self.Orderly parse_url act)
    (hnext : self.act parse_url handler act = some next) : next.Unharmed := by
  have hgrows := grows_act hnext
  have hresponses := (hgrows.ops.filterMap Op.responds).length_le
  have hthrough : self.before_drain ≤ self.responses.length → next.Unharmed := by
    intro hbefore
    right
    left
    rw [hgrows.before_drain]
    exact Nat.le_trans hbefore hresponses
  have hleft : self.worker = .exited .closed → self.dispatched.length ≤ self.responses.length →
      next.Unharmed := by
    intro hclosed hall
    obtain ⟨hworker, hdispatched⟩ := closed_act hclosed hnext
    right
    right
    rw [hdispatched]
    exact ⟨hworker, Nat.le_trans hall hresponses⟩
  obtain hundisturbed | hbefore | ⟨hclosed, hall⟩ := hunharmed
  · obtain hstill | hbefore | hclosed := undisturbed_act hundisturbed horderly hnext
    · exact Or.inl hstill
    · exact hthrough hbefore
    · have hat := hsound.worker
      rw [hclosed] at hat
      exact hleft hclosed (Nat.le_of_eq (hat hundisturbed).symm)
  · exact hthrough hbefore
  · exact hleft hclosed hall

theorem Books.index_lt (hbooks : self.Books draining) {r : Request} {n : Nat}
    (hr : r ∈ self.enqueued.take n) : r.index < n := by
  have hmem := List.mem_map_of_mem (f := Request.index) hr
  rw [List.map_take, hbooks.indices] at hmem
  have hbound : r.index < min n self.enqueued.length := by
    simpa [List.take_range] using hmem
  omega

/-- The responses written are on the transport. -/
theorem Wire.exists_response {ops : List Op} (hwire : Wire ops) {index : Nat}
    (hindex : index < (ops.filterMap Op.responds).length) : ∃ raw, .response index raw ∈ ops := by
  have hmem : index ∈ ops.filterMap Op.responds := by
    rw [hwire.in_order]
    exact List.mem_range.mpr hindex
  obtain ⟨op, hop, hresponds⟩ := List.mem_filterMap.mp hmem
  cases op with
  | response request raw =>
    obtain rfl := Option.some.inj hresponds
    exact ⟨raw, hop⟩
  | _ => cases hresponds

/-- A settled connection has produced and written what was noted when the drain began,
but for what is behind a response that closed it. -/
theorem Settled.answered (hsettled : self.Settled) (hsound : self.Sound draining)
    (hunharmed : self.Unharmed) {r : Request} (hr : r ∈ self.enqueued.take self.before_drain) :
    (r ∈ self.produced ∧ ∃ raw, .response r.index raw ∈ self.ops) ∨
      (self.worker = .exited .closed ∧ r ∉ self.dispatched) := by
  have hlast : self.handled ≤ self.dispatched.length := by
    unfold handled
    split <;> omega
  have hwritten : r.index < self.handled → ∃ raw, .response r.index raw ∈ self.ops := by
    intro hhandled
    apply Wire.exists_response hsound.books.wire
    rw [← responses]
    obtain hundisturbed | hbefore | ⟨-, hall⟩ := hunharmed
    · rwa [responses_eq_handled hsound hundisturbed]
    · exact Nat.lt_of_lt_of_le (hsound.books.index_lt hr) hbefore
    · exact Nat.lt_of_lt_of_le hhandled (Nat.le_trans hlast hall)
  obtain hthrough | hclosed := hsettled
  · left
    have hearly := hsound.books.index_lt hr
    refine ⟨?_, hwritten (by omega)⟩
    rw [hsound.books.order, List.take_append_of_le_length (by omega)] at hr
    exact List.take_subset_take_left _ hthrough hr
  · by_cases hdispatched : r ∈ self.dispatched
    · left
      have hall : self.handled = self.dispatched.length := by rw [handled, hclosed]
      have hplace : r ∈ self.enqueued.take self.dispatched.length := by
        rwa [hsound.books.order, List.take_left]
      have hindex := hsound.books.index_lt hplace
      refine ⟨?_, hwritten (by omega)⟩
      rwa [produced, hall, List.take_length]
    · exact Or.inr ⟨hclosed, hdispatched⟩

end Connection

namespace Server

variable {Data : Type} {parse_url : ParseUrl}

/-- A step that keeps the drain graceful. When it begins, some request is in flight or
no open connection has one on its queue, and no open connection has lost its worker to
a cancellation; after that, the connections that were open take orderly steps. -/
def Orderly (parse_url : ParseUrl) (s : Server) : Action Data → Prop
  | .stop => ∀ conn ∈ s.conns, conn.is_open = true →
    (conn.pending ≠ [] → s.handler.inflight ≠ []) ∧ conn.worker ≠ .exited .cancelled
  | .connection c act =>
    ∀ conn ∈ s.conns[c]?, conn.open_at_drain = true → conn.Orderly parse_url act
  | _ => True

instance (parse_url : ParseUrl) (s : Server) :
    (a : Action Data) → Decidable (s.Orderly parse_url a)
  | .stop => inferInstanceAs (Decidable (∀ conn ∈ s.conns, conn.is_open = true →
      (conn.pending ≠ [] → s.handler.inflight ≠ []) ∧ conn.worker ≠ .exited .cancelled))
  | .connection c act =>
    inferInstanceAs (Decidable
      (∀ conn ∈ s.conns[c]?, conn.open_at_drain = true → conn.Orderly parse_url act))
  | .connection_made _ _ => .isTrue trivial
  | .drain _ => .isTrue trivial

/-- The drain keeps its promise: the connections that were open when it began are
covered and unharmed. -/
def Draining (s : Server) : Prop :=
  ∀ (c : Nat) (conn : Connection), s.conns[c]? = some conn → conn.open_at_drain = true →
    conn.Unharmed ∧ conn.Covered s.drain c

/-- A connection that is open when an orderly drain begins: its worker has not left,
and with nothing in flight it is through with its queue. -/
theorem covered_note_drain {conn : Connection} {handler : Handler} {c : Nat}
    (hsound : conn.Sound false)
    (hinflight : ∀ r, conn.worker = .handling r → handler.inflight ≠ [])
    (hpending : conn.pending ≠ [] → handler.inflight ≠ [])
    (hkept : conn.worker ≠ .exited .cancelled) :
    conn.note_drain.Covered handler.check_inflight c := by
  have hat := hsound.worker
  have henqueued := congrArg List.length hsound.books.order
  rw [List.length_append] at henqueued
  -- A worker that waits is through with everything if nothing is in flight.
  have hwaits : conn.note_drain.handled = conn.dispatched.length → conn.note_drain.Alive →
      conn.note_drain.Covered handler.check_inflight c := by
    intro hhandled halive
    unfold Handler.check_inflight
    by_cases hnone : handler.inflight = []
    · left
      left
      have hempty : conn.pending = [] := by
        by_contra hqueued
        exact hpending hqueued hnone
      rw [hempty, List.length_nil] at henqueued
      rw [hhandled]
      exact Nat.le_of_eq henqueued
    · right
      simpa [hnone] using halive
  cases hworker : conn.worker with
  | absent =>
    rw [hworker] at hat
    cases hat
  | created =>
    refine hwaits ?_ (Or.inl hworker)
    simp [Connection.handled, Connection.note_drain, hworker]
  | getting =>
    refine hwaits ?_ (Or.inr (Or.inl hworker))
    simp [Connection.handled, Connection.note_drain, hworker]
  | handling r =>
    right
    have hbusy := hinflight r hworker
    have halive : conn.note_drain.Alive := Or.inr (Or.inr ⟨r, hworker⟩)
    simpa [Handler.check_inflight, hbusy] using halive
  | exited exit =>
    rw [hworker] at hat
    cases exit with
    | idle => cases hat.1
    | sentinel => cases hat.1
    | closed => exact Or.inl (Or.inr hworker)
    | cancelled => exact absurd hworker hkept

/-- The beginning of an orderly drain. -/
theorem draining_stop {s t : Server} (hsound : s.Sound)
    (horderly : s.Orderly parse_url (Action.stop : Action Data))
    (hstep : s.step parse_url (Action.stop : Action Data) = some t) : t.Draining := by
  obtain ⟨hidle, rfl⟩ := step_stop hstep
  have hquiet : s.handler.draining = false := by
    refine Bool.eq_false_iff.mpr fun hdraining => ?_
    exact hsound.draining_iff.mp hdraining hidle
  intro c conn hconn hopen
  simp only [List.getElem?_map, Option.map_eq_some_iff] at hconn
  obtain ⟨before, hbefore, rfl⟩ := hconn
  have hmem := List.mem_of_getElem? hbefore
  have hconn_sound := hsound.conns before hmem
  rw [hquiet] at hconn_sound
  have hundisturbed := hconn_sound.books.undisturbed hopen
  obtain ⟨hpending, hkept⟩ := horderly before hmem hopen
  refine ⟨Or.inl hundisturbed,
    covered_note_drain hconn_sound (fun r hworker => ?_) hpending hkept⟩
  exact List.ne_nil_of_mem (hsound.inflight hbefore hworker)

/-- A worker that has not left is on the ready queue when `_drain` is woken, unless it
handles a request or is through with everything. -/
theorem covered_woken {s : Server} {c : Nat} {conn : Connection} {draining : Bool}
    (hsound : conn.Sound draining) (hconn : s.conns[c]? = some conn) (halive : conn.Alive) :
    conn.Covered (.woken s.ready_workers) c := by
  have hready : conn.worker_ready = true → c ∈ s.ready_workers := by
    intro hready
    have hbound := (List.getElem?_eq_some_iff.mp hconn).1
    exact List.mem_filter.mpr ⟨List.mem_range.mpr hbound, by simp [hconn, hready]⟩
  obtain hcreated | hgetting | hhandling := halive
  · exact Or.inr (Or.inr (hready (by simp [Connection.worker_ready, hcreated])))
  · by_cases hempty : conn.queue = []
    · exact Or.inl (Connection.settled_of_empty hsound.books hgetting hempty)
    · exact Or.inr (Or.inr (hready (by simp [Connection.worker_ready, hgetting, hempty])))
  · exact Or.inr (Or.inl hhandling)

/-- `_drain` keeps its promise as it goes on: it is woken behind the workers that are
ready, and comes back when nothing is in flight. -/
theorem draining_act {s t : Server} (hsound : s.Sound) (hdraining : s.Draining) {act : DrainAct}
    (hstep : s.drain_act act = some t) : t.Draining := by
  have hconns := (drain_act_kept hstep).2.1
  intro c conn hconn hopen
  rw [hconns] at hconn
  obtain ⟨hunharmed, hcovered⟩ := hdraining c conn hconn hopen
  refine ⟨hunharmed, ?_⟩
  obtain hsettled | hunsettled := hcovered
  · exact Or.inl hsettled
  cases act with
  | wait_done =>
    simp only [drain_act] at hstep
    split at hstep
    · rename_i pending hdrain
      simp only [Option.ite_none_right_eq_some, Option.some.injEq] at hstep
      obtain ⟨-, rfl⟩ := hstep
      rw [hdrain] at hunsettled
      exact covered_woken (hsound.conns conn (List.mem_of_getElem? hconn)) hconn hunsettled
    · cases hstep
  | resume =>
    simp only [drain_act, Option.ite_none_right_eq_some, Option.some.injEq] at hstep
    obtain ⟨hdrain, rfl⟩ := hstep
    rw [hdrain] at hunsettled
    obtain ⟨r, hworker⟩ := hunsettled.resolve_right (by simp)
    have hbusy := List.ne_nil_of_mem (hsound.inflight hconn hworker)
    have halive : conn.Alive := Connection.alive_of_handling ⟨r, hworker⟩
    right
    simpa [Handler.check_inflight, hbusy] using halive
  | timeout =>
    simp only [drain_act] at hstep
    split at hstep
    · obtain rfl := Option.some.inj hstep
      exact Or.inr trivial
    · obtain rfl := Option.some.inj hstep
      exact Or.inr trivial
    · cases hstep
  | run_hooks =>
    simp only [drain_act, Option.ite_none_right_eq_some, Option.some.injEq] at hstep
    obtain ⟨-, rfl⟩ := hstep
    exact Or.inr hunsettled

/-- An orderly step keeps the promise of the drain. -/
theorem draining_step {s t : Server} (hsound : s.Sound) (hdraining : s.Draining) {a : Action Data}
    (horderly : s.Orderly parse_url a) (hstep : s.step parse_url a = some t) : t.Draining := by
  cases a with
  | connection_made peer sockname =>
    simp only [Server.step, Option.some.injEq] at hstep
    subst hstep
    intro c conn hconn hopen
    obtain hbefore | rfl := getElem?_joined hconn
    · exact hdraining c conn hbefore hopen
    · cases hopen
  | connection c act =>
    obtain ⟨conn, next, hconn, hnext, rfl⟩ := step_connection hstep
    intro d other hother hopen
    obtain ⟨rfl, rfl⟩ | ⟨hne, hbefore⟩ := getElem?_stepped hother
    · have hconn_sound := hsound.conns conn (List.mem_of_getElem? hconn)
      rw [(Connection.grows_act hnext).open_at_drain] at hopen
      have hkept : conn.cancelling = false := by
        refine Bool.eq_false_iff.mpr fun hcancelling => ?_
        rw [(hconn_sound.books.lost hcancelling).2] at hopen
        cases hopen
      obtain ⟨hunharmed, hcovered⟩ := hdraining d conn hconn hopen
      have hact := horderly conn hconn hopen
      exact ⟨Connection.unharmed_act hconn_sound hunharmed hact hnext,
        Connection.covered_act hconn_sound hkept hact hcovered hnext⟩
    · obtain ⟨hunharmed, hcovered⟩ := hdraining d other hbefore hopen
      exact ⟨hunharmed, hcovered.ran_other hne⟩
  | stop => exact draining_stop hsound horderly hstep
  | drain act => exact draining_act hsound hdraining hstep

/-- A graceful drain: when `_drain` comes back in time, every request that was on the
queue of an open connection when it began has had its response produced and written, or
is behind a response that closed the connection; and the shutdown hooks only run behind
`_drain`. -/
structure Graceful (steps : List (Server × Action Data)) (s : Server) : Prop where
  answered : s.drain = .returned → ∀ before, (before, .stop) ∈ steps →
    ∀ (c : Nat) (earlier conn : Connection), before.conns[c]? = some earlier →
      earlier.is_open = true → s.conns[c]? = some conn → ∀ r ∈ earlier.enqueued,
        (r ∈ conn.produced ∧ ∃ raw, .response r.index raw ∈ conn.ops) ∨
        (conn.worker = .exited .closed ∧ r ∉ conn.dispatched)
  hooks : s.hooks_run = true → s.drain = .returned ∨ s.drain = .expired

/-- The shutdown hooks run behind `_drain`. -/
theorem hooks_step {s t : Server}
    (hhooks : s.hooks_run = true → s.drain = .returned ∨ s.drain = .expired) {a : Action Data}
    (hstep : s.step parse_url a = some t) :
    t.hooks_run = true → t.drain = .returned ∨ t.drain = .expired := by
  cases a with
  | connection_made peer sockname =>
    simp only [Server.step, Option.some.injEq] at hstep
    subst hstep
    exact hhooks
  | connection c act =>
    obtain ⟨conn, next, -, -, rfl⟩ := step_connection hstep
    intro hrun
    obtain hreturned | hexpired := hhooks hrun
    · simp [hreturned, Drain.ran]
    · simp [hexpired, Drain.ran]
  | stop =>
    obtain ⟨hidle, rfl⟩ := step_stop hstep
    intro hrun
    have hover := hhooks hrun
    simp [hidle] at hover
  | drain act =>
    have hsame := (drain_act_kept hstep).2.2.2.2
    intro hrun
    cases act with
    | run_hooks =>
      simp only [Server.step, drain_act, Option.ite_none_right_eq_some, Option.some.injEq] at hstep
      obtain ⟨hover, rfl⟩ := hstep
      exact hover
    | _ =>
      -- Once `_drain` is over it takes no step.
      rw [hsame (by simp)] at hrun
      obtain hreturned | hexpired := hhooks hrun
      · simp [Server.step, drain_act, hreturned] at hstep
      · simp [Server.step, drain_act, hexpired] at hstep

theorem draining_run {steps : List (Server × Action Data)} {s : Server}
    (hrun : (server Data parse_url).Run steps s)
    (horderly : ∀ taken ∈ steps, taken.1.Orderly parse_url taken.2) : s.Draining := by
  refine hrun.invariant_where (I := Draining) (G := Orderly parse_url) ?_ ?_ horderly
  · rintro s rfl c conn hconn
    simp [new] at hconn
  · intro steps s a t hbefore hdraining horderly hstep
    exact draining_step (sound_run hbefore) hdraining horderly hstep

/-- The drain begins while a request is in flight. -/
def drained_in_flight : List (Action Unit) :=
  [.connection_made none none, .connection 0 .worker,
   .connection 0 (.data_received (ascii "now") (get_feed none)), .connection 0 .worker, .stop,
   .connection 0 (.dispatched (ascii "now") (json_calls fun _ => some [])), .drain .wait_done,
   .drain .resume]

/-- The drain begins while a worker that was woken by a request has not had its turn. -/
def drained_in_queue : List (Action Unit) :=
  [.connection_made none none, .connection 0 .worker,
   .connection 0 (.data_received (ascii "now") (get_feed none)), .stop]

end Server

end massless.protocol
