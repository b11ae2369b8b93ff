import Massless.Protocol.Received
import Massless.Protocol.Server

open python

namespace massless.protocol

/-- The request that a response of the worker answers. -/
def Op.responds : Op → Option Nat
  | .response request _ => some request
  | _ => none

def Item.request? : Item → Option Request
  | .request r => some r
  | .sentinel => none

/-- What was done to a transport, in order: the responses of the worker are those to
the first requests of the stream, nothing is written behind a close, and a 400 comes
with one. -/
structure Wire (ops : List Op) : Prop where
  in_order : ops.filterMap Op.responds = List.range (ops.filterMap Op.responds).length
  quiet : ops.Pairwise fun earlier later => later.is_write = true → earlier.is_write = true
  refused_closed : ops.any Op.is_bad_request = true → .close ∈ ops

/-- Before any close, everything is a write. -/
theorem is_write_of_not_closed {ops : List Op} (hclose : .close ∉ ops) (habort : .abort ∉ ops) :
    ∀ op ∈ ops, op.is_write = true := by
  intro op hmem
  cases op with
  | close => exact absurd hmem hclose
  | abort => exact absurd hmem habort
  | _ => rfl

theorem Wire.append {ops tail : List Op} (hwire : Wire ops) (hclose : .close ∉ ops)
    (habort : .abort ∉ ops)
    (hquiet : tail.Pairwise fun earlier later => later.is_write = true → earlier.is_write = true)
    (hresponses : tail.filterMap Op.responds = [])
    (hrefused : tail.any Op.is_bad_request = true → .close ∈ tail) : Wire (ops ++ tail) := by
  have hwrites := is_write_of_not_closed hclose habort
  refine ⟨?_, ?_, ?_⟩
  · rw [List.filterMap_append, hresponses, List.append_nil]
    exact hwire.in_order
  · exact List.pairwise_append.mpr ⟨hwire.quiet, hquiet, fun op hop _ _ _ => hwrites op hop⟩
  · rw [List.any_append, Bool.or_eq_true, List.mem_append]
    exact Or.imp hwire.refused_closed hrefused

theorem Wire.push_response {ops : List Op} (hwire : Wire ops) (hclose : .close ∉ ops)
    (habort : .abort ∉ ops) (raw : Bytes) :
    Wire (ops ++ [.response (ops.filterMap Op.responds).length raw]) := by
  have hwrites := is_write_of_not_closed hclose habort
  refine ⟨?_, ?_, ?_⟩
  · have hin_order := hwire.in_order
    simp only [List.filterMap_append, List.filterMap_cons, Op.responds, List.filterMap_nil,
      List.length_append, List.length_singleton, List.range_succ]
    rw [← hin_order]
  · refine List.pairwise_append.mpr ⟨hwire.quiet, List.pairwise_singleton _ _, ?_⟩
    exact fun op hop _ _ _ => hwrites op hop
  · intro hrefused
    have hbefore : ops.any Op.is_bad_request = true := by
      simpa [Op.is_bad_request] using hrefused
    exact List.mem_append_left _ (hwire.refused_closed hbefore)

namespace Connection

/-- The requests that wait on the queue. -/
def pending (self : Connection) : List Request := self.queue.filterMap Item.request?

/-- The requests whose responses the worker has written. -/
def responses (self : Connection) : List Nat := self.ops.filterMap Op.responds

/-- A 400 was written. -/
def answered_400 (self : Connection) : Bool := self.ops.any Op.is_bad_request

/-- Nobody but the worker has ended the connection. -/
def Undisturbed (self : Connection) : Prop :=
  self.attached = true ∧ .abort ∉ self.ops ∧ self.answered_400 = false

/-- The books of a connection: every request put on the queue is dispatched or still
waits there, in order; the sentinel is put once at most, while draining, and behind
every request that came before the drain; and a worker is cancelled for a transport
lost before that. -/
structure Books (draining : Bool) (conn : Connection) : Prop where
  order : conn.enqueued = conn.dispatched ++ conn.pending
  indices : conn.enqueued.map Request.index = List.range conn.enqueued.length
  taken : conn.is_open = true → conn.taken = conn.enqueued.length
  wire : Wire conn.ops
  lost : conn.cancelling = true → conn.attached = false ∧ conn.open_at_drain = false
  sentinels : conn.sentinels = if conn.waker = .put then 1 else 0
  queued : conn.queue.count .sentinel ≤ conn.sentinels
  put_draining : conn.waker = .put → draining = true
  covered : conn.before_drain ≤ conn.dispatched.length + conn.queue.idxOf .sentinel
  noted : conn.open_at_drain = true → draining = true

/-- The worker between two requests: it has written a response to each request it
dispatched, if nobody else has ended the connection, and has closed nothing. -/
def Between (self : Connection) : Prop :=
  (self.Undisturbed → self.responses.length = self.dispatched.length) ∧
    (.close ∈ self.ops → self.answered_400 = true)

/-- Something will wake a worker that waits for the queue. -/
def Awake (self : Connection) : Prop :=
  self.waker = .created ∨ self.waker = .waiting ∨ (self.waker = .put ∧ .sentinel ∈ self.queue)

/-- What holds at each point of the worker. -/
def At (draining : Bool) (self : Connection) : Worker → Prop
  | .absent => False
  | .created => self.Between ∧ self.waker = .absent
  | .getting => self.Between ∧ self.Awake
  | .handling r =>
    self.Awake ∧ (.close ∈ self.ops → self.answered_400 = true) ∧
      ∃ earlier, self.dispatched = earlier ++ [r] ∧
        (self.Undisturbed → self.responses.length = earlier.length)
  | .exited .closed => self.Undisturbed → self.responses.length = self.dispatched.length
  | .exited .cancelled =>
    self.Undisturbed → ∃ earlier r, self.dispatched = earlier ++ [r] ∧
      self.responses.length = earlier.length
  | .exited _ =>
    draining = true ∧ self.before_drain ≤ self.dispatched.length ∧
      (self.Undisturbed → self.responses.length = self.dispatched.length)

/-- The invariant of a connection. -/
structure Sound (draining : Bool) (conn : Connection) : Prop where
  books : conn.Books draining
  worker : conn.At draining conn.worker

variable {draining : Bool} {self : Connection}

theorem is_open_iff : self.is_open = true ↔
    self.attached = true ∧ .close ∉ self.ops ∧ .abort ∉ self.ops := by
  simp [is_open, is_closing]

/-- An open connection has been ended by nobody. -/
theorem Books.undisturbed (hbooks : Books draining self) (hopen : self.is_open = true) :
    self.Undisturbed := by
  obtain ⟨hattached, hclose, habort⟩ := is_open_iff.mp hopen
  refine ⟨hattached, habort, Bool.eq_false_iff.mpr fun hrefused => ?_⟩
  exact hclose (hbooks.wire.refused_closed hrefused)

theorem sound_connection_made (peer sockname : Option (String × Int)) :
    Sound draining (connection_made peer sockname) := by
  refine ⟨⟨?_, ?_, ?_, ⟨?_, ?_, ?_⟩, ?_, ?_, ?_, ?_, ?_, ?_⟩, ⟨?_, ?_⟩, rfl⟩
  all_goals simp [connection_made, new, pending, responses]

@[simp] theorem responses_close_transport (self : Connection) :
    self.close_transport.responses = self.responses := by
  obtain ⟨tail, heq, rfl | ⟨rfl, -⟩⟩ := close_transport_eq self <;>
    simp [heq, responses, Op.responds]

@[simp] theorem undisturbed_close_transport (self : Connection) :
    self.close_transport.Undisturbed ↔ self.Undisturbed := by
  obtain ⟨tail, heq, rfl | ⟨rfl, -⟩⟩ := close_transport_eq self <;>
    simp [heq, Undisturbed, answered_400, Op.is_bad_request]

@[simp] theorem dispatched_close_transport (self : Connection) :
    self.close_transport.dispatched = self.dispatched := by
  obtain ⟨tail, heq, -⟩ := close_transport_eq self
  rw [heq]

@[simp] theorem before_drain_close_transport (self : Connection) :
    self.close_transport.before_drain = self.before_drain := by
  obtain ⟨tail, heq, -⟩ := close_transport_eq self
  rw [heq]

/-- Ops on an open transport that answer nothing, and end in a close or an abort if
there are any. -/
theorem Books.append_ops (hbooks : Books draining self) (hopen : self.is_open = true)
    {tail : List Op} (hquiet : tail.Pairwise fun earlier later =>
      later.is_write = true → earlier.is_write = true)
    (hresponses : tail.filterMap Op.responds = [])
    (hrefused : tail.any Op.is_bad_request = true → .close ∈ tail) :
    Books draining { self with ops := self.ops ++ tail } := by
  obtain ⟨hattached, hclose, habort⟩ := is_open_iff.mp hopen
  obtain ⟨horder, hindices, htaken, hwire, hlost, hsentinels, hqueued, hput, hcovered, hnoted⟩ :=
    hbooks
  exact ⟨horder, hindices, fun _ => htaken hopen,
    hwire.append hclose habort hquiet hresponses hrefused, hlost, hsentinels, hqueued, hput,
    hcovered, hnoted⟩

theorem Books.close_transport (hbooks : Books draining self) :
    Books draining self.close_transport := by
  obtain ⟨tail, heq, rfl | ⟨rfl, hopen⟩⟩ := close_transport_eq self
  · simpa [heq] using hbooks
  · rw [heq]
    exact hbooks.append_ops hopen (by simp) (by simp [Op.responds]) (by simp)

theorem cancel_eq_put_iff (waker : Waker) : waker.cancel = .put ↔ waker = .put := by
  cases waker <;> simp [Waker.cancel]

/-- The tasks go on, and the sentinel is not put meanwhile. -/
theorem Books.set_tasks (hbooks : Books draining self) (worker : Worker) {waker : Waker}
    (hput : waker = .put ↔ self.waker = .put) : Books draining { self with worker, waker } := by
  obtain ⟨horder, hindices, htaken, hwire, hlost, hsentinels, hqueued, hdraining, hcovered,
    hnoted⟩ := hbooks
  refine ⟨horder, hindices, htaken, hwire, hlost, ?_, hqueued, fun h => hdraining (hput.mp h),
    hcovered, hnoted⟩
  simpa only [hput] using hsentinels

theorem Books.leave (hbooks : Books draining self) (exit : Exit) :
    Books draining (self.leave exit) :=
  hbooks.set_tasks _ (cancel_eq_put_iff self.waker)

/-- A sentinel on the queue was put there, while draining. -/
theorem Books.draining_of_sentinel (hbooks : Books draining self)
    (hsentinel : .sentinel ∈ self.queue) : draining = true := by
  have hcount := List.count_pos_iff.mpr hsentinel
  have hqueued := hbooks.queued
  have hsentinels := hbooks.sentinels
  apply hbooks.put_draining
  by_contra hput
  rw [if_neg hput] at hsentinels
  omega

/-- The sentinel is taken: everything from before the drain has been dispatched. -/
theorem Books.pop_sentinel (hbooks : Books draining self) {rest : List Item}
    (hqueue : self.queue = .sentinel :: rest) :
    Books draining { self with queue := rest } ∧ self.before_drain ≤ self.dispatched.length := by
  obtain ⟨horder, hindices, htaken, hwire, hlost, hsentinels, hqueued, hput, hcovered, hnoted⟩ :=
    hbooks
  have hbefore : self.before_drain ≤ self.dispatched.length := by
    rw [hqueue, List.idxOf_cons_self] at hcovered
    omega
  refine ⟨⟨?_, hindices, htaken, hwire, hlost, hsentinels, ?_, hput, ?_, hnoted⟩, hbefore⟩
  · rw [horder]
    simp only [pending, hqueue, List.filterMap_cons, Item.request?]
  · rw [hqueue, List.count_cons_self] at hqueued
    change rest.count .sentinel ≤ self.sentinels
    omega
  · change self.before_drain ≤ self.dispatched.length + _
    omega

/-- A request is taken. -/
theorem Books.pop_request (hbooks : Books draining self) {r : Request} {rest : List Item}
    (hqueue : self.queue = .request r :: rest) :
    Books draining { self with
      queue := rest, worker := .handling r, dispatched := self.dispatched ++ [r] } := by
  obtain ⟨horder, hindices, htaken, hwire, hlost, hsentinels, hqueued, hput, hcovered, hnoted⟩ :=
    hbooks
  refine ⟨?_, hindices, htaken, hwire, hlost, hsentinels, ?_, hput, ?_, hnoted⟩
  · rw [horder]
    simp [pending, hqueue, Item.request?]
  · rwa [hqueue, List.count_cons_of_ne (by simp)] at hqueued
  · rw [hqueue, List.idxOf_cons_ne _ (by simp)] at hcovered
    simp only [List.length_append, List.length_singleton]
    omega

/-- The worker closes the transport and leaves: at the end of a drain it has
dispatched everything from before it. -/
theorem sound_close_leave (hbooks : Books draining self)
    (hanswered : self.Undisturbed → self.responses.length = self.dispatched.length) {exit : Exit}
    (hexit : exit ≠ .cancelled)
    (hdrained : exit ≠ .closed → draining = true ∧ self.before_drain ≤ self.dispatched.length) :
    Sound draining (self.close_transport.leave exit) := by
  have hclosing : (self.close_transport.leave exit).Undisturbed →
      (self.close_transport.leave exit).responses.length =
        (self.close_transport.leave exit).dispatched.length := by
    intro hundisturbed
    have hkept : self.Undisturbed := (undisturbed_close_transport self).mp hundisturbed
    change self.close_transport.responses.length = self.close_transport.dispatched.length
    rw [responses_close_transport, dispatched_close_transport]
    exact hanswered hkept
  have hbefore : self.before_drain ≤ self.dispatched.length →
      (self.close_transport.leave exit).before_drain ≤
        (self.close_transport.leave exit).dispatched.length := by
    simp [Connection.leave]
  refine ⟨hbooks.close_transport.leave exit, ?_⟩
  cases exit with
  | idle =>
    obtain ⟨hdraining, hdispatched⟩ := hdrained (by simp)
    exact ⟨hdraining, hbefore hdispatched, hclosing⟩
  | sentinel =>
    obtain ⟨hdraining, hdispatched⟩ := hdrained (by simp)
    exact ⟨hdraining, hbefore hdispatched, hclosing⟩
  | closed => exact hclosing
  | cancelled => exact absurd rfl hexit

/-- The worker takes an item: it handles the request, or leaves at the sentinel. -/
theorem sound_take_item (hbooks : Books draining self) (hbetween : self.Between)
    (hawake : self.Awake) {item : Item} {rest : List Item} (hqueue : self.queue = item :: rest) :
    Sound draining ({ self with queue := rest }.take_item item) := by
  cases item with
  | sentinel =>
    have hdraining := hbooks.draining_of_sentinel (hqueue ▸ List.mem_cons_self)
    obtain ⟨hpopped, hbefore⟩ := hbooks.pop_sentinel hqueue
    exact sound_close_leave hpopped hbetween.1 (by simp) fun _ => ⟨hdraining, hbefore⟩
  | request r =>
    refine ⟨hbooks.pop_request hqueue, ?_, hbetween.2, _, rfl, hbetween.1⟩
    refine hawake.imp_right (Or.imp_right (And.imp_right fun hsentinel => ?_))
    rw [hqueue] at hsentinel
    exact (List.mem_cons.mp hsentinel).resolve_left (by simp)

/-- The loop of the worker from its top to the next wait. -/
theorem sound_loop_top (hbooks : Books draining self) (hbetween : self.Between)
    (hawake : self.Awake) : Sound draining (self.loop_top draining) := by
  unfold loop_top
  split
  · rename_i hempty
    cases draining with
    | true =>
      have hcovered := hbooks.covered
      rw [hempty, List.idxOf_nil] at hcovered
      exact sound_close_leave hbooks hbetween.1 (by simp) fun _ => ⟨rfl, by simpa using hcovered⟩
    | false => exact ⟨hbooks.set_tasks _ Iff.rfl, hbetween, hawake⟩
  · rename_i item rest hqueue
    exact sound_take_item hbooks hbetween hawake hqueue

/-- A step of the worker that handles no request. -/
theorem Sound.run_worker (hsound : Sound draining self) {next : Connection}
    (hnext : self.run_worker draining = some next) : Sound draining next := by
  obtain ⟨hbooks, hat⟩ := hsound
  -- Whoever is cancelled has lost the connection.
  have hlost : self.cancelling = true → ¬self.Undisturbed := by
    intro hcancelling hundisturbed
    have hattached := hundisturbed.1
    rw [(hbooks.lost hcancelling).1] at hattached
    cases hattached
  obtain ⟨hcancelling, rfl | rfl⟩ | ⟨-, hworker, rfl⟩ | ⟨-, hworker, item, rest, hqueue, rfl⟩ :=
    run_worker_cases hnext
  · exact ⟨hbooks.set_tasks _ Iff.rfl, fun hundisturbed => absurd hundisturbed (hlost hcancelling)⟩
  · exact ⟨hbooks.leave _, fun hundisturbed => absurd hundisturbed (hlost hcancelling)⟩
  · rw [hworker] at hat
    obtain ⟨hbetween, habsent⟩ := hat
    have hmade : Books draining { self with waker := .created } :=
      hbooks.set_tasks self.worker (by simp [habsent])
    exact sound_loop_top hmade hbetween (Or.inl rfl)
  · rw [hworker] at hat
    obtain ⟨hbetween, hawake⟩ := hat
    exact sound_take_item hbooks hbetween hawake hqueue

/-- The response of the request at hand is written in its place. -/
theorem Books.push_response (hbooks : Books draining self) (hopen : self.is_open = true)
    {index : Nat} (hindex : index = self.responses.length) (raw : Bytes) :
    Books draining (self.push (.response index raw)) := by
  obtain ⟨-, hclose, habort⟩ := is_open_iff.mp hopen
  obtain ⟨horder, hindices, htaken, hwire, hlost, hsentinels, hqueued, hput, hcovered, hnoted⟩ :=
    hbooks
  subst hindex
  exact ⟨horder, hindices, fun _ => htaken hopen, hwire.push_response hclose habort raw, hlost,
    hsentinels, hqueued, hput, hcovered, hnoted⟩

/-- The place of a request in the stream is the number of those put on the queue
before it. -/
theorem Books.index_eq (hbooks : Books draining self) {earlier : List Request} {r : Request}
    (hdispatched : self.dispatched = earlier ++ [r]) : r.index = earlier.length := by
  have hindices := hbooks.indices
  rw [hbooks.order, hdispatched, List.append_assoc, List.singleton_append, List.map_append,
    List.map_cons] at hindices
  have hget := congrArg (fun indices => indices[earlier.length]?) hindices
  simpa using hget

/-- The response that the worker writes is the next one. -/
theorem Sound.index_eq (hsound : Sound draining self) (hopen : self.is_open = true) {r : Request}
    (hworker : self.worker = .handling r) : r.index = self.responses.length ∧
      self.dispatched.length = self.responses.length + 1 := by
  have hat := hsound.worker
  rw [hworker] at hat
  obtain ⟨-, -, earlier, hdispatched, hanswered⟩ := hat
  rw [hanswered (hsound.books.undisturbed hopen), hsound.books.index_eq hdispatched, hdispatched]
  simp

/-- A step of the worker when `dispatch` is over: the response goes out on an open
transport, and no other op does. -/
theorem Sound.finish_dispatch (hsound : Sound draining self) {date : Bytes}
    {outcome : Request → Except Exc (Bytes × Bool)} {next : Connection}
    (hnext : self.finish_dispatch draining date outcome = some next) : Sound draining next := by
  obtain ⟨r, hworker, hends⟩ := finish_dispatch_cases hnext
  have hbooks := hsound.books
  have hat := hsound.worker
  rw [hworker] at hat
  obtain ⟨hawake, hclosed, earlier, hdispatched, hanswered⟩ := hat
  obtain ⟨-, rfl⟩ | ⟨hopen, raw, hwritten⟩ | ⟨hshut, rfl⟩ := hends
  · exact ⟨hbooks.leave _, fun hundisturbed => ⟨earlier, r, hdispatched, hanswered hundisturbed⟩⟩
  · obtain ⟨hindex, hlast⟩ := hsound.index_eq hopen hworker
    have hpushed := hbooks.push_response hopen hindex raw
    have hcount : (self.push (.response r.index raw)).responses.length =
        (self.push (.response r.index raw)).dispatched.length := by
      simp only [push, responses, List.filterMap_append, List.filterMap_cons, Op.responds,
        List.filterMap_nil, List.length_append, List.length_singleton]
      exact hlast.symm
    obtain rfl | rfl := hwritten
    · refine sound_loop_top hpushed ⟨fun _ => hcount, fun hclose => ?_⟩ hawake
      have hbefore : .close ∈ self.ops := by simpa [push] using hclose
      exact absurd hbefore (is_open_iff.mp hopen).2.1
    · exact sound_close_leave hpushed (fun _ => hcount) (by simp) (by simp)
  · -- An undisturbed transport that is not open was closed by a worker that has left.
    refine sound_loop_top hbooks ⟨fun hundisturbed => ?_, hclosed⟩ hawake
    obtain ⟨hattached, habort, hrefused⟩ := hundisturbed
    have hopen : self.is_open = true := by
      refine is_open_iff.mpr ⟨hattached, fun hclose => ?_, habort⟩
      rw [hclosed hclose] at hrefused
      cases hrefused
    rw [hopen] at hshut
    cases hshut

/-- What holds at a point of the worker goes on to hold while others act, as long as
they answer nothing, dispatch nothing and leave the waker at its task. -/
theorem At.frame {worker : Worker} (hat : self.At draining worker) {other : Connection}
    {later : Bool} (hdraining : draining = true → later = true)
    (hundisturbed : other.Undisturbed → self.Undisturbed)
    (hresponses : other.responses = self.responses)
    (hdispatched : other.dispatched = self.dispatched)
    (hbefore : draining = true → other.before_drain = self.before_drain)
    (hclosed : (.close ∈ self.ops → self.answered_400 = true) → .close ∈ other.ops →
      other.answered_400 = true)
    (hawake : self.Awake → other.Awake) (habsent : self.waker = .absent → other.waker = .absent) :
    other.At later worker := by
  have hbetween : self.Between → other.Between := by
    rintro ⟨hanswered, hclose⟩
    refine ⟨fun h => ?_, hclosed hclose⟩
    rw [hresponses, hdispatched]
    exact hanswered (hundisturbed h)
  have hleft : (draining = true ∧ self.before_drain ≤ self.dispatched.length ∧
      (self.Undisturbed → self.responses.length = self.dispatched.length)) →
        later = true ∧ other.before_drain ≤ other.dispatched.length ∧
          (other.Undisturbed → other.responses.length = other.dispatched.length) := by
    rintro ⟨hdrain, hcovered, hanswered⟩
    refine ⟨hdraining hdrain, ?_, fun h => ?_⟩
    · rwa [hbefore hdrain, hdispatched]
    · rw [hresponses, hdispatched]
      exact hanswered (hundisturbed h)
  cases worker with
  | absent => exact hat
  | created => exact ⟨hbetween hat.1, habsent hat.2⟩
  | getting => exact ⟨hbetween hat.1, hawake hat.2⟩
  | handling r =>
    obtain ⟨hwake, hclose, earlier, hlast, hanswered⟩ := hat
    refine ⟨hawake hwake, hclosed hclose, earlier, hdispatched.trans hlast, fun h => ?_⟩
    rw [hresponses]
    exact hanswered (hundisturbed h)
  | exited exit =>
    cases exit with
    | idle => exact hleft hat
    | sentinel => exact hleft hat
    | closed =>
      intro h
      rw [hresponses, hdispatched]
      exact hat (hundisturbed h)
    | cancelled =>
      intro h
      obtain ⟨earlier, r, hlast, hanswered⟩ := hat (hundisturbed h)
      exact ⟨earlier, r, hdispatched.trans hlast, by rw [hresponses, hanswered]⟩

/-- The loop closes or aborts the transport, or finds it gone. -/
theorem Sound.transport_closed (hsound : Sound draining self) (hopen : self.is_open = true) :
    Sound draining (self.push .abort) := by
  obtain ⟨hbooks, hat⟩ := hsound
  refine ⟨hbooks.append_ops hopen (by simp) (by simp [Op.responds])
    (by simp [Op.is_bad_request]), ?_⟩
  have hdisturbed : ¬(self.push .abort).Undisturbed := fun h => h.2.1 (by simp [push])
  exact hat.frame id (fun h => absurd h hdisturbed) (by simp [push, responses, Op.responds]) rfl
    (fun _ => rfl) (by simp [push, answered_400, Op.is_bad_request]) id id

theorem Sound.connection_lost (hsound : Sound draining self) :
    Sound draining (self.connection_lost draining) := by
  obtain ⟨hbooks, hat⟩ := hsound
  obtain ⟨horder, hindices, htaken, hwire, hlost, hsentinels, hqueued, hput, hcovered, hnoted⟩ :=
    hbooks
  have hdisturbed : ¬(self.connection_lost draining).Undisturbed := by
    rintro ⟨hattached, -⟩
    cases hattached
  refine ⟨⟨horder, hindices, fun hopen => ?_, hwire, fun hcancelling => ⟨rfl, ?_⟩, hsentinels,
    hqueued, hput, hcovered, hnoted⟩, ?_⟩
  · cases hopen
  · simp only [Connection.connection_lost, Bool.or_eq_true, Bool.and_eq_true,
      Bool.not_eq_true'] at hcancelling
    obtain hbefore | ⟨hquiet, -⟩ := hcancelling
    · exact (hlost hbefore).2
    · exact Bool.eq_false_iff.mpr fun hopen => by simp [hnoted hopen] at hquiet
  · exact hat.frame id (fun h => absurd h hdisturbed) rfl rfl (fun _ => rfl) id id id

/-- The sentinel is put behind everything that is on the queue. -/
theorem Books.put_sentinel (hbooks : Books true self) (hput : self.waker ≠ .put) :
    Books true self.put_sentinel := by
  obtain ⟨horder, hindices, htaken, hwire, hlost, hsentinels, hqueued, -, hcovered, hnoted⟩ :=
    hbooks
  rw [if_neg hput] at hsentinels
  refine ⟨?_, hindices, htaken, hwire, hlost, ?_, ?_, fun _ => rfl, ?_, hnoted⟩
  · rw [Connection.put_sentinel, pending, List.filterMap_append]
    simp only [List.filterMap_cons, Item.request?, List.filterMap_nil, List.append_nil]
    exact horder
  · simp [Connection.put_sentinel, hsentinels]
  · simp only [Connection.put_sentinel, List.count_append, List.count_singleton_self]
    omega
  · have hlater := (List.prefix_append self.queue [Item.sentinel]).idxOf_le Item.sentinel
    simp only [Connection.put_sentinel]
    omega

/-- A step of the waker: once the drain has begun it puts the sentinel. -/
theorem Sound.run_waker (hsound : Sound draining self) {event_set : Bool}
    (hevent : event_set = true → draining = true) {next : Connection}
    (hnext : self.run_waker event_set = some next) : Sound draining next := by
  obtain ⟨hbooks, hat⟩ := hsound
  obtain ⟨hset, hwaker, rfl⟩ | ⟨hwaker, rfl⟩ := run_waker_cases hnext
  · obtain rfl := hevent hset
    have hput : self.waker ≠ .put := by
      intro hput
      rw [hput] at hwaker
      simp at hwaker
    have habsent : self.waker ≠ .absent := by
      intro habsent
      rw [habsent] at hwaker
      simp at hwaker
    refine ⟨hbooks.put_sentinel hput, hat.frame id id rfl rfl (fun _ => rfl) id (fun _ => ?_)
      (fun h => absurd h habsent)⟩
    exact Or.inr (Or.inr ⟨rfl, by simp [Connection.put_sentinel]⟩)
  · refine ⟨hbooks.set_tasks _ (by simp [hwaker]), ?_⟩
    exact hat.frame id id rfl rfl (fun _ => rfl) id (fun _ => Or.inr (Or.inl rfl))
      (fun h => by simp [hwaker] at h)

/-- The drain begins. -/
theorem Sound.note_drain (hsound : Sound false self) : Sound true self.note_drain := by
  obtain ⟨hbooks, hat⟩ := hsound
  have hsentinel : .sentinel ∉ self.queue := by
    intro hmem
    have hdraining := hbooks.draining_of_sentinel hmem
    cases hdraining
  obtain ⟨horder, hindices, htaken, hwire, hlost, hsentinels, hqueued, hput, hcovered, hnoted⟩ :=
    hbooks
  refine ⟨⟨horder, hindices, htaken, hwire, fun hcancelling => ?_, hsentinels, hqueued,
    fun _ => rfl, ?_, fun _ => rfl⟩, ?_⟩
  · have hattached := (hlost hcancelling).1
    exact ⟨hattached, by simp [Connection.note_drain, is_open, hattached]⟩
  · have hwaiting := List.length_filterMap_le Item.request? self.queue
    have hbehind := List.idxOf_eq_length hsentinel
    have henqueued := congrArg List.length horder
    rw [List.length_append, pending] at henqueued
    change self.enqueued.length ≤ self.dispatched.length + self.queue.idxOf .sentinel
    omega
  · exact hat.frame (by simp) id rfl rfl (by simp) id id id

theorem filterMap_request (rs : List Request) :
    (rs.map Item.request).filterMap Item.request? = rs := by
  induction rs with
  | nil => rfl
  | cons r rest ih => rw [List.map_cons, List.filterMap_cons, Item.request?, ih]

/-- A segment: its requests go on the queue under the next places in the stream. -/
theorem Books.receive (hbooks : Books draining self) (hopen : self.is_open = true)
    {ops : List Op} {collector : Collector} {taken : Nat} {rs : List Request} (hwire : Wire ops)
    (hindex : rs.map Request.index = List.range' self.taken rs.length)
    (htaken : .close ∉ ops → .abort ∉ ops → taken = self.taken + rs.length) :
    Books draining { self with
      ops, collector, taken
      queue := self.queue ++ rs.map .request
      enqueued := self.enqueued ++ rs } := by
  have hplace := hbooks.taken hopen
  obtain ⟨horder, hindices, -, -, hlost, hsentinels, hqueued, hput, hcovered, hnoted⟩ :=
    hbooks
  refine ⟨?_, ?_, fun hstays => ?_, hwire, hlost, hsentinels, ?_, hput, ?_, hnoted⟩
  · rw [pending, List.filterMap_append, filterMap_request, horder, List.append_assoc, pending]
  · have hsplit := List.range'_append_1 (s := 0) (m := self.enqueued.length) (n := rs.length)
    rw [Nat.zero_add] at hsplit
    rw [List.map_append, hindices, hindex, hplace, List.length_append, List.range_eq_range',
      List.range_eq_range', hsplit]
  · obtain ⟨-, hclose, habort⟩ := is_open_iff.mp hstays
    rw [List.length_append, ← hplace]
    exact htaken hclose habort
  · have hnone : (rs.map Item.request).count .sentinel = 0 := by
      simp [List.count_eq_zero]
    rw [List.count_append, hnone, Nat.add_zero]
    exact hqueued
  · have hlater := (List.prefix_append self.queue (rs.map .request)).idxOf_le Item.sentinel
    change self.before_drain ≤ self.dispatched.length + (self.queue ++ _).idxOf .sentinel
    omega

/-- What a segment does to an open transport answers no request of the worker, and
closes it behind a 400 only. -/
theorem received_ops {interim tail : List Op} {request : Nat} {raw : Bytes}
    (hinterim : ∀ op ∈ interim, ∃ request, op = Op.continue_100 request)
    (htail : tail = [] ∨ tail = [.abort] ∨ tail = [.bad_request request raw, .close]) :
    ((interim ++ tail).Pairwise fun earlier later =>
        later.is_write = true → earlier.is_write = true) ∧
      (interim ++ tail).filterMap Op.responds = [] ∧
      ((interim ++ tail).any Op.is_bad_request = true ↔ .close ∈ interim ++ tail) := by
  induction interim with
  | nil =>
    obtain rfl | rfl | rfl := htail <;> simp [Op.is_write, Op.responds, Op.is_bad_request]
  | cons op rest ih =>
    obtain ⟨place, rfl⟩ := hinterim op List.mem_cons_self
    obtain ⟨hquiet, hresponds, hrefused⟩ := ih fun other hmem =>
      hinterim other (List.mem_cons_of_mem _ hmem)
    refine ⟨?_, ?_, ?_⟩
    · exact List.pairwise_cons.mpr ⟨fun _ _ _ => rfl, hquiet⟩
    · exact (List.filterMap_cons_none rfl).trans hresponds
    · simpa [Op.is_bad_request] using hrefused

theorem Sound.data_received (hsound : Sound draining self) (hopen : self.is_open = true)
    (parse_url : ParseUrl) (date : Bytes) (feed : Feed) :
    Sound draining (self.read_ready parse_url date feed) := by
  obtain ⟨hbooks, hat⟩ := hsound
  obtain ⟨interim, tail, collector, taken, rs, hinterim, heq, hindex, hcases⟩ :=
    read_ready_cases parse_url date feed hopen
  obtain ⟨hattached, hclose, habort⟩ := is_open_iff.mp hopen
  obtain ⟨hquiet, hresponds, hrefused⟩ := received_ops hinterim
    (hcases.imp (fun h => h.1) (Or.imp (fun h => h.1) (fun h => h.1)))
  rw [heq, List.append_assoc]
  have htaken : .close ∉ self.ops ++ (interim ++ tail) → .abort ∉ self.ops ++ (interim ++ tail) →
      taken = self.taken + rs.length := by
    intro hstays hkept
    obtain ⟨-, htaken, -⟩ | ⟨rfl, -⟩ | ⟨rfl, -⟩ := hcases
    · exact htaken
    · simp at hkept
    · simp at hstays
  refine ⟨hbooks.receive hopen (hbooks.wire.append hclose habort hquiet hresponds hrefused.mp)
    hindex htaken, ?_⟩
  refine hat.frame id (fun _ => hbooks.undisturbed hopen) ?_ rfl (fun _ => rfl) ?_ ?_ id
  · rw [responses, List.filterMap_append, hresponds, List.append_nil, responses]
  · intro _ hclosed
    have hlater := (List.mem_append.mp hclosed).resolve_left hclose
    rw [answered_400, List.any_append, hrefused.mpr hlater, Bool.or_true]
  · exact Or.imp_right (Or.imp_right (And.imp_right (List.mem_append_left _)))

/-- Whatever happens on a connection, its invariant is kept. -/
theorem Sound.act {Data : Type} {parse_url : ParseUrl} {handler : Handler}
    (hsound : Sound handler.draining self)
    (hevent : handler.drain_event = some true → handler.draining = true) {act : Act Data}
    {next : Connection} (hnext : self.act parse_url handler act = some next) :
    Sound handler.draining next := by
  cases act with
  | data_received date feed =>
    obtain ⟨hopen, rfl⟩ := act_data_received hnext
    exact hsound.data_received hopen parse_url date feed
  | transport_closed =>
    obtain ⟨hopen, rfl⟩ := act_transport_closed hnext
    exact hsound.transport_closed hopen
  | connection_lost =>
    obtain ⟨-, rfl⟩ := act_connection_lost hnext
    exact hsound.connection_lost
  | worker => exact hsound.run_worker hnext
  | waker => exact hsound.run_waker (fun hset => hevent (of_decide_eq_true hset)) hnext
  | dispatched date calls => exact hsound.finish_dispatch hnext

/-- How many requests the worker is through with. One that it handles, or was
cancelled over, is not among them. -/
def handled (self : Connection) : Nat :=
  match self.worker with
  | .handling _ => self.dispatched.length - 1
  | .exited .cancelled => self.dispatched.length - 1
  | _ => self.dispatched.length

/-- An undisturbed connection has the responses to all of them. -/
theorem responses_eq_handled (hsound : self.Sound draining) (hundisturbed : self.Undisturbed) :
    self.responses.length = self.handled := by
  have hat := hsound.worker
  unfold handled
  cases hworker : self.worker with
  | absent =>
    rw [hworker] at hat
    cases hat
  | created =>
    rw [hworker] at hat
    exact hat.1.1 hundisturbed
  | getting =>
    rw [hworker] at hat
    exact hat.1.1 hundisturbed
  | handling r =>
    rw [hworker] at hat
    obtain ⟨-, -, earlier, hdispatched, hanswered⟩ := hat
    simp [hdispatched, hanswered hundisturbed]
  | exited exit =>
    rw [hworker] at hat
    cases exit with
    | idle => exact hat.2.2 hundisturbed
    | sentinel => exact hat.2.2 hundisturbed
    | closed => exact hat hundisturbed
    | cancelled =>
      obtain ⟨earlier, r, hdispatched, hanswered⟩ := hat hundisturbed
      simp [hdispatched, hanswered]

end Connection

end massless.protocol
