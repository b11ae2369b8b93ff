import Massless.Protocol.Inflight
import Massless.Protocol.Runs
import Massless.Transition.Refinement

open python
open transition

namespace massless.protocol

namespace Connection

/-- A connection without what was noted of it when a drain began. -/
def unnoted (self : Connection) : Connection :=
  { self with before_drain := 0, open_at_drain := false }

variable (self : Connection)

theorem is_open_unnoted : self.unnoted.is_open = self.is_open := rfl

theorem close_transport_unnoted :
    self.unnoted.close_transport = self.close_transport.unnoted := by
  unfold close_transport
  rw [is_open_unnoted]
  split <;> rfl

theorem push_unnoted (op : Op) : self.unnoted.push op = (self.push op).unnoted := rfl

theorem leave_unnoted (exit : Exit) : self.unnoted.leave exit = (self.leave exit).unnoted := rfl

theorem take_item_unnoted (item : Item) :
    self.unnoted.take_item item = (self.take_item item).unnoted := by
  cases item with
  | sentinel => rw [take_item, take_item, close_transport_unnoted, leave_unnoted]
  | request r => rfl

theorem loop_top_unnoted (draining : Bool) :
    self.unnoted.loop_top draining = (self.loop_top draining).unnoted := by
  have hqueue : self.unnoted.queue = self.queue := rfl
  unfold loop_top
  rw [hqueue]
  cases self.queue with
  | nil =>
    cases draining with
    | true => simp only [if_true, close_transport_unnoted, leave_unnoted]
    | false => rfl
  | cons item rest => exact take_item_unnoted { self with queue := rest } item

theorem run_worker_unnoted (draining : Bool) :
    self.unnoted.run_worker draining = (self.run_worker draining).map unnoted := by
  -- field by field, what the step sets is no longer mixed with what it keeps
  obtain ⟨made, attached, ops, peer, sockname, collector, queue, worker, cancelling, waker, taken,
    enqueued, dispatched, sentinels, before_drain, open_at_drain⟩ := self
  cases worker with
  | created =>
    cases cancelling with
    | true => rfl
    | false =>
      exact congrArg some (loop_top_unnoted ⟨made, attached, ops, peer, sockname, collector, queue,
        .created, false, .created, taken, enqueued, dispatched, sentinels, before_drain,
        open_at_drain⟩ draining)
  | getting =>
    cases cancelling with
    | true => rfl
    | false =>
      cases queue with
      | nil => rfl
      | cons item rest =>
        exact congrArg some (take_item_unnoted ⟨made, attached, ops, peer, sockname, collector,
          rest, .getting, false, waker, taken, enqueued, dispatched, sentinels, before_drain,
          open_at_drain⟩ item)
  | _ => rfl

theorem respond_unnoted (draining : Bool) (r : Request) (raw : Bytes) (keep_alive : Bool) :
    self.unnoted.respond draining r raw keep_alive =
      (self.respond draining r raw keep_alive).unnoted := by
  unfold respond
  rw [is_open_unnoted]
  cases self.is_open with
  | false => exact loop_top_unnoted self draining
  | true =>
    simp only [if_true, push_unnoted, loop_top_unnoted, close_transport_unnoted, leave_unnoted]
    split <;> rfl

theorem finish_dispatch_unnoted (draining : Bool) (date : Bytes)
    (outcome : Request → Except Exc (Bytes × Bool)) :
    self.unnoted.finish_dispatch draining date outcome =
      (self.finish_dispatch draining date outcome).map unnoted := by
  have hworker : self.unnoted.worker = self.worker := rfl
  unfold finish_dispatch
  rw [hworker]
  cases self.worker with
  | handling r =>
    cases hanswer : answer date r (outcome r) with
    | none => simp only [hanswer, leave_unnoted, Option.map_some]
    | some answered => simp only [hanswer, respond_unnoted, Option.map_some]
  | _ => rfl

theorem run_waker_unnoted (event_set : Bool) :
    self.unnoted.run_waker event_set = (self.run_waker event_set).map unnoted := by
  have hwaker : self.unnoted.waker = self.waker := rfl
  unfold run_waker
  rw [hwaker]
  cases self.waker <;> cases event_set <;> rfl

theorem receive_unnoted (callback : Callback) :
    self.unnoted.receive callback = (self.receive callback).unnoted := by
  cases callback with
  | on_headers_complete version =>
    have hcloses : self.unnoted.is_closing = self.is_closing := rfl
    have hmade : self.unnoted.made = self.made := rfl
    have hexpects : self.unnoted.collector = self.collector := rfl
    simp only [receive, hcloses, hmade, hexpects]
    split <;> rfl
  | _ => rfl

theorem enqueue_unnoted (parse_url : ParseUrl) (index : Nat) (messages : List Message) :
    enqueue parse_url self.unnoted index messages =
      (enqueue parse_url self index messages).map id unnoted := by
  induction messages generalizing self index with
  | nil => rfl
  | cons message rest ih =>
    unfold enqueue
    cases hparsed : parse_url message.url with
    | error e => simp only [Prod.map, id]
    | ok parsed => exact ih (self.put_request (self.to_request index message parsed)) (index + 1)

theorem data_received_unnoted (parse_url : ParseUrl) (date : Bytes) (feed : Feed) :
    self.unnoted.data_received parse_url date feed =
      (self.data_received parse_url date feed).map id unnoted := by
  have hread : feed.callbacks.foldl receive self.unnoted =
      (feed.callbacks.foldl receive self).unnoted :=
    List.foldl_hom unnoted receive_unnoted
  unfold data_received
  rw [hread]
  generalize feed.callbacks.foldl receive self = read
  cases herror : feed.error with
  | none =>
    exact enqueue_unnoted { read with
      collector := read.collector.take.2
      taken := read.taken + read.collector.take.1.length } parse_url read.taken
        read.collector.take.1
  | some e =>
    have hcompleted : read.unnoted.completed = read.completed := rfl
    simp only [is_open_unnoted, hcompleted, push_unnoted, close_transport_unnoted]
    split
    · split <;> rfl
    · rfl

theorem read_ready_unnoted (parse_url : ParseUrl) (date : Bytes) (feed : Feed) :
    self.unnoted.read_ready parse_url date feed =
      (self.read_ready parse_url date feed).unnoted := by
  unfold read_ready
  rw [data_received_unnoted]
  rcases self.data_received parse_url date feed with ⟨_ | _, next⟩ <;> rfl

/-- What was noted changes no step, and a step reads of the handler only whether it drains. -/
theorem act_unnoted {Data : Type} (parse_url : ParseUrl) {handler other : Handler}
    (hdraining : other.draining = handler.draining)
    (hevent : other.drain_event = handler.drain_event) (act : Act Data) :
    self.unnoted.act parse_url other act =
      (self.act parse_url handler act).map unnoted := by
  have hattached : self.unnoted.attached = self.attached := rfl
  cases act with
  | data_received date feed =>
    simp only [Connection.act, is_open_unnoted, read_ready_unnoted]
    split <;> rfl
  | transport_closed =>
    rw [Connection.act, Connection.act, is_open_unnoted]
    split <;> rfl
  | connection_lost =>
    simp only [Connection.act, hattached, hdraining]
    split <;> rfl
  | worker => simp only [Connection.act, hdraining, run_worker_unnoted]
  | waker => simp only [Connection.act, hevent, run_waker_unnoted]
  | dispatched date calls => simp only [Connection.act, hdraining, finish_dispatch_unnoted]

end Connection

/-- Where a connection has a step, the worker with its registry has one. -/
theorem Turn.act_isSome {Data : Type} {parse_url : ParseUrl} {handler : Handler} {c : Nat}
    {self : Turn} {act : Act Data} {next : Connection}
    (hnext : self.conn.act parse_url handler act = some next) :
    (self.act parse_url handler c act).isSome = true := by
  cases act with
  | worker =>
    simp only [Connection.act, Connection.run_worker] at hnext
    cases hworker : self.conn.worker with
    | created =>
      simp only [Turn.act, hworker]
      split <;> rfl
    | getting =>
      cases hcancelling : self.conn.cancelling with
      | true => simp [Turn.act, hworker, hcancelling]
      | false =>
        cases hqueue : self.conn.queue with
        | nil => simp [hworker, hcancelling, hqueue] at hnext
        | cons item rest => simp [Turn.act, hworker, hcancelling, hqueue]
    | _ => simp [hworker] at hnext
  | dispatched date calls =>
    obtain ⟨r, hworker, -⟩ := Connection.finish_dispatch_cases hnext
    simp [Turn.act, hworker]
  | _ => simp [Turn.act, hnext]

namespace Server

variable {Data : Type} {parse_url : ParseUrl} {s t : Server}

/-- The futures in flight are those of the requests that are handled, and no others. -/
def InFlight (s : Server) : Prop :=
  ∀ c index, (c, index) ∈ s.handler.inflight ↔
    ∃ conn r, s.conns[c]? = some conn ∧ conn.worker = .handling r ∧ r.index = index

theorem in_flight_new : InFlight new := by simp [InFlight, new]

theorem mem_future {c d index : Nat} {worker : Worker} :
    (d, index) ∈ worker.future c ↔ d = c ∧ ∃ r, worker = .handling r ∧ r.index = index := by
  cases worker <;> simp [Worker.future, eq_comm]

theorem InFlight.step (hflight : s.InFlight) {a : Action Data}
    (hstep : s.step parse_url a = some t) : t.InFlight := by
  intro d index
  cases a with
  | connection_made peer sockname =>
    simp only [Server.step, Option.some.injEq] at hstep
    subst hstep
    refine (hflight d index).trans ⟨?_, ?_⟩
    · rintro ⟨conn, r, hconn, hworker, hindex⟩
      have hbound := (List.getElem?_eq_some_iff.mp hconn).1
      exact ⟨conn, r, by rwa [List.getElem?_append_left hbound], hworker, hindex⟩
    · rintro ⟨conn, r, hconn, hworker, hindex⟩
      obtain hbefore | rfl := getElem?_joined hconn
      · exact ⟨conn, r, hbefore, hworker, hindex⟩
      · cases hworker
  | connection c act =>
    obtain ⟨conn, next, hconn, hnext, rfl⟩ := step_connection hstep
    have hbound := (List.getElem?_eq_some_iff.mp hconn).1
    have hfutures : (s.handler.make_event act).inflight = s.handler.inflight := by cases act <;> rfl
    simp only [Handler.track, hfutures, List.mem_append, List.mem_filter, decide_eq_true_eq,
      mem_future, hflight d index]
    by_cases hsame : d = c
    · subst hsame
      simp only [hconn, List.getElem?_set_self hbound, true_and]
      constructor
      · rintro (⟨⟨other, r, hother, hworker, hindex⟩, hgone⟩ | ⟨r, hworker, hindex⟩)
        · obtain rfl := Option.some.inj hother
          exact absurd ⟨r, hworker, hindex⟩ hgone
        · exact ⟨next, r, rfl, hworker, hindex⟩
      · rintro ⟨other, r, hother, hworker, hindex⟩
        obtain rfl := Option.some.inj hother
        exact Or.inr ⟨r, hworker, hindex⟩
    · simp [hsame, Ne.symm hsame]
  | stop =>
    obtain ⟨-, rfl⟩ := step_stop hstep
    simpa [Handler.begin_drain, Connection.note_drain, and_assoc] using hflight d index
  | drain act =>
    obtain ⟨hhandler, hsame, -⟩ := drain_act_kept hstep
    rw [hhandler, hsame]
    exact hflight d index

end Server

/-- What a server sees of a step of the process. Its `_drain` waits without a clock. -/
def Move.seen {Data : Type} : Move Data → Option (Action Data)
  | .connection_made peer sockname => some (.connection_made peer sockname)
  | .connection c act => some (.connection c act)
  | .stop _ => some .stop
  | .cancel _ => none
  | .tick _ => none
  | .wake => none

/-- What a process sees of a step of the server, which drains for as long. -/
def Action.seen {Data : Type} (timeout : Nat) : Action Data → Option (Move Data)
  | .connection_made peer sockname => some (.connection_made peer sockname)
  | .connection c act => some (.connection c act)
  | .stop => some (.stop timeout)
  | .drain _ => none

namespace Process

variable {Data : Type} {parse_url : ParseUrl} {s : Process} {t : Server}

/-- A server that serves the connections of a process, with requests in flight on the same
ones. -/
structure Serves (s : Process) (t : Server) : Prop where
  conns : s.conns = t.conns.map Connection.unnoted
  draining : t.handler.draining = s.draining
  drain_event : t.handler.drain_event = s.drain_event
  idle : t.drain = .idle ↔ s.drain = .idle
  inflight : ∀ c : Nat, (∃ f ∈ s.inflight.registered, s.inflight.owner f = some c) ↔
    ∃ index, (c, index) ∈ t.handler.inflight

/-- The registered futures are those of the connections whose workers handle a request. -/
theorem Exact.registered_iff (hexact : s.Exact) (c : Nat) :
    (∃ f ∈ s.inflight.registered, s.inflight.owner f = some c) ↔
      ∃ conn r, s.conns[c]? = some conn ∧ conn.worker = .handling r := by
  have hcount := hexact.one_each c
  have hhandling : s.conns[c]?.any (·.worker.is_handling) = true ↔
      ∃ conn r, s.conns[c]? = some conn ∧ conn.worker = .handling r := by
    cases s.conns[c]? with
    | none => simp
    | some conn => cases hworker : conn.worker <;> simp [Worker.is_handling, hworker]
  rw [← hhandling]
  constructor
  · rintro ⟨f, hmem, howner⟩
    have hpositive : 0 < s.inflight.registered.countP fun f => s.inflight.owner f = some c :=
      List.countP_pos_iff.mpr ⟨f, hmem, decide_eq_true howner⟩
    rw [hcount] at hpositive
    by_contra hidle
    rw [if_neg hidle] at hpositive
    exact absurd hpositive (Nat.lt_irrefl 0)
  · intro hbusy
    rw [if_pos hbusy] at hcount
    obtain ⟨f, hmem, howner⟩ := List.countP_pos_iff.mp (hcount.symm ▸ Nat.one_pos)
    exact ⟨f, hmem, of_decide_eq_true howner⟩

/-- Where the requests are in flight follows from the connections. -/
theorem serves_of_conns (hsound : s.Sound) (hflight : t.InFlight)
    (hconns : s.conns = t.conns.map Connection.unnoted)
    (hdraining : t.handler.draining = s.draining) (hevent : t.handler.drain_event = s.drain_event)
    (hidle : t.drain = .idle ↔ s.drain = .idle) : s.Serves t := by
  refine ⟨hconns, hdraining, hevent, hidle, fun c => ?_⟩
  rw [hsound.exact.registered_iff c, hconns]
  constructor
  · rintro ⟨conn, r, hconn, hworker⟩
    rw [List.getElem?_map, Option.map_eq_some_iff] at hconn
    obtain ⟨served, hserved, rfl⟩ := hconn
    exact ⟨r.index, (hflight c r.index).mpr ⟨served, r, hserved, hworker, rfl⟩⟩
  · rintro ⟨index, hmem⟩
    obtain ⟨served, r, hserved, hworker, -⟩ := (hflight c index).mp hmem
    exact ⟨served.unnoted, r, by simp [hserved], hworker⟩

/-- The loop of `_drain` touches no connection, and goes on or is over. -/
theorem drain_loop_kept (s : Process) : s.drain_loop.conns = s.conns ∧
    s.drain_loop.draining = s.draining ∧ s.drain_loop.drain_event = s.drain_event ∧
    s.drain_loop.drain ≠ .idle := by
  unfold drain_loop
  split_ifs <;> simp

/-- A connection of the process steps as the one that the server has in its place. -/
theorem Serves.act_unnoted (hserves : s.Serves t) (served : Connection) (act : Act Data) :
    served.unnoted.act parse_url s.handler act =
      (served.act parse_url t.handler act).map Connection.unnoted :=
  served.act_unnoted parse_url hserves.draining.symm hserves.drain_event.symm act

/-- Where both take the same step, the server goes on serving the process. -/
theorem Serves.connection (hserves : s.Serves t) (hsound : s.Sound) (hflight : t.InFlight)
    {c : Nat} {act : Act Data} {s' : Process} {t' : Server}
    (hstep : s.step parse_url (.connection c act) = some s')
    (hnext : t.step parse_url (.connection c act) = some t') : s'.Serves t' := by
  have hafter := hsound.step hstep
  have hlater := hflight.step hnext
  obtain ⟨conn, done, outcome, turn, hconn, hdone, hact, rfl⟩ := step_connection hstep
  obtain ⟨-, hact, -⟩ := Turn.act_effect hact (hsound.handling c conn done hconn hdone)
    fun f hmem => hsound.held.lt_length hmem
  obtain ⟨served, after, hserved, hserved_act, rfl⟩ := Server.step_connection hnext
  have hsame : conn = served.unnoted := by
    rw [hserves.conns, List.getElem?_map, hserved] at hconn
    exact (Option.some.inj hconn).symm
  rw [hsame, hserves.act_unnoted, hserved_act] at hact
  have hturn : after.unnoted = turn.conn := Option.some.inj hact
  refine serves_of_conns hafter hlater ?_ ?_ ?_ ?_
  · simp only [List.map_set, ← hserves.conns, hturn]
  · cases act <;> exact hserves.draining
  · -- the waker makes the event in both, where there is none
    cases act with
    | waker => simp [Handler.make_event, Handler.track, handler, hserves.drain_event]
    | _ => exact hserves.drain_event
  · rw [Server.ran_idle_iff]
    exact hserves.idle

theorem Serves.stop (hserves : s.Serves t) (hsound : s.Sound) (hflight : t.InFlight)
    {timeout : Nat} {s' : Process} {t' : Server}
    (hstep : s.step parse_url (.stop timeout : Move Data) = some s')
    (hnext : t.step parse_url (.stop : Action Data) = some t') : s'.Serves t' := by
  have hafter := hsound.step hstep
  have hlater := hflight.step hnext
  simp only [Process.step, Option.ite_none_right_eq_some, Option.some.injEq] at hstep
  obtain ⟨-, rfl⟩ := hstep
  obtain ⟨-, rfl⟩ := Server.step_stop hnext
  obtain ⟨hsame, hkept, hset, hbegun⟩ := drain_loop_kept { s with
    draining := true
    drain_event := s.drain_event.map fun _ => true
    deadline := s.now + timeout }
  refine serves_of_conns hafter hlater ?_ ?_ ?_ ?_
  · rw [hsame, List.map_map]
    exact hserves.conns
  · rw [hkept]
    rfl
  · rw [hset, ← hserves.drain_event]
    rfl
  · exact iff_of_false (Server.check_inflight_ne_idle t.handler) hbegun

theorem Serves.connection_made (hserves : s.Serves t) (hsound : s.Sound) (hflight : t.InFlight)
    {peer sockname : Option (String × Int)} {s' : Process} {t' : Server}
    (hstep : s.step parse_url (.connection_made peer sockname : Move Data) = some s')
    (hnext : t.step parse_url (.connection_made peer sockname : Action Data) = some t') :
    s'.Serves t' := by
  have hafter := hsound.step hstep
  have hlater := hflight.step hnext
  obtain ⟨hconns, hdraining, hevent, hidle, -⟩ := hserves
  simp only [Process.step, Option.some.injEq] at hstep
  subst hstep
  simp only [Server.step, Option.some.injEq] at hnext
  subst hnext
  refine serves_of_conns hafter hlater ?_ hdraining hevent hidle
  rw [List.map_append, ← hconns]
  rfl

/-- A connection of the process has a step exactly where that of the server has it. -/
theorem Serves.connection_possible (hserves : s.Serves t) (hsound : s.Sound) {c : Nat}
    {act : Act Data} : (∃ s', s.step parse_url (.connection c act) = some s') ↔
      ∃ t', t.step parse_url (.connection c act) = some t' := by
  constructor
  · rintro ⟨s', hstep⟩
    obtain ⟨conn, next, hconn, hnext, -⟩ := hsound.step_conns hstep
    rw [hserves.conns, List.getElem?_map, Option.map_eq_some_iff] at hconn
    obtain ⟨served, hserved, rfl⟩ := hconn
    rw [hserves.act_unnoted, Option.map_eq_some_iff] at hnext
    obtain ⟨after, hafter, -⟩ := hnext
    simp [Server.step, hserved, hafter]
  · rintro ⟨t', hnext⟩
    obtain ⟨served, after, hserved, hafter, -⟩ := Server.step_connection hnext
    have hconn : s.conns[c]? = some served.unnoted := by
      rw [hserves.conns, List.getElem?_map, hserved, Option.map_some]
    have hbound := (List.getElem?_eq_some_iff.mp hconn).1
    rw [← hsound.dones] at hbound
    have hdone := List.getElem?_eq_getElem hbound
    have hnext : (⟨served.unnoted, s.dones[c], s.inflight⟩ : Turn).conn.act parse_url s.handler act =
        some after.unnoted := by rw [hserves.act_unnoted, hafter, Option.map_some]
    obtain ⟨⟨outcome, turn⟩, hturn⟩ := Option.isSome_iff_exists.mp (Turn.act_isSome (c := c) hnext)
    simp [Process.step, hconn, hdone, hturn]

/-- A server takes every step of the process that it sees. -/
theorem Serves.followed (hserves : s.Serves t) (hsound : s.Sound) (hflight : t.InFlight)
    {move : Move Data} {a : Action Data} {s' : Process} (hstep : s.step parse_url move = some s')
    (hseen : move.seen = some a) : ∃ t', t.step parse_url a = some t' ∧ s'.Serves t' := by
  cases move with
  | connection_made peer sockname =>
    obtain rfl := Option.some.inj hseen
    exact ⟨_, rfl, hserves.connection_made hsound hflight hstep rfl⟩
  | connection c act =>
    obtain rfl := Option.some.inj hseen
    obtain ⟨t', hnext⟩ := (hserves.connection_possible hsound).mp ⟨s', hstep⟩
    exact ⟨t', hnext, hserves.connection hsound hflight hstep hnext⟩
  | stop timeout =>
    obtain rfl := Option.some.inj hseen
    have hquiet := (Option.ite_none_right_eq_some.mp hstep).1
    obtain ⟨t', hnext⟩ : ∃ t', t.step parse_url (.stop : Action Data) = some t' :=
      ⟨_, if_pos (hserves.idle.mpr hquiet)⟩
    exact ⟨t', hnext, hserves.stop hsound hflight hstep hnext⟩
  | cancel c => cases hseen
  | tick time => cases hseen
  | wake => cases hseen

/-- The process takes every step of the server but those of its `_drain`. -/
theorem Serves.follows (hserves : s.Serves t) (hsound : s.Sound) (hflight : t.InFlight)
    {timeout : Nat} {a : Action Data} {move : Move Data} {t' : Server}
    (hnext : t.step parse_url a = some t') (hseen : a.seen timeout = some move) :
    ∃ s', s.step parse_url move = some s' ∧ s'.Serves t' := by
  cases a with
  | connection_made peer sockname =>
    obtain rfl := Option.some.inj hseen
    exact ⟨_, rfl, hserves.connection_made hsound hflight rfl hnext⟩
  | connection c act =>
    obtain rfl := Option.some.inj hseen
    obtain ⟨s', hstep⟩ := (hserves.connection_possible hsound).mpr ⟨t', hnext⟩
    exact ⟨s', hstep, hserves.connection hsound hflight hstep hnext⟩
  | stop =>
    obtain rfl := Option.some.inj hseen
    have hquiet := hserves.idle.mp (Server.step_stop hnext).1
    obtain ⟨s', hstep⟩ : ∃ s', s.step parse_url (.stop timeout : Move Data) = some s' :=
      ⟨_, if_pos hquiet⟩
    exact ⟨s', hstep, hserves.stop hsound hflight hstep hnext⟩
  | drain act => cases hseen

/-- `_drain` of the server touches nothing that the process has. -/
theorem Serves.drained (hserves : s.Serves t) {act : DrainAct} {t' : Server}
    (hnext : t.drain_act act = some t') : s.Serves t' := by
  obtain ⟨hhandler, hconns, hbefore, hafter, -⟩ := Server.drain_act_kept hnext
  refine ⟨?_, ?_, ?_, ?_, ?_⟩
  · rw [hconns]
    exact hserves.conns
  · rw [hhandler]
    exact hserves.draining
  · rw [hhandler]
    exact hserves.drain_event
  · exact iff_of_false hafter (mt hserves.idle.mpr hbefore)
  · rw [hhandler]
    exact hserves.inflight

/-- What it does not see changes nothing that it has. -/
theorem Serves.unseen (hserves : s.Serves t) (hsound : s.Sound) (hflight : t.InFlight)
    {move : Move Data} {s' : Process} (hstep : s.step parse_url move = some s')
    (hkept : ∀ c, move ≠ .cancel c) (hunseen : move.seen = none) : s'.Serves t := by
  have hafter := hsound.step hstep
  obtain ⟨hconns, hdraining, hevent, hidle, -⟩ := hserves
  cases move with
  | tick time =>
    simp only [Process.step, Option.some.injEq] at hstep
    subst hstep
    exact serves_of_conns hafter hflight hconns hdraining hevent hidle
  | wake =>
    obtain ⟨pending, hwaiting, -, rfl⟩ := wake_cases hstep
    obtain ⟨hsame, hdrains, hset, hbegun⟩ := drain_loop_kept s
    refine serves_of_conns hafter hflight (hsame.trans hconns) (hdraining.trans hdrains.symm)
      (hevent.trans hset.symm) (iff_of_false ?_ hbegun)
    rw [hidle, hwaiting]
    simp
  | cancel c => exact absurd rfl (hkept c)
  | connection_made peer sockname => cases hunseen
  | connection c act => cases hunseen
  | stop timeout => cases hunseen

end Process

/-- The process and a server that serves its connections, in states that can be reached. -/
def Together (s : Process) (t : Server) : Prop := s.Sound ∧ t.InFlight ∧ s.Serves t

theorem together_new : Together .new .new :=
  ⟨Process.sound_new, Server.in_flight_new, Process.serves_of_conns Process.sound_new
    Server.in_flight_new rfl rfl rfl (iff_of_true rfl rfl)⟩

/-- The process with its futures and its clock refines the server. -/
theorem process_refines (Data : Type) (parse_url : ParseUrl) :
    (process Data parse_url).Refines (server Data parse_url) (fun _ move => ∀ c, move ≠ .cancel c)
      Together Move.seen where
  init := by
    rintro s rfl
    exact ⟨.new, rfl, together_new⟩
  unseen := by
    rintro s t move s' ⟨hsound, hflight, hserves⟩ hkept hstep hunseen
    exact ⟨hsound.step hstep, hflight, hserves.unseen hsound hflight hstep hkept hunseen⟩
  seen := by
    rintro s t move a s' ⟨hsound, hflight, hserves⟩ - hstep hseen
    obtain ⟨t', hnext, hserved⟩ := hserves.followed hsound hflight hstep hseen
    exact ⟨t', hnext, hsound.step hstep, hflight.step hnext, hserved⟩

/-- The server adds nothing to what the process can do. -/
theorem server_refines (Data : Type) (parse_url : ParseUrl) (timeout : Nat) :
    (server Data parse_url).Refines (process Data parse_url) (fun _ _ => True)
      (fun t s => Together s t) (Action.seen timeout) where
  init := by
    rintro t rfl
    exact ⟨.new, rfl, together_new⟩
  unseen := by
    rintro t s a t' ⟨hsound, hflight, hserves⟩ - hnext hunseen
    change t.step parse_url a = some t' at hnext
    cases a with
    | drain act => exact ⟨hsound, hflight.step hnext, hserves.drained hnext⟩
    | _ => cases hunseen
  seen := by
    rintro t s a move t' ⟨hsound, hflight, hserves⟩ - hnext hseen
    obtain ⟨s', hstep, hserved⟩ := hserves.follows hsound hflight hnext hseen
    exact ⟨s', hstep, hsound.step hstep, hflight.step hnext, hserved⟩

/-- Every run of the process in which no worker is cancelled from outside is a run of the
server, step by step, with the same connections and requests in flight on the same ones, and
every run of the server is one of the process. -/
theorem runs_alike (Data : Type) (parse_url : ParseUrl) (timeout : Nat) :
    (∀ (steps : List (Process × Move Data)) (s : Process), (process Data parse_url).Run steps s →
      (∀ taken ∈ steps, ∀ c, taken.2 ≠ .cancel c) →
        ∃ (followed : List (Server × Action Data)) (t : Server),
          (server Data parse_url).Run followed t ∧ s.Serves t ∧
            List.Forall₂ (Machine.Seen Process.Serves Move.seen)
              (steps.filter fun taken => taken.2.seen.isSome) followed) ∧
      ∀ (steps : List (Server × Action Data)) (t : Server), (server Data parse_url).Run steps t →
        ∃ (followed : List (Process × Move Data)) (s : Process),
          (process Data parse_url).Run followed s ∧ s.Serves t ∧
            List.Forall₂ (Machine.Seen (fun t s => Process.Serves s t) (Action.seen timeout))
              (steps.filter fun taken => (taken.2.seen timeout).isSome) followed := by
  constructor
  · intro steps s hrun hkept
    obtain ⟨followed, t, hfollowed, ⟨-, -, hserves⟩, hsteps⟩ :=
      (process_refines Data parse_url).run hrun hkept
    exact ⟨followed, t, hfollowed, hserves, hsteps.imp fun _ _ hseen => ⟨hseen.1.2.2, hseen.2⟩⟩
  · intro steps t hrun
    obtain ⟨followed, s, hfollowed, ⟨-, -, hserves⟩, hsteps⟩ :=
      (server_refines Data parse_url timeout).run hrun fun _ _ => trivial
    exact ⟨followed, s, hfollowed, hserves, hsteps.imp fun _ _ hseen => ⟨hseen.1.2.2, hseen.2⟩⟩

theorem runs_alike_late_answer : ∃ steps s followed t,
    (process Unit fun url => .ok ⟨some url, none⟩).trace .new Process.late_answer =
        some (steps, s) ∧
      s.drain = .expired ∧ (server Unit fun url => .ok ⟨some url, none⟩).Run followed t ∧
      followed.length = 6 ∧ s.Serves t := by
  obtain ⟨⟨steps, s⟩, htrace⟩ := Option.isSome_iff_exists.mp
    (show ((process Unit fun url => .ok ⟨some url, none⟩).trace .new Process.late_answer).isSome =
      true from rfl)
  have hkept : ∀ taken ∈ steps, ∀ c, taken.2 ≠ .cancel c := by
    intro taken htaken c
    have hmove := List.mem_map_of_mem (f := Prod.snd) htaken
    rw [Machine.trace_actions htrace] at hmove
    simp only [Process.late_answer, List.mem_cons, List.not_mem_nil, or_false] at hmove
    obtain hmove | hmove | hmove | hmove | hmove | hmove | hmove | hmove := hmove <;> simp [hmove]
  obtain ⟨followed, t, hfollowed, hserves, hsteps⟩ := (runs_alike Unit
    (fun url => .ok ⟨some url, none⟩) 5).1 steps s (Machine.run_of_trace _ rfl htrace) hkept
  refine ⟨steps, s, followed, t, htrace, ?_, hfollowed, ?_, hserves⟩
  · cases htrace
    rfl
  · rw [← hsteps.length_eq]
    cases htrace
    rfl

end massless.protocol
