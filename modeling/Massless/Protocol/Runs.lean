import Massless.Protocol.Invariant

open python
open transition

namespace massless.protocol

namespace Connection

/-- What no step on a connection takes back: its history, what was put on the queue,
dispatched and done to the transport, and the loss of the transport. -/
structure Grows (conn next : Connection) : Prop where
  before_drain : next.before_drain = conn.before_drain
  open_at_drain : next.open_at_drain = conn.open_at_drain
  enqueued : conn.enqueued <+: next.enqueued
  dispatched : conn.dispatched <+: next.dispatched
  ops : conn.ops <+: next.ops
  attached : next.attached = true → conn.attached = true

theorem Grows.refl (self : Connection) : self.Grows self :=
  ⟨rfl, rfl, List.prefix_rfl, List.prefix_rfl, List.prefix_rfl, id⟩

theorem Grows.trans {self middle next : Connection} (hfirst : self.Grows middle)
    (hsecond : middle.Grows next) : self.Grows next :=
  ⟨hsecond.before_drain.trans hfirst.before_drain, hsecond.open_at_drain.trans hfirst.open_at_drain,
    hfirst.enqueued.trans hsecond.enqueued, hfirst.dispatched.trans hsecond.dispatched,
    hfirst.ops.trans hsecond.ops, fun h => hfirst.attached (hsecond.attached h)⟩

theorem Works.grows {tail : List Op} {self next : Connection} (hworks : Works tail self next) :
    self.Grows next := by
  obtain ⟨queue, worker, waker, sentinels, later, rfl⟩ := hworks
  exact ⟨rfl, rfl, List.prefix_rfl, List.prefix_append _ _, List.prefix_append _ _, id⟩

/-- Every step on a connection adds to its history. -/
theorem grows_act {Data : Type} {parse_url : ParseUrl} {handler : Handler} {self next : Connection}
    {act : Act Data} (hnext : self.act parse_url handler act = some next) : self.Grows next := by
  cases act with
  | data_received date feed =>
    obtain ⟨hopen, rfl⟩ := act_data_received hnext
    obtain ⟨interim, tail, collector, taken, rs, -, heq, -⟩ :=
      read_ready_cases parse_url date feed hopen
    rw [heq, List.append_assoc]
    exact ⟨rfl, rfl, List.prefix_append _ _, List.prefix_rfl, List.prefix_append _ _, id⟩
  | transport_closed =>
    obtain ⟨-, rfl⟩ := act_transport_closed hnext
    exact ⟨rfl, rfl, List.prefix_rfl, List.prefix_rfl, List.prefix_append _ _, id⟩
  | connection_lost =>
    obtain ⟨hattached, rfl⟩ := act_connection_lost hnext
    exact ⟨rfl, rfl, List.prefix_rfl, List.prefix_rfl, List.prefix_rfl, fun _ => hattached⟩
  | worker =>
    obtain ⟨tail, -, hworks⟩ := works_run_worker hnext
    exact hworks.grows
  | waker => exact (works_run_waker hnext).grows
  | dispatched date calls =>
    obtain ⟨tail, -, hworks | ⟨-, r, raw, -, hworks⟩⟩ := works_finish_dispatch hnext
    · exact hworks.grows
    · exact hworks.grows

end Connection

namespace Server

variable {Data : Type} {parse_url : ParseUrl} {s t : Server}

/-- The invariant of the server: the event is set once the drain has begun, every
connection is sound, and the future of every request that is handled is in flight. -/
structure Sound (s : Server) : Prop where
  draining_iff : s.handler.draining = true ↔ s.drain ≠ .idle
  event : s.handler.drain_event = some s.handler.draining
  conns : ∀ conn ∈ s.conns, conn.Sound s.handler.draining
  inflight : ∀ {c conn r}, s.conns[c]? = some conn → conn.worker = .handling r →
    (c, r.index) ∈ s.handler.inflight

theorem Sound.draining_of_event (hsound : s.Sound)
    (hset : s.handler.drain_event = some true) : s.handler.draining = true := by
  rw [hsound.event] at hset
  exact Option.some.inj hset

theorem sound_new : Sound new := by
  constructor <;> simp [new]

/-- What a step on a connection does to the server. -/
theorem step_connection {c : Nat} {act : Act Data}
    (hstep : s.step parse_url (.connection c act) = some t) :
    ∃ conn next, s.conns[c]? = some conn ∧ conn.act parse_url s.handler act = some next ∧
      t = { s with
        handler := (s.handler.make_event act).track c conn.worker next.worker
        conns := s.conns.set c next
        drain := s.drain.ran c act } := by
  simp only [step, Option.bind_eq_bind, Option.bind_eq_some_iff, Option.some.injEq] at hstep
  obtain ⟨conn, hconn, next, hnext, rfl⟩ := hstep
  exact ⟨conn, next, hconn, hnext, rfl⟩

theorem step_stop (hstep : s.step parse_url (Action.stop : Action Data) = some t) :
    s.drain = .idle ∧ t = { s with
      handler := s.handler.begin_drain
      conns := s.conns.map Connection.note_drain
      drain := s.handler.check_inflight } := by
  simp only [step, Option.ite_none_right_eq_some, Option.some.injEq] at hstep
  exact ⟨hstep.1, hstep.2.symm⟩

theorem check_inflight_ne_idle (handler : Handler) : handler.check_inflight ≠ .idle := by
  unfold Handler.check_inflight
  split <;> simp

/-- Behind `begin_drain`, `serve_async` touches no connection. -/
theorem drain_act_kept {act : DrainAct} (hstep : s.drain_act act = some t) :
    t.handler = s.handler ∧ t.conns = s.conns ∧ s.drain ≠ .idle ∧ t.drain ≠ .idle ∧
      (act ≠ .run_hooks → t.hooks_run = s.hooks_run) := by
  cases act with
  | wait_done =>
    simp only [drain_act] at hstep
    split at hstep
    · rename_i pending hdrain
      simp only [Option.ite_none_right_eq_some, Option.some.injEq] at hstep
      obtain ⟨-, rfl⟩ := hstep
      simp [hdrain]
    · cases hstep
  | resume =>
    simp only [drain_act, Option.ite_none_right_eq_some, Option.some.injEq] at hstep
    obtain ⟨hdrain, rfl⟩ := hstep
    simp [hdrain, check_inflight_ne_idle]
  | timeout =>
    simp only [drain_act] at hstep
    split at hstep
    · rename_i hdrain
      obtain rfl := Option.some.inj hstep
      simp [hdrain]
    · rename_i hdrain
      obtain rfl := Option.some.inj hstep
      simp [hdrain]
    · cases hstep
  | run_hooks =>
    simp only [drain_act, Option.ite_none_right_eq_some, Option.some.injEq] at hstep
    obtain ⟨hdrain, rfl⟩ := hstep
    obtain hdrain | hdrain := hdrain <;> simp [hdrain]

theorem ran_idle_iff (c : Nat) (act : Act Data) (drain : Drain) :
    drain.ran c act = .idle ↔ drain = .idle := by
  cases drain <;> cases act <;> simp [Drain.ran]

theorem Sound.step (hsound : s.Sound) {a : Action Data} (hstep : s.step parse_url a = some t) :
    t.Sound := by
  have hset := hsound.draining_of_event
  obtain ⟨hdraining, hevent, hconns, hinflight⟩ := hsound
  cases a with
  | connection_made peer sockname =>
    simp only [Server.step, Option.some.injEq] at hstep
    subst hstep
    refine ⟨hdraining, hevent, ?_, ?_⟩
    · simp only [List.forall_mem_append, List.forall_mem_singleton]
      exact ⟨hconns, Connection.sound_connection_made peer sockname⟩
    · intro c conn r hconn hworker
      obtain hbefore | rfl := getElem?_joined hconn
      · exact hinflight hbefore hworker
      · cases hworker
  | connection c act =>
    obtain ⟨conn, next, hconn, hnext, rfl⟩ := step_connection hstep
    have hmade : (s.handler.make_event act).draining = s.handler.draining ∧
        (s.handler.make_event act).drain_event = s.handler.drain_event ∧
        (s.handler.make_event act).inflight = s.handler.inflight := by
      cases act <;> simp [Handler.make_event, hevent]
    obtain ⟨hsame, hkept, hfutures⟩ := hmade
    refine ⟨?_, ?_, ?_, ?_⟩
    · simpa only [Handler.track, hsame, Ne, ran_idle_iff] using hdraining
    · simpa only [Handler.track, hsame, hkept] using hevent
    · intro other hother
      simp only [Handler.track, hsame]
      obtain hbefore | rfl := List.mem_or_eq_of_mem_set hother
      · exact hconns other hbefore
      · exact (hconns conn (List.mem_of_getElem? hconn)).act hset hnext
    · intro d other r hother hworker
      simp only [Handler.track, hfutures, List.mem_append]
      obtain ⟨rfl, rfl⟩ | ⟨hne, hbefore⟩ := getElem?_stepped hother
      · right
        simp [hworker, Worker.future]
      · left
        refine List.mem_filter.mpr ⟨hinflight hbefore hworker, decide_eq_true ?_⟩
        cases conn.worker <;> simp [Worker.future, hne]
  | stop =>
    obtain ⟨hidle, rfl⟩ := step_stop hstep
    have hquiet : s.handler.draining = false := by
      simpa [hidle] using hdraining
    refine ⟨?_, ?_, ?_, ?_⟩
    · exact iff_of_true rfl (check_inflight_ne_idle s.handler)
    · simp [Handler.begin_drain, hevent]
    · intro conn hconn
      obtain ⟨before, hbefore, rfl⟩ := List.mem_map.mp hconn
      have hsound := hconns before hbefore
      rw [hquiet] at hsound
      exact hsound.note_drain
    · intro c conn r hconn hworker
      simp only [List.getElem?_map, Option.map_eq_some_iff] at hconn
      obtain ⟨before, hbefore, rfl⟩ := hconn
      exact hinflight hbefore hworker
  | drain act =>
    obtain ⟨hhandler, hsame, hbefore, hafter, -⟩ := drain_act_kept hstep
    refine ⟨?_, ?_, ?_, ?_⟩
    · rw [hhandler, hdraining]
      exact iff_of_true hbefore hafter
    · rw [hhandler, hevent]
    · rwa [hhandler, hsame]
    · rwa [hhandler, hsame]

theorem sound_run {steps : List (Server × Action Data)}
    (hrun : (server Data parse_url).Run steps s) : s.Sound :=
  hrun.invariant (I := Sound) (by rintro s rfl; exact sound_new) fun hsound hstep =>
    hsound.step hstep

/-- A drain that has begun does not begin again. -/
theorem step_drained {a : Action Data} (hstep : s.step parse_url a = some t)
    (hdrain : s.drain ≠ .idle) : t.drain ≠ .idle := by
  cases a with
  | connection_made peer sockname =>
    simp only [Server.step, Option.some.injEq] at hstep
    subst hstep
    exact hdrain
  | connection d act =>
    obtain ⟨other, next, -, -, rfl⟩ := step_connection hstep
    simpa only [Ne, ran_idle_iff] using hdrain
  | stop => exact absurd (step_stop hstep).1 hdrain
  | drain act => exact (drain_act_kept hstep).2.2.2.1

/-- After that, every step keeps every connection in its place, and only adds to its
history. -/
theorem step_grows {a : Action Data} (hstep : s.step parse_url a = some t)
    (hdrain : s.drain ≠ .idle) {c : Nat} {conn : Connection} (hconn : s.conns[c]? = some conn) :
    ∃ next, t.conns[c]? = some next ∧ conn.Grows next := by
  have hbound := (List.getElem?_eq_some_iff.mp hconn).1
  cases a with
  | connection_made peer sockname =>
    simp only [Server.step, Option.some.injEq] at hstep
    subst hstep
    exact ⟨conn, by rwa [List.getElem?_append_left hbound], .refl conn⟩
  | connection d act =>
    obtain ⟨other, next, hother, hnext, rfl⟩ := step_connection hstep
    by_cases hsame : d = c
    · subst hsame
      obtain rfl := Option.some.inj (hother.symm.trans hconn)
      exact ⟨next, by simp [hbound], Connection.grows_act hnext⟩
    · exact ⟨conn, by simp [hsame, hconn], .refl conn⟩
  | stop => exact absurd (step_stop hstep).1 hdrain
  | drain act => exact ⟨conn, by rw [(drain_act_kept hstep).2.1, hconn], .refl conn⟩

/-- What was noted of a connection when the drain began is the connection as it was
then, and the connection still has all of that. -/
theorem noted_run {steps : List (Server × Action Data)}
    (hrun : (server Data parse_url).Run steps s) {before : Server}
    (hstop : (before, .stop) ∈ steps) :
    s.drain ≠ .idle ∧ ∀ (c : Nat) (earlier : Connection), before.conns[c]? = some earlier →
      ∃ conn, s.conns[c]? = some conn ∧ earlier.note_drain.Grows conn := by
  induction hrun with
  | init hinit => cases hstop
  | @step steps s t a hbefore hstep ih =>
    change s.step parse_url a = some t at hstep
    obtain hearlier | hnow := List.mem_append.mp hstop
    · obtain ⟨hdrain, hnoted⟩ := ih hearlier
      refine ⟨step_drained hstep hdrain, fun c earlier hconn => ?_⟩
      obtain ⟨middle, hmiddle, hgrows⟩ := hnoted c earlier hconn
      obtain ⟨next, hnext, hlater⟩ := step_grows hstep hdrain hmiddle
      exact ⟨next, hnext, hgrows.trans hlater⟩
    · obtain ⟨rfl, hstop_now⟩ : before = s ∧ Action.stop = a := by
        simpa using hnow
      subst hstop_now
      obtain ⟨-, rfl⟩ := step_stop hstep
      refine ⟨check_inflight_ne_idle _, fun c earlier hconn => ?_⟩
      exact ⟨earlier.note_drain, by simp [hconn], .refl _⟩

/-- The requests noted are those that were on the queue, or dispatched, when the drain
began. -/
theorem take_before_drain {earlier conn : Connection} (hgrows : earlier.note_drain.Grows conn) :
    conn.enqueued.take conn.before_drain = earlier.enqueued := by
  rw [hgrows.before_drain]
  exact (List.prefix_iff_eq_take.mp hgrows.enqueued).symm

end Server

end massless.protocol
