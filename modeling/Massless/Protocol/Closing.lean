import Massless.Protocol.Progress

open python
open transition

namespace massless.protocol

namespace Connection

/-- How many turns the worker takes at most once the sentinel is on the queue, before
the connection is closed: one for each item ahead of the sentinel, and one for it. -/
def closing_left (self : Connection) : Nat :=
  if self.is_open then
    match self.worker with
    | .getting => self.queue.idxOf .sentinel + 1
    | .handling _ => self.queue.idxOf .sentinel + 1
    | _ => 0
  else 0

variable {draining : Bool} {self next : Connection}

theorem closing_left_le (self : Connection) :
    self.closing_left ≤ self.queue.idxOf .sentinel + 1 := by
  unfold closing_left
  split
  · split <;> omega
  · omega

/-- A worker that goes on while the sentinel has been put has it on the queue. -/
theorem Sound.sentinel_queued (hsound : self.Sound draining) (hput : self.waker = .put)
    (halive : self.Alive) : self.worker ≠ .created ∧ .sentinel ∈ self.queue := by
  have hqueued : self.Awake → .sentinel ∈ self.queue := by
    rintro (hcreated | hwaiting | ⟨-, hmem⟩)
    · simp [hput] at hcreated
    · simp [hput] at hwaiting
    · exact hmem
  have hat := hsound.worker
  obtain hcreated | hgetting | ⟨r, hhandling⟩ := halive
  · rw [hcreated] at hat
    have habsent := hat.2
    simp [hput] at habsent
  · rw [hgetting] at hat
    exact ⟨by simp [hgetting], hqueued hat.2⟩
  · rw [hhandling] at hat
    exact ⟨by simp [hhandling], hqueued hat.1⟩

/-- The item in front is taken, or the sentinel closes the connection. -/
theorem closing_left_take_item {item : Item} {rest : List Item} (hqueue : self.queue = item :: rest) :
    ({ self with queue := rest }.take_item item).closing_left ≤ self.queue.idxOf .sentinel := by
  cases item with
  | sentinel =>
    have hshut := close_leave_shut { self with queue := rest } .sentinel
    have hnone : ({ self with queue := rest }.take_item .sentinel).closing_left = 0 := by
      rw [take_item, closing_left, if_neg (by simp [hshut])]
    omega
  | request r =>
    have hle := closing_left_le ({ self with queue := rest }.take_item (.request r))
    rw [hqueue, List.idxOf_cons_ne _ (by simp)]
    exact hle

theorem closing_left_loop_top (self : Connection) (hsentinel : .sentinel ∈ self.queue) :
    (self.loop_top draining).closing_left ≤ self.queue.idxOf .sentinel := by
  unfold loop_top
  split
  · rename_i hempty
    rw [hempty] at hsentinel
    cases hsentinel
  · rename_i item rest hqueue
    exact closing_left_take_item hqueue

theorem closing_left_exited {exit : Exit} (hworker : self.worker = .exited exit) :
    self.closing_left = 0 := by
  simp [closing_left, hworker]

/-- A turn of a worker with the sentinel on its queue brings it nearer to that. -/
theorem closing_left_turn {Data : Type} {parse_url : ParseUrl} {handler : Handler} {act : Act Data}
    (hsound : self.Sound handler.draining) (hput : self.waker = .put) (hturn : ¬Aside act)
    (hnext : self.act parse_url handler act = some next) :
    next.closing_left ≤ self.queue.idxOf .sentinel := by
  cases act with
  | worker =>
    obtain ⟨-, rfl | rfl⟩ | ⟨-, hworker, -⟩ | ⟨-, -, item, rest, hqueue, rfl⟩ :=
      run_worker_cases hnext
    · rw [closing_left_exited rfl]
      exact Nat.zero_le _
    · rw [closing_left_exited rfl]
      exact Nat.zero_le _
    · exact absurd hworker (hsound.sentinel_queued hput (Or.inl hworker)).1
    · exact closing_left_take_item hqueue
  | dispatched date calls =>
    obtain ⟨r, hworker, hends⟩ := finish_dispatch_cases hnext
    have hsentinel := (hsound.sentinel_queued hput (alive_of_handling ⟨r, hworker⟩)).2
    obtain ⟨-, rfl⟩ | ⟨-, raw, rfl | rfl⟩ | ⟨-, rfl⟩ := hends
    · rw [closing_left_exited rfl]
      exact Nat.zero_le _
    · exact closing_left_loop_top (self.push (.response r.index raw)) hsentinel
    · rw [closing_left_exited rfl]
      exact Nat.zero_le _
    · exact closing_left_loop_top self hsentinel
  | _ => exact absurd trivial hturn

theorem put_take_item (item : Item) : (self.take_item item).waker = .put ↔ self.waker = .put := by
  cases item with
  | sentinel =>
    obtain ⟨tail, heq, -⟩ := close_transport_eq self
    rw [take_item, heq]
    exact cancel_eq_put_iff self.waker
  | request r => rfl

theorem put_loop_top (self : Connection) :
    (self.loop_top draining).waker = .put ↔ self.waker = .put := by
  unfold loop_top
  split
  · split
    · obtain ⟨tail, heq, -⟩ := close_transport_eq self
      rw [heq]
      exact cancel_eq_put_iff self.waker
    · rfl
  · exact put_take_item _

/-- The sentinel is not put back. -/
theorem put_turn {Data : Type} {parse_url : ParseUrl} {handler : Handler} {act : Act Data}
    (hsound : self.Sound handler.draining) (hput : self.waker = .put) (hturn : ¬Aside act)
    (hnext : self.act parse_url handler act = some next) : next.waker = .put := by
  cases act with
  | worker =>
    obtain ⟨-, rfl | rfl⟩ | ⟨-, hworker, -⟩ | ⟨-, -, item, rest, hqueue, rfl⟩ :=
      run_worker_cases hnext
    · exact hput
    · exact (cancel_eq_put_iff self.waker).mpr hput
    · exact absurd hworker (hsound.sentinel_queued hput (Or.inl hworker)).1
    · exact (put_take_item item).mpr hput
  | dispatched date calls =>
    obtain ⟨r, hworker, ⟨-, rfl⟩ | ⟨-, raw, rfl | rfl⟩ | ⟨-, rfl⟩⟩ := finish_dispatch_cases hnext
    · exact (cancel_eq_put_iff self.waker).mpr hput
    · exact (put_loop_top _).mpr hput
    · obtain ⟨tail, heq, -⟩ := close_transport_eq (self.push (.response r.index raw))
      rw [heq]
      exact (cancel_eq_put_iff self.waker).mpr hput
    · exact (put_loop_top self).mpr hput
  | _ => exact absurd trivial hturn

/-- Others put requests behind the sentinel only, and take nothing from the queue. -/
theorem aside_put {Data : Type} {parse_url : ParseUrl} {handler : Handler} {act : Act Data}
    (haside : Aside act) (hput : self.waker = .put)
    (hnext : self.act parse_url handler act = some next) :
    next.waker = .put ∧ self.queue <+: next.queue := by
  cases act with
  | data_received date feed =>
    obtain ⟨hopen, rfl⟩ := act_data_received hnext
    obtain ⟨interim, tail, collector, taken, rs, -, heq, -⟩ :=
      read_ready_cases parse_url date feed hopen
    rw [heq]
    exact ⟨hput, List.prefix_append _ _⟩
  | transport_closed =>
    obtain ⟨-, rfl⟩ := act_transport_closed hnext
    exact ⟨hput, List.prefix_rfl⟩
  | connection_lost =>
    obtain ⟨-, rfl⟩ := act_connection_lost hnext
    exact ⟨hput, List.prefix_rfl⟩
  | waker => simp [Connection.act, run_waker, hput] at hnext
  | worker => cases haside
  | dispatched date calls => cases haside

/-- Once the sentinel has been put, no step takes the worker further from the close,
and each turn takes it nearer. -/
theorem closing_left_act {Data : Type} {parse_url : ParseUrl} {handler : Handler} {act : Act Data}
    (hsound : self.Sound handler.draining) (hput : self.waker = .put)
    (hnext : self.act parse_url handler act = some next) :
    next.closing_left ≤ self.closing_left ∧
      (¬Aside act → next.closing_left ≤ self.closing_left - 1) := by
  cases hopen : next.is_open with
  | false => simp [closing_left, hopen]
  | true =>
    have hbefore := (grows_act hnext).is_open hopen
    by_cases haside : Aside act
    · refine ⟨?_, fun hturn => absurd haside hturn⟩
      have hworker := (aside_kept haside hnext).1
      have hprefix := (aside_put haside hput hnext).2
      by_cases halive : self.Alive
      · have hsentinel := (hsound.sentinel_queued hput halive).2
        obtain ⟨later, hlater⟩ := hprefix
        have hplace : next.queue.idxOf .sentinel = self.queue.idxOf .sentinel := by
          rw [← hlater, List.idxOf_append_of_mem hsentinel]
        simp only [closing_left, hopen, hbefore, if_true, hworker, hplace]
        exact Nat.le_refl _
      · have hnone : next.closing_left = 0 := by
          simp only [closing_left, hopen, if_true, hworker]
          split <;> simp_all [Alive]
        omega
    · suffices hless : next.closing_left ≤ self.closing_left - 1 from ⟨by omega, fun _ => hless⟩
      by_cases huncancelled : self.Uncancelled act
      · have halive := (turn_cases hsound haside huncancelled hnext hopen).1
        have hle := closing_left_turn hsound hput haside hnext
        have hcreated := (hsound.sentinel_queued hput halive).1
        have hself : self.closing_left = self.queue.idxOf .sentinel + 1 := by
          rw [closing_left, if_pos hbefore]
          obtain hmade | hgetting | ⟨r, hhandling⟩ := halive
          · exact absurd hmade hcreated
          · rw [hgetting]
          · rw [hhandling]
        omega
      · have hexited := exited_of_cancelled huncancelled hnext
        rw [closing_left_exited hexited]
        exact Nat.zero_le _

end Connection

namespace Server

variable {Data : Type} {parse_url : ParseUrl} {s t : Server} {a : Action Data} {c : Nat}

/-- The sentinel of a connection has been put. -/
def SentinelPut (c : Nat) (s : Server) : Prop :=
  s.Sound ∧ ∃ conn, s.conns[c]? = some conn ∧ conn.waker = .put

theorem SentinelPut.step (hput : SentinelPut c s) (hstep : s.step parse_url a = some t) :
    SentinelPut c t := by
  obtain ⟨hsound, conn, hconn, hwaker⟩ := hput
  obtain ⟨next, hnext, ⟨act, -, hact⟩ | ⟨-, hsame⟩⟩ := step_at hstep hconn
  · refine ⟨hsound.step hstep, next, hnext, ?_⟩
    by_cases haside : Connection.Aside act
    · exact (Connection.aside_put haside hwaker hact).1
    · exact Connection.put_turn (hsound.conns conn (List.mem_of_getElem? hconn)) hwaker haside hact
  · refine ⟨hsound.step hstep, next, hnext, ?_⟩
    obtain rfl | rfl := hsame <;> exact hwaker

theorem closing_left_ranked (Data : Type) (parse_url : ParseUrl) (c : Nat) :
    (server Data parse_url).Ranked (SentinelPut c) (fun _ _ => True) (is_turn c)
      (rank_at c Connection.closing_left) := by
  have hstep : ∀ {s t : Server} {a : Action Data}, SentinelPut c s → s.step parse_url a = some t →
      t.rank_at c Connection.closing_left ≤ s.rank_at c Connection.closing_left ∧
        (is_turn c a = true →
          t.rank_at c Connection.closing_left ≤ s.rank_at c Connection.closing_left - 1) := by
    rintro s t a ⟨hsound, conn, hconn, hwaker⟩ hstep
    refine rank_at_step hconn rfl (fun act next hact => ?_) hstep
    exact Connection.closing_left_act (hsound.conns conn (List.mem_of_getElem? hconn)) hwaker hact
  exact ⟨fun hput _ htaken => hput.step htaken, fun hput _ htaken => (hstep hput htaken).1,
    fun hput _ htaken => (hstep hput htaken).2⟩

/-- A worker that goes on with the sentinel on its queue has a turn to take. -/
theorem turn_of_sentinel {conn : Connection} (hsound : conn.Sound s.handler.draining)
    (hconn : s.conns[c]? = some conn) (halive : conn.Alive) (hput : conn.waker = .put) :
    TurnPossible Data parse_url c s := by
  obtain ⟨hcreated, hsentinel⟩ := hsound.sentinel_queued hput halive
  simp only [TurnPossible, step_isSome_iff hconn, Connection.act]
  obtain hmade | hgetting | ⟨r, hhandling⟩ := halive
  · exact absurd hmade hcreated
  · left
    cases hqueue : conn.queue with
    | nil =>
      rw [hqueue] at hsentinel
      cases hsentinel
    | cons item rest =>
      simp only [Connection.run_worker, hgetting, hqueue]
      split <;> exact ⟨_, rfl⟩
  · right
    intro date calls
    simp only [Connection.finish_dispatch, hhandling]
    split <;> exact ⟨_, rfl⟩

/-- While the server drains, some task of an open connection can run: its worker, or the
waker that puts the sentinel. -/
theorem task_of_alive {conn : Connection} (hsound : s.Sound) (hdrain : s.drain ≠ .idle)
    (hconn : s.conns[c]? = some conn) (hopen : conn.is_open = true) (halive : conn.Alive) :
    TurnPossible Data parse_url c s ∨
      ∃ t, s.step parse_url (.connection c .waker : Action Data) = some t := by
  have hconn_sound := hsound.conns conn (List.mem_of_getElem? hconn)
  have hset : s.handler.drain_event = some true := by
    rw [hsound.event, hsound.draining_iff.mpr hdrain]
  have hawake : conn.Awake → TurnPossible Data parse_url c s ∨
      ∃ t, s.step parse_url (.connection c .waker : Action Data) = some t := by
    rintro (hcreated | hwaiting | ⟨hput, -⟩)
    · right
      rw [step_isSome_iff hconn]
      simp [Connection.act, Connection.run_waker, hcreated]
    · right
      rw [step_isSome_iff hconn]
      simp [Connection.act, Connection.run_waker, hwaiting, hset]
    · exact Or.inl (turn_of_sentinel hconn_sound hconn halive hput)
  have hat := hconn_sound.worker
  obtain hcreated | hgetting | ⟨r, hhandling⟩ := halive
  · left
    left
    rw [step_isSome_iff hconn]
    simp [Connection.act, Connection.run_worker, hcreated, hconn_sound.not_cancelling hopen]
  · rw [hgetting] at hat
    exact hawake hat.2
  · rw [hhandling] at hat
    exact hawake hat.1

/-- The drain begins while a connection is idle, and its waker has put the sentinel. -/
def drained_idle : List (Action Unit) :=
  [.connection_made none none, .connection 0 .worker, .connection 0 .waker, .stop,
   .connection 0 .waker]

end Server

end massless.protocol
