import Massless.Protocol.Runs
import Massless.Protocol.Teardown

open python
open transition

namespace massless.protocol

namespace Server

variable {Data : Type} {parse_url : ParseUrl}

/-- What the sentinel owes to a run: a worker that waits on an empty queue while
draining is woken by its waker's next step, the sentinel is put once at most, and a
worker that leaves at the end of a drain has dispatched every request that was put
on its queue before it began. -/
structure SentinelSafe (parse_url : ParseUrl) (steps : List (Server × Action Data)) (s : Server) :
    Prop where
  wakes : s.handler.draining = true → ∀ conn ∈ s.conns, conn.worker = .getting →
    conn.queue = [] → (conn.waker = .created ∨ conn.waker = .waiting) ∧
      s.handler.drain_event = some true ∧
      conn.act parse_url s.handler (.waker : Act Data) = some conn.put_sentinel
  once : ∀ conn ∈ s.conns, conn.sentinels ≤ 1 ∧ conn.queue.count .sentinel ≤ 1
  dispatched : ∀ before, (before, .stop) ∈ steps → ∀ (c : Nat) (earlier conn : Connection),
    before.conns[c]? = some earlier → s.conns[c]? = some conn →
      conn.worker = .exited .idle ∨ conn.worker = .exited .sentinel →
        ∀ r ∈ earlier.enqueued, r ∈ conn.dispatched

/-- A worker that waits on an empty queue has a waker that is not done. -/
theorem waker_waits {draining : Bool} {conn : Connection} (hsound : conn.Sound draining)
    (hgetting : conn.worker = .getting) (hempty : conn.queue = []) :
    conn.waker = .created ∨ conn.waker = .waiting := by
  have hat := hsound.worker
  rw [hgetting] at hat
  obtain ⟨-, hcreated | hwaiting | ⟨-, hsentinel⟩⟩ := hat
  · exact Or.inl hcreated
  · exact Or.inr hwaiting
  · rw [hempty] at hsentinel
    cases hsentinel

/-- A worker that leaves at the end of a drain has dispatched what was noted when it
began. -/
theorem dispatched_at_end {draining : Bool} {conn : Connection} (hsound : conn.Sound draining)
    (hexited : conn.worker = .exited .idle ∨ conn.worker = .exited .sentinel) :
    conn.before_drain ≤ conn.dispatched.length := by
  have hat := hsound.worker
  obtain hidle | hsentinel := hexited
  · rw [hidle] at hat
    exact hat.2.1
  · rw [hsentinel] at hat
    exact hat.2.1

/-- The drain sentinel neither loses a wake-up nor discards earlier work, in any run
of the server. -/
theorem sentinel_safe {steps : List (Server × Action Data)} {s : Server}
    (hrun : (server Data parse_url).Run steps s) : SentinelSafe parse_url steps s := by
  have hsound := sound_run hrun
  refine ⟨fun hdraining conn hconn hgetting hempty => ?_, fun conn hconn => ?_, ?_⟩
  · have hwaker := waker_waits (hsound.conns conn hconn) hgetting hempty
    have hevent : s.handler.drain_event = some true := by rw [hsound.event, hdraining]
    refine ⟨hwaker, hevent, ?_⟩
    obtain hcreated | hwaiting := hwaker
    · simp [Connection.act, Connection.run_waker, hcreated, hevent]
    · simp [Connection.act, Connection.run_waker, hwaiting, hevent]
  · have hbooks := (hsound.conns conn hconn).books
    have hsentinels := hbooks.sentinels
    have hqueued := hbooks.queued
    have hone : conn.sentinels ≤ 1 := by
      rw [hsentinels]
      split <;> omega
    exact ⟨hone, by omega⟩
  · intro before hstop c earlier conn hearlier hconn hexited r hr
    obtain ⟨-, hnoted⟩ := noted_run hrun hstop
    obtain ⟨now, hnow, hgrows⟩ := hnoted c earlier hearlier
    obtain rfl := Option.some.inj (hnow.symm.trans hconn)
    have hconn_sound := hsound.conns now (List.mem_of_getElem? hconn)
    have hbefore := dispatched_at_end hconn_sound hexited
    rw [← take_before_drain hgrows, hconn_sound.books.order, List.take_append_of_le_length hbefore]
      at hr
    exact List.mem_of_mem_take hr

/-- The drain begins while a request is on the queue, and the sentinel comes behind it. -/
def queued_at_drain : List (Action Unit) :=
  [.connection_made none none, .connection 0 .worker,
   .connection 0 (.data_received (ascii "now") (get_feed none)), .stop, .connection 0 .waker,
   .connection 0 .worker, .connection 0 (.dispatched (ascii "now") (json_calls fun _ => some []))]

theorem sentinel_safe_queued : ∃ steps s conn,
    (server Unit fun url => .ok ⟨some url, none⟩).trace new queued_at_drain = some (steps, s) ∧
      s.conns[0]? = some conn ∧ conn.worker = .exited .sentinel ∧ conn.dispatched.length = 1 ∧
      SentinelSafe (fun url => .ok ⟨some url, none⟩) steps s :=
  ⟨_, _, _, rfl, rfl, rfl, rfl,
    sentinel_safe (Machine.run_of_trace (s := new) queued_at_drain rfl rfl)⟩

end Server

end massless.protocol
