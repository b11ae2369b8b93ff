import Massless.Protocol.Graceful
import Massless.Protocol.Order
import Massless.Transition.Rank

open python
open transition

namespace massless.protocol

namespace Connection

/-- A step that is not the end of a cancelled `dispatch`. -/
def Uncancelled {Data : Type} (self : Connection) : Act Data → Prop
  | .dispatched date calls =>
    match self.worker with
    | .handling r =>
      (dispatch calls date r.keep_alive r.core.method ⟨[], []⟩).1 ≠ .error CancelledError
    | _ => True
  | _ => True

instance {Data : Type} (self : Connection) : (act : Act Data) → Decidable (self.Uncancelled act)
  | .dispatched date calls =>
    match hworker : self.worker with
    | .handling r => decidable_of_iff
        ((dispatch calls date r.keep_alive r.core.method ⟨[], []⟩).1 ≠ .error CancelledError)
        (by simp [Uncancelled, hworker])
    | .absent => .isTrue (by simp [Uncancelled, hworker])
    | .created => .isTrue (by simp [Uncancelled, hworker])
    | .getting => .isTrue (by simp [Uncancelled, hworker])
    | .exited _ => .isTrue (by simp [Uncancelled, hworker])
  | .data_received _ _ => .isTrue trivial
  | .transport_closed => .isTrue trivial
  | .connection_lost => .isTrue trivial
  | .worker => .isTrue trivial
  | .waker => .isTrue trivial

/-- The worker has not left, or a cancellation ended it. -/
def Manned (self : Connection) : Prop := self.Alive ∨ self.worker = .exited .cancelled

variable {draining : Bool} {self next : Connection}

theorem Grows.is_open (hgrows : self.Grows next) (hopen : next.is_open = true) :
    self.is_open = true := by
  obtain ⟨hattached, hclose, habort⟩ := is_open_iff.mp hopen
  have hops := hgrows.ops.subset
  exact is_open_iff.mpr ⟨hgrows.attached hattached, fun h => hclose (hops h),
    fun h => habort (hops h)⟩

/-- A worker that closes the transport and leaves does not leave it open. -/
theorem close_leave_shut (self : Connection) (exit : Exit) :
    (self.close_transport.leave exit).is_open = false := by
  change self.close_transport.is_open = false
  unfold close_transport
  cases hopen : self.is_open with
  | false => simpa using hopen
  | true => simp [is_open, is_closing, push]

theorem alive_take_item {item : Item} (hopen : (self.take_item item).is_open = true) :
    ∃ r, item = .request r ∧ (self.take_item item).worker = .handling r ∧
      (self.take_item item).dispatched = self.dispatched ++ [r] := by
  cases item with
  | sentinel =>
    rw [take_item, close_leave_shut] at hopen
    cases hopen
  | request r => exact ⟨r, rfl, rfl, rfl⟩

/-- At the top of its loop the worker of a connection that stays open takes a request,
or waits when there is none. -/
theorem alive_loop_top (hopen : (self.loop_top draining).is_open = true) :
    ((self.loop_top draining).worker = .getting ∧ (self.loop_top draining).queue = [] ∧
        (self.loop_top draining).dispatched = self.dispatched) ∨
      ∃ r, (self.loop_top draining).worker = .handling r ∧
        (self.loop_top draining).dispatched = self.dispatched ++ [r] := by
  unfold loop_top at hopen ⊢
  split at hopen
  · rename_i hempty
    cases draining with
    | true =>
      rw [if_pos rfl, close_leave_shut] at hopen
      cases hopen
    | false => exact Or.inl ⟨rfl, hempty, rfl⟩
  · obtain ⟨r, -, hworker, hdispatched⟩ := alive_take_item hopen
    exact Or.inr ⟨r, hworker, hdispatched⟩

/-- A worker that is cancelled has lost its transport. -/
theorem Sound.not_cancelling (hsound : self.Sound draining) (hopen : self.is_open = true) :
    self.cancelling = false := by
  refine Bool.eq_false_iff.mpr fun hcancelling => ?_
  have hattached := (is_open_iff.mp hopen).1
  rw [(hsound.books.lost hcancelling).1] at hattached
  cases hattached

/-- What a turn of the worker does on a connection that stays open: it takes a request,
or finds none and waits, and it is through with the one it handled. -/
theorem turn_cases {Data : Type} {parse_url : ParseUrl} {handler : Handler} {act : Act Data}
    (hsound : self.Sound handler.draining) (hturn : ¬Aside act) (huncancelled : self.Uncancelled act)
    (hnext : self.act parse_url handler act = some next) (hopen : next.is_open = true) :
    self.Alive ∧
      ((next.worker = .getting ∧ self.worker ≠ .getting ∧ next.queue = [] ∧
          next.dispatched = self.dispatched) ∨
        ∃ r, next.worker = .handling r ∧ next.dispatched = self.dispatched ++ [r]) := by
  have hkept := hsound.not_cancelling ((grows_act hnext).is_open hopen)
  have hloop : ∀ {before : Connection}, next = before.loop_top handler.draining →
      before.dispatched = self.dispatched → self.worker ≠ .getting →
      (next.worker = .getting ∧ self.worker ≠ .getting ∧ next.queue = [] ∧
          next.dispatched = self.dispatched) ∨
        ∃ r, next.worker = .handling r ∧ next.dispatched = self.dispatched ++ [r] := by
    rintro before rfl hdispatched hworker
    obtain ⟨hgetting, hempty, hsame⟩ | ⟨r, hhandling, hmore⟩ := alive_loop_top hopen
    · exact Or.inl ⟨hgetting, hworker, hempty, hsame.trans hdispatched⟩
    · exact Or.inr ⟨r, hhandling, by rw [hmore, hdispatched]⟩
  cases act with
  | worker =>
    obtain ⟨hcancelling, -⟩ | ⟨-, hworker, hends⟩ | ⟨-, hworker, item, rest, -, rfl⟩ :=
      run_worker_cases hnext
    · rw [hkept] at hcancelling
      cases hcancelling
    · exact ⟨Or.inl hworker, hloop hends rfl (by simp [hworker])⟩
    · obtain ⟨r, -, hhandling, hdispatched⟩ := alive_take_item hopen
      exact ⟨Or.inr (Or.inl hworker), Or.inr ⟨r, hhandling, hdispatched⟩⟩
  | dispatched date calls =>
    obtain ⟨r, hworker, ⟨hanswer, -⟩ | ⟨-, raw, hends | rfl⟩ | ⟨-, hends⟩⟩ :=
      finish_dispatch_cases hnext
    · simp only [Uncancelled, hworker] at huncancelled
      exact absurd ((answer_eq_none_iff date r _).mp hanswer) huncancelled
    · exact ⟨alive_of_handling ⟨r, hworker⟩, hloop hends rfl (by simp [hworker])⟩
    · rw [close_leave_shut] at hopen
      cases hopen
    · exact ⟨alive_of_handling ⟨r, hworker⟩, hloop hends rfl (by simp [hworker])⟩
  | _ => exact absurd trivial hturn

/-- A cancelled `dispatch` ends the worker. -/
theorem exited_of_cancelled {Data : Type} {parse_url : ParseUrl} {handler : Handler}
    {act : Act Data} (hcancelled : ¬self.Uncancelled act)
    (hnext : self.act parse_url handler act = some next) : next.worker = .exited .cancelled := by
  cases act with
  | dispatched date calls =>
    simp only [Uncancelled] at hcancelled
    split at hcancelled
    · rename_i r hworker
      have hanswer := (answer_eq_none_iff date r _).mpr (not_not.mp hcancelled)
      simp only [Connection.act, finish_dispatch, hworker, hanswer, Option.some.injEq] at hnext
      rw [← hnext, leave]
    · exact absurd trivial hcancelled
  | _ => exact absurd trivial hcancelled

theorem not_alive_of_exited {exit : Exit} (hworker : self.worker = .exited exit) :
    ¬self.Alive := by
  simp [Alive, hworker]

/-- The worker of a connection that stays open is there until a `dispatch` is
cancelled. -/
theorem manned_act {Data : Type} {parse_url : ParseUrl} {handler : Handler} {act : Act Data}
    (hsound : self.Sound handler.draining) (hmanned : self.Manned)
    (hnext : self.act parse_url handler act = some next) (hopen : next.is_open = true) :
    next.Manned ∧ (next.Alive ↔ self.Alive ∧ self.Uncancelled act) := by
  by_cases haside : Aside act
  · have huncancelled : self.Uncancelled act := by
      cases act with
      | dispatched date calls => cases haside
      | _ => trivial
    have hworker := (aside_kept haside hnext).1
    simp only [Manned, Alive, hworker, huncancelled, and_true] at hmanned ⊢
    exact hmanned
  · by_cases huncancelled : self.Uncancelled act
    · obtain ⟨halive, hends⟩ := turn_cases hsound haside huncancelled hnext hopen
      have hstays : next.Alive := by
        obtain ⟨hgetting, -⟩ | ⟨r, hhandling, -⟩ := hends
        · exact Or.inr (Or.inl hgetting)
        · exact alive_of_handling ⟨r, hhandling⟩
      exact ⟨Or.inl hstays, iff_of_true hstays ⟨halive, huncancelled⟩⟩
    · have hexited := exited_of_cancelled huncancelled hnext
      exact ⟨Or.inr hexited, iff_of_false (not_alive_of_exited hexited) fun h => huncancelled h.2⟩

/-- How many turns the worker needs at most until the first `n` requests are answered,
or the connection is closed. -/
def turns_left (n : Nat) (self : Connection) : Nat :=
  if self.is_open then
    match self.worker with
    | .created => n - self.dispatched.length + 1
    | .getting => if n ≤ self.dispatched.length then 0 else n - self.dispatched.length + 1
    | .handling _ => n - self.handled
    | _ => 0
  else 0

theorem handled_of_handling {r : Request} (hworker : self.worker = .handling r) :
    self.handled = self.dispatched.length - 1 := by
  rw [handled, hworker]

/-- A turn of a worker that goes on is one less. -/
theorem turns_left_turn (hsound : self.Sound draining) (hnext_sound : next.Sound draining) {n : Nat}
    (hn : n ≤ next.enqueued.length) (hbefore : self.is_open = true) (hopen : next.is_open = true)
    (halive : self.Alive)
    (hends : (next.worker = .getting ∧ self.worker ≠ .getting ∧ next.queue = [] ∧
        next.dispatched = self.dispatched) ∨
      ∃ r, next.worker = .handling r ∧ next.dispatched = self.dispatched ++ [r]) :
    next.turns_left n ≤ self.turns_left n - 1 := by
  obtain ⟨hnow, hworker, hempty, hdispatched⟩ | ⟨r, hnow, hdispatched⟩ := hends
  · -- A worker that waits has dispatched everything.
    have henqueued := congrArg List.length hnext_sound.books.order
    have hpending : next.pending = [] := by rw [pending, hempty, List.filterMap_nil]
    rw [hpending, List.append_nil] at henqueued
    simp only [turns_left, hopen, if_true, hnow]
    rw [if_pos (by omega)]
    exact Nat.zero_le _
  · have hthrough : next.handled = self.dispatched.length := by
      simp [handled_of_handling hnow, hdispatched]
    simp only [turns_left, hopen, hbefore, if_true, hnow, hthrough]
    obtain hcreated | hgetting | ⟨earlier, hhandling⟩ := halive
    · simp only [hcreated]
      omega
    · simp only [hgetting]
      split <;> omega
    · have hat := hsound.worker
      rw [hhandling] at hat
      obtain ⟨-, -, before, hlast, -⟩ := hat
      simp only [hhandling, handled_of_handling hhandling, hlast, List.length_append,
        List.length_singleton]
      omega

/-- A step takes no turn more, and a turn is one less. -/
theorem turns_left_act {Data : Type} {parse_url : ParseUrl} {handler : Handler} {act : Act Data}
    (hsound : self.Sound handler.draining)
    (hevent : handler.drain_event = some true → handler.draining = true) {n : Nat}
    (hn : n ≤ self.enqueued.length) (hnext : self.act parse_url handler act = some next) :
    next.turns_left n ≤ self.turns_left n ∧
      (¬Aside act → next.turns_left n ≤ self.turns_left n - 1) := by
  have hgrows := grows_act hnext
  cases hopen : next.is_open with
  | false => simp [turns_left, hopen]
  | true =>
    have hbefore := hgrows.is_open hopen
    by_cases haside : Aside act
    · obtain ⟨hworker, hdispatched⟩ := aside_kept haside hnext
      have hsame : next.turns_left n = self.turns_left n := by
        simp only [turns_left, hopen, hbefore, handled, hworker, hdispatched]
      exact ⟨Nat.le_of_eq hsame, fun hturn => absurd haside hturn⟩
    · suffices hless : next.turns_left n ≤ self.turns_left n - 1 from ⟨by omega, fun _ => hless⟩
      by_cases huncancelled : self.Uncancelled act
      · obtain ⟨halive, hends⟩ := turn_cases hsound haside huncancelled hnext hopen
        have hmore := hgrows.enqueued.length_le
        exact turns_left_turn hsound (hsound.act hevent hnext) (by omega) hbefore hopen halive hends
      · have hexited := exited_of_cancelled huncancelled hnext
        simp [turns_left, hexited]

/-- An open connection whose worker is there and has no turn left to take has answered
its first `n` requests. -/
theorem answered_of_turns_left (hsound : self.Sound draining) (hopen : self.is_open = true)
    (halive : self.Alive) {n : Nat} (hnone : self.turns_left n = 0) :
    n ≤ self.responses.length := by
  rw [responses_eq_handled hsound (hsound.books.undisturbed hopen)]
  obtain hcreated | hgetting | ⟨r, hhandling⟩ := halive
  · simp [turns_left, hopen, hcreated] at hnone
  · have hall : self.handled = self.dispatched.length := by rw [handled, hgetting]
    simp only [turns_left, hopen, if_true, hgetting] at hnone
    split at hnone <;> omega
  · simp only [turns_left, hopen, if_true, hhandling] at hnone
    omega

theorem turns_left_le (hsound : self.Sound draining) :
    self.turns_left self.enqueued.length ≤ self.pending.length + 1 := by
  have henqueued := congrArg List.length hsound.books.order
  rw [List.length_append] at henqueued
  have hat := hsound.worker
  unfold turns_left
  split
  · cases hworker : self.worker with
    | handling r =>
      rw [hworker] at hat
      obtain ⟨-, -, earlier, hlast, -⟩ := hat
      rw [hlast, List.length_append, List.length_singleton] at henqueued
      simp only [handled, hworker, hlast, List.length_append, List.length_singleton]
      omega
    | getting =>
      simp only
      split <;> omega
    | _ =>
      simp only
      omega
  · omega

end Connection

namespace Server

variable {Data : Type} {parse_url : ParseUrl} {s t : Server} {a : Action Data} {c : Nat}

/-- No step is the end of a cancelled `dispatch` on the connection. -/
def Uncancelled (s : Server) (c : Nat) : Action Data → Prop
  | .connection d act => ∀ conn ∈ s.conns[d]?, d = c → conn.Uncancelled act
  | _ => True

instance (s : Server) (c : Nat) : (a : Action Data) → Decidable (s.Uncancelled c a)
  | .connection d act =>
    inferInstanceAs (Decidable (∀ conn ∈ s.conns[d]?, d = c → conn.Uncancelled act))
  | .connection_made _ _ => .isTrue trivial
  | .stop => .isTrue trivial
  | .drain _ => .isTrue trivial

/-- The worker of the connection has a turn: its task runs, or a `dispatch` is over. -/
def is_turn (c : Nat) : Action Data → Bool
  | .connection d .worker => d = c
  | .connection d (.dispatched _ _) => d = c
  | _ => false

/-- What a step does to a connection that is there. -/
theorem step_at (hstep : s.step parse_url a = some t) {conn : Connection}
    (hconn : s.conns[c]? = some conn) : ∃ next, t.conns[c]? = some next ∧
      ((∃ act, a = .connection c act ∧ conn.act parse_url s.handler act = some next) ∨
        ((∀ act, a ≠ .connection c act) ∧ (next = conn ∨ next = conn.note_drain))) := by
  have hbound := (List.getElem?_eq_some_iff.mp hconn).1
  cases a with
  | connection_made peer sockname =>
    simp only [Server.step, Option.some.injEq] at hstep
    subst hstep
    exact ⟨conn, by rwa [List.getElem?_append_left hbound], Or.inr ⟨by simp, Or.inl rfl⟩⟩
  | connection d act =>
    obtain ⟨other, next, hother, hnext, rfl⟩ := step_connection hstep
    by_cases hsame : d = c
    · subst hsame
      obtain rfl := Option.some.inj (hother.symm.trans hconn)
      exact ⟨next, by simp [hbound], Or.inl ⟨act, rfl, hnext⟩⟩
    · exact ⟨conn, by simp [hsame, hconn], Or.inr ⟨by simp [hsame], Or.inl rfl⟩⟩
  | stop =>
    obtain ⟨-, rfl⟩ := step_stop hstep
    exact ⟨conn.note_drain, by simp [hconn], Or.inr ⟨by simp, Or.inr rfl⟩⟩
  | drain act =>
    exact ⟨conn, by rw [(drain_act_kept hstep).2.1, hconn], Or.inr ⟨by simp, Or.inl rfl⟩⟩

/-- A connection that was not there has just been made. -/
theorem step_joined (hstep : s.step parse_url a = some t) (hnone : s.conns[c]? = none) :
    (∀ act, a ≠ .connection c act) ∧ ∀ next, t.conns[c]? = some next →
      ∃ peer sockname, next = .connection_made peer sockname := by
  cases a with
  | connection_made peer sockname =>
    simp only [Server.step, Option.some.injEq] at hstep
    subst hstep
    refine ⟨by simp, fun next hnext => ?_⟩
    obtain hbefore | rfl := getElem?_joined hnext
    · rw [hnone] at hbefore
      cases hbefore
    · exact ⟨peer, sockname, rfl⟩
  | connection d act =>
    obtain ⟨other, next, hother, hnext, rfl⟩ := step_connection hstep
    have hne : d ≠ c := by
      rintro rfl
      rw [hnone] at hother
      cases hother
    refine ⟨by simp [hne], fun found hfound => ?_⟩
    rw [List.getElem?_set_ne hne, hnone] at hfound
    cases hfound
  | stop =>
    obtain ⟨-, rfl⟩ := step_stop hstep
    simp [hnone]
  | drain act =>
    rw [(drain_act_kept hstep).2.1, hnone]
    simp

theorem uncancelled_other (s : Server) (hother : ∀ act, a ≠ .connection c act) : s.Uncancelled c a := by
  cases a with
  | connection d act => exact fun _ _ hsame => absurd (by rw [hsame]) (hother act)
  | _ => trivial

/-- The worker of a connection that is open after a run has left exactly if a
`dispatch` was cancelled on it. -/
theorem manned_run {steps : List (Server × Action Data)}
    (hrun : (server Data parse_url).Run steps s) {conn : Connection}
    (hconn : s.conns[c]? = some conn) (hopen : conn.is_open = true) :
    conn.Manned ∧ (conn.Alive ↔ ∀ taken ∈ steps, taken.1.Uncancelled c taken.2) := by
  have hkept := hrun.invariant_steps
    (I := fun steps s => (s.conns[c]? = none → ∀ taken ∈ steps, taken.1.Uncancelled c taken.2) ∧
      ∀ conn, s.conns[c]? = some conn → conn.is_open = true →
        conn.Manned ∧ (conn.Alive ↔ ∀ taken ∈ steps, taken.1.Uncancelled c taken.2))
    (by rintro s rfl; simp [new]) ?_
  · exact hkept.2 conn hconn hopen
  · rintro steps s a t hbefore ⟨hnone, hthere⟩ hstep
    simp only [List.forall_mem_append, List.forall_mem_singleton]
    cases hconn : s.conns[c]? with
    | none =>
      obtain ⟨hother, hjoined⟩ := step_joined hstep hconn
      have hquiet := uncancelled_other s hother
      refine ⟨fun _ => ⟨hnone hconn, hquiet⟩, fun next hnext _ => ?_⟩
      obtain ⟨peer, sockname, rfl⟩ := hjoined next hnext
      have halive : (Connection.connection_made peer sockname).Alive := Or.inl rfl
      exact ⟨Or.inl halive, iff_of_true halive ⟨hnone hconn, hquiet⟩⟩
    | some conn =>
      obtain ⟨now, hnow, hcases⟩ := step_at hstep hconn
      refine ⟨fun hgone => ?_, fun next hnext hopen => ?_⟩
      · rw [hnow] at hgone
        cases hgone
      obtain rfl := Option.some.inj (hnow.symm.trans hnext)
      obtain ⟨act, rfl, hact⟩ | ⟨hother, hsame⟩ := hcases
      · have hsound := sound_run hbefore
        obtain ⟨hmanned, hiff⟩ := hthere conn hconn ((Connection.grows_act hact).is_open hopen)
        obtain ⟨hstays, halive⟩ := Connection.manned_act
          (hsound.conns conn (List.mem_of_getElem? hconn)) hmanned hact hopen
        have huncancelled : s.Uncancelled c (.connection c act) ↔ conn.Uncancelled act := by
          simp [Uncancelled, hconn]
        exact ⟨hstays, by rw [halive, hiff, huncancelled]⟩
      · have hquiet := uncancelled_other s hother
        simp only [hquiet, and_true]
        obtain rfl | rfl := hsame
        · exact hthere now hconn hopen
        · exact hthere conn hconn hopen

/-- A handler in which every call raises. -/
def failing_calls (e : Exc) : Calls Data where
  pool_lifecycle := false
  routed := .error e
  request_started := .error e
  view := .error e
  render _ := .error e
  response_for_exception _ := .error e
  request_close := 0
  log_response := .error e
  handle := .error e
  serialize_body _ := none
  closer _ := .error e
  close _ := ⟨[], .error e⟩
  close_old_connections := ⟨[], .error e⟩

/-- The worker of the connection can take a turn: it can run, or it is in `dispatch`,
which may end in any way. -/
def TurnPossible (Data : Type) (parse_url : ParseUrl) (c : Nat) (s : Server) : Prop :=
  (∃ t, s.step parse_url (.connection c .worker : Action Data) = some t) ∨
    ∀ (date : Bytes) (calls : Calls Data),
      ∃ t, s.step parse_url (.connection c (.dispatched date calls)) = some t

theorem step_isSome_iff {conn : Connection} (hconn : s.conns[c]? = some conn) (act : Act Data) :
    (∃ t, s.step parse_url (.connection c act) = some t) ↔
      ∃ next, conn.act parse_url s.handler act = some next := by
  simp only [step, hconn, Option.bind_eq_bind, Option.bind_some, Option.bind_eq_some_iff,
    Option.some.injEq]
  constructor
  · rintro ⟨t, next, hnext, -⟩
    exact ⟨next, hnext⟩
  · rintro ⟨next, hnext⟩
    exact ⟨_, next, hnext, rfl⟩

/-- A worker that is there has a turn to take, or waits with everything answered. -/
theorem turn_of_alive {conn : Connection} (hsound : conn.Sound s.handler.draining)
    (hconn : s.conns[c]? = some conn) (hopen : conn.is_open = true) (halive : conn.Alive) :
    conn.responses.length = conn.enqueued.length ∨ TurnPossible Data parse_url c s := by
  simp only [TurnPossible, step_isSome_iff hconn, Connection.act]
  have hkept := hsound.not_cancelling hopen
  have hundisturbed := hsound.books.undisturbed hopen
  obtain hcreated | hgetting | ⟨r, hhandling⟩ := halive
  · right
    left
    simp [Connection.run_worker, hcreated, hkept]
  · cases hqueue : conn.queue with
    | nil =>
      left
      have henqueued := congrArg List.length hsound.books.order
      have hall : conn.handled = conn.dispatched.length := by rw [Connection.handled, hgetting]
      rw [Connection.responses_eq_handled hsound hundisturbed, hall, henqueued]
      simp [Connection.pending, hqueue]
    | cons item rest =>
      right
      left
      simp [Connection.run_worker, hgetting, hkept, hqueue]
  · right
    right
    intro date calls
    simp only [Connection.finish_dispatch, hhandling]
    split <;> exact ⟨_, rfl⟩

/-- A worker that a cancellation has ended takes no turn more, and leaves a request
without a response. -/
theorem stranded_of_cancelled {conn : Connection} (hsound : conn.Sound s.handler.draining)
    (hconn : s.conns[c]? = some conn) (hopen : conn.is_open = true)
    (hworker : conn.worker = .exited .cancelled) :
    conn.responses.length < conn.enqueued.length ∧ ¬TurnPossible Data parse_url c s := by
  have hundisturbed := hsound.books.undisturbed hopen
  have hat := hsound.worker
  rw [hworker] at hat
  obtain ⟨earlier, r, hdispatched, hanswered⟩ := hat hundisturbed
  constructor
  · rw [hanswered, hsound.books.order, hdispatched]
    simp only [List.length_append, List.length_singleton]
    omega
  · simp only [TurnPossible, step_isSome_iff hconn, Connection.act]
    rintro (⟨next, hnext⟩ | hends)
    · simp [Connection.run_worker, hworker] at hnext
    · obtain ⟨next, hnext⟩ := hends [] (failing_calls CancelledError)
      simp [Connection.finish_dispatch, hworker] at hnext

/-- A rank of a connection, as one of the server. -/
def rank_at (c : Nat) (rank : Connection → Nat) (s : Server) : Nat := (s.conns[c]?).elim 0 rank

/-- What no step on a connection raises and every turn of its worker lowers, no step of
the server raises and every turn lowers. -/
theorem rank_at_step {rank : Connection → Nat} {conn : Connection}
    (hconn : s.conns[c]? = some conn) (hnoted : rank conn.note_drain = rank conn)
    (hact : ∀ (act : Act Data) (next : Connection), conn.act parse_url s.handler act = some next →
      rank next ≤ rank conn ∧
      (¬Connection.Aside act → rank next ≤ rank conn - 1))
    (hstep : s.step parse_url a = some t) : t.rank_at c rank ≤ s.rank_at c rank ∧
      (is_turn c a = true → t.rank_at c rank ≤ s.rank_at c rank - 1) := by
  obtain ⟨next, hnext, ⟨act, rfl, hnow⟩ | ⟨hother, hsame⟩⟩ := step_at hstep hconn
  · simp only [rank_at, hconn, hnext, Option.elim_some]
    obtain ⟨hle, hless⟩ := hact act next hnow
    refine ⟨hle, fun hturn => hless ?_⟩
    cases act <;> simp_all [is_turn, Connection.Aside]
  · have hkept : t.rank_at c rank = s.rank_at c rank := by
      simp only [rank_at, hconn, hnext, Option.elim_some]
      obtain rfl | rfl := hsame
      · rfl
      · exact hnoted
    refine ⟨Nat.le_of_eq hkept, fun hturn => ?_⟩
    cases a with
    | connection d act =>
      have hsame : d = c := by
        cases act <;> simp_all [is_turn]
      exact absurd (by rw [hsame]) (hother act)
    | _ => cases hturn

/-- A connection with these requests on its books. -/
def Holds (c : Nat) (requests : List Request) (s : Server) : Prop :=
  s.Sound ∧ ∃ conn, s.conns[c]? = some conn ∧ requests <+: conn.enqueued

theorem Holds.step {requests : List Request} (hholds : Holds c requests s)
    (hstep : s.step parse_url a = some t) : Holds c requests t := by
  obtain ⟨hsound, conn, hconn, hrequests⟩ := hholds
  obtain ⟨next, hnext, ⟨act, -, hact⟩ | ⟨-, hsame⟩⟩ := step_at hstep hconn
  · have hgrows := Connection.grows_act hact
    exact ⟨hsound.step hstep, next, hnext, hrequests.trans hgrows.enqueued⟩
  · refine ⟨hsound.step hstep, next, hnext, ?_⟩
    obtain rfl | rfl := hsame <;> exact hrequests

/-- No step puts the worker of a connection back, and a turn of it brings it on. -/
theorem turns_left_ranked (Data : Type) (parse_url : ParseUrl) (c : Nat)
    (requests : List Request) :
    (server Data parse_url).Ranked (Holds c requests) (fun _ _ => True) (is_turn c)
      (rank_at c (Connection.turns_left requests.length)) := by
  have hstep : ∀ {s t : Server} {a : Action Data}, Holds c requests s →
      s.step parse_url a = some t →
      t.rank_at c (Connection.turns_left requests.length) ≤
          s.rank_at c (Connection.turns_left requests.length) ∧
        (is_turn c a = true → t.rank_at c (Connection.turns_left requests.length) ≤
          s.rank_at c (Connection.turns_left requests.length) - 1) := by
    rintro s t a ⟨hsound, conn, hconn, hrequests⟩ hstep
    refine rank_at_step hconn rfl (fun act next hact => ?_) hstep
    exact Connection.turns_left_act (hsound.conns conn (List.mem_of_getElem? hconn))
      hsound.draining_of_event hrequests.length_le hact
  exact ⟨fun hholds _ htaken => hholds.step htaken, fun hholds _ htaken => (hstep hholds htaken).1,
    fun hholds _ htaken => (hstep hholds htaken).2⟩

theorem range_prefix {n m : Nat} (hle : n ≤ m) : List.range n <+: List.range m := by
  have htake := List.take_prefix n (List.range m)
  rwa [List.take_range, Nat.min_eq_left hle] at htake

/-- Once the worker of a connection has had a turn for each request on its queue and one
more, all requests put there before have their responses, unless the connection has
been closed or a `dispatch` was cancelled on it. -/
theorem answered_in_turns {steps later : List (Server × Action Data)} {actions : List (Action Data)}
    (hrun : (server Data parse_url).Run steps s) {conn now : Connection}
    (hconn : s.conns[c]? = some conn)
    (htrace : (server Data parse_url).trace s actions = some (later, t))
    (huncancelled : ∀ taken ∈ steps ++ later, taken.1.Uncancelled c taken.2)
    (hnow : t.conns[c]? = some now) (hopen : now.is_open = true)
    (hturns : conn.pending.length + 1 ≤ actions.countP (is_turn c)) :
    conn.enqueued.length ≤ now.responses.length := by
  have hsound := sound_run hrun
  have hconn_sound := hsound.conns conn (List.mem_of_getElem? hconn)
  have hrank : s.rank_at c (Connection.turns_left conn.enqueued.length) ≤
      actions.countP (is_turn c) := by
    have hle := Connection.turns_left_le hconn_sound
    simp only [rank_at, hconn, Option.elim_some]
    omega
  have hranked := turns_left_ranked Data parse_url c conn.enqueued
  obtain ⟨⟨hlater_sound, -⟩, hnone⟩ := hranked.rank_eq_zero
    ⟨hsound, conn, hconn, List.prefix_rfl⟩ htrace (fun _ _ => trivial) hrank
  have halive := (manned_run (hrun.append_trace htrace) hnow hopen).2.mpr huncancelled
  refine Connection.answered_of_turns_left
    (hlater_sound.conns now (List.mem_of_getElem? hnow)) hopen halive ?_
  simpa only [rank_at, hnow, Option.elim_some] using hnone

/-- A request comes before the worker has had its first turn. -/
def received : List (Action Unit) :=
  [.connection_made none none, .connection 0 (.data_received (ascii "now") (get_feed none))]

/-- Its two turns. -/
def two_turns : List (Action Unit) :=
  [.connection 0 .worker,
   .connection 0 (.dispatched (ascii "now") (json_calls fun _ => some []))]

end Server

end massless.protocol
