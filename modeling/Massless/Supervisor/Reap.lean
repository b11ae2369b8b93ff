import Massless.Supervisor.Pool

open transition (Machine)

namespace massless.supervisor

/-- The main thread is inside `_reap_and_restart`. -/
def Main.in_reap : Main → Bool
  | .reap | .scan _ _ | .checked _ _ _ _ | .fill | .counted _ | .restart _ => true
  | _ => false

/-- The system from a state on. -/
def machine_from (n : Nat) (s : Supervisor) : Machine Supervisor Action where
  init t := t = s
  step := Supervisor.step n

/-- A call of `_reap_and_restart` that goes from one state to another, with no signal in
between. -/
structure ReapStep (n : Nat) (s : Supervisor) (steps : List (Supervisor × Action))
    (t : Supervisor) : Prop where
  begins : s.main = .reap ∧ s.frames = []
  run : (machine_from n s).Run steps t
  uninterrupted : ∀ taken ∈ steps, taken.1.main.in_reap = true ∧ taken.2 ≠ .signal

/-- The scan asks for a process that has exited. -/
def FindsExited (p : Nat) (s : Supervisor) (a : Action) : Prop :=
  (∃ alive rest, s.main = .scan alive (p :: rest)) ∧ (∃ start_succeeds, a = .run start_succeeds) ∧
    s.is_alive p = false

/-- A worker is on record, or kept by the scan. -/
def Main.Holds (p : Nat) (workers : List Nat) : Main → Prop
  | .scan alive rest => p ∈ alive ∨ p ∈ rest
  | .checked alive proc is_alive rest => p ∈ alive ∨ (p = proc ∧ is_alive = true) ∨ p ∈ rest
  | _ => p ∈ workers

variable {n : Nat} {s t u : Supervisor}

/-- A step of `_reap_and_restart` holds on to a worker, unless it finds that it has exited. -/
theorem holds_run_main {p : Nat} {start_succeeds : Bool} (hreap : s.main.in_reap = true)
    (hdown : s.shutting_down = false) (hholds : s.main.Holds p s.workers)
    (hnext : s.run_main n start_succeeds = some t) :
    t.main.Holds p t.workers ∨ FindsExited p s (.run start_succeeds) := by
  unfold Supervisor.run_main at hnext
  cases hmain : s.main with
  | reap =>
    rw [hmain] at hholds
    simp only [hmain, hdown, Bool.false_eq_true, if_false, Option.some.injEq] at hnext
    subst hnext
    exact Or.inl (Or.inr hholds)
  | scan alive rest =>
    rw [hmain] at hholds hnext
    cases rest with
    | nil =>
      cases hnext
      exact Or.inl (hholds.resolve_right List.not_mem_nil)
    | cons proc rest =>
      cases hnext
      obtain halive | hrest := hholds
      · exact Or.inl (Or.inl halive)
      · obtain rfl | hlater := List.mem_cons.mp hrest
        · cases hrunning : s.is_alive p with
          | true => exact Or.inl (Or.inr (Or.inl ⟨rfl, rfl⟩))
          | false => exact Or.inr ⟨⟨alive, rest, hmain⟩, ⟨start_succeeds, rfl⟩, hrunning⟩
        · exact Or.inl (Or.inr (Or.inr hlater))
  | checked alive proc is_alive rest =>
    rw [hmain] at hholds hnext
    left
    cases is_alive with
    | true =>
      cases hnext
      simpa [Main.Holds, or_assoc] using hholds
    | false =>
      cases hnext
      simpa [Main.Holds] using hholds
  | fill =>
    rw [hmain] at hholds hnext
    cases hnext
    exact Or.inl hholds
  | counted len =>
    rw [hmain] at hholds hnext
    simp only at hnext
    split at hnext <;>
      (cases hnext
       exact Or.inl hholds)
  | restart spawn =>
    rw [hmain] at hholds hnext
    left
    cases spawn with
    | starting =>
      simp only at hnext
      split at hnext
      · cases hnext
        exact hholds
      · cases hnext
        exact hholds
    | started proc =>
      cases hnext
      exact List.mem_append_left _ hholds
  | _ =>
    rw [hmain] at hreap
    cases hreap

/-- `run_supervised` itself calls `shutdown` in its `finally` only. -/
theorem frames_run_main {start_succeeds : Bool} (hnext : s.run_main n start_succeeds = some t) :
    t.shutting_down = s.shutting_down ∧
      (t.frames = s.frames ∨ ∃ raised, s.main = .exiting raised ∧ t.main = .leaving raised) := by
  unfold Supervisor.run_main at hnext
  split at hnext
  case h_16 raised hmain =>
    cases hnext
    exact ⟨rfl, Or.inr ⟨raised, hmain, rfl⟩⟩
  all_goals first
    | (cases hnext; done)
    | (cases hnext; exact ⟨rfl, Or.inl rfl⟩)
    | (split at hnext <;> (cases hnext; exact ⟨rfl, Or.inl rfl⟩))

/-- Where an undisturbed call of `_reap_and_restart` is: the workers that ran when it began
are held, but for those that it has found exited. -/
structure Undisturbed (s : Supervisor) (steps : List (Supervisor × Action)) (t : Supervisor) :
    Prop where
  frames : t.frames = []
  running : t.shutting_down = false
  held : ∀ p ∈ s.live, t.main.Holds p t.workers ∨ ∃ taken ∈ steps, FindsExited p taken.1 taken.2

theorem Undisturbed.step {steps : List (Supervisor × Action)} {a : Action}
    (hstays : Undisturbed s steps t) (hreap : t.main.in_reap = true) (hsignal : a ≠ .signal)
    (hstep : t.step n a = some u) : Undisturbed s (steps ++ [(t, a)]) u := by
  have hpast : ∀ p, (∃ taken ∈ steps, FindsExited p taken.1 taken.2) →
      ∃ taken ∈ steps ++ [(t, a)], FindsExited p taken.1 taken.2 :=
    fun p ⟨taken, hmem, hfinds⟩ => ⟨taken, List.mem_append_left _ hmem, hfinds⟩
  cases a with
  | signal => exact absurd rfl hsignal
  | exit proc =>
    simp only [Supervisor.step] at hstep
    split at hstep
    · cases hstep
    · cases hstep
      exact ⟨hstays.frames, hstays.running, fun p hp => (hstays.held p hp).imp_right (hpast p)⟩
  | run start_succeeds =>
    simp only [Supervisor.step, hstays.frames] at hstep
    obtain ⟨hdown, hframes⟩ := frames_run_main hstep
    have hnone : u.frames = [] := by
      obtain heq | ⟨raised, hmain, -⟩ := hframes
      · exact heq.trans hstays.frames
      · rw [hmain] at hreap
        cases hreap
    refine ⟨hnone, hdown.trans hstays.running, fun p hp => ?_⟩
    obtain hholds | hfound := hstays.held p hp
    · exact (holds_run_main hreap hstays.running hholds hstep).imp_right fun hfinds =>
        ⟨(t, .run start_succeeds), by simp, hfinds⟩
    · exact Or.inr (hpast p hfound)

/-- What a call of `_reap_and_restart` has done that no signal came into: there are `n`
workers, and who is not among them that ran when it began had exited before it looked. -/
theorem ReapStep.keeps {steps : List (Supervisor × Action)} (hstep : ReapStep n s steps t)
    (hrecorded : Recorded s) (hpool : Pool n s) (hrunning : s.shutting_down = false) :
    t.main = .sleep → t.workers.length = n ∧ t.workers.Nodup ∧
      ∀ p ∈ s.live, p ∈ t.workers ∨ ∃ taken ∈ steps, FindsExited p taken.1 taken.2 := by
  obtain ⟨⟨hbegins, hframes⟩, hrun, huninterrupted⟩ := hstep
  have hstays : Undisturbed s steps t := by
    refine hrun.invariant_steps
      (I := fun steps t => (∀ taken ∈ steps, taken.1.main.in_reap = true ∧ taken.2 ≠ .signal) →
        Undisturbed s steps t) ?_ ?_ huninterrupted
    · rintro _ rfl _
      refine ⟨hframes, hrunning, fun p hp => Or.inl ?_⟩
      have hcovered := hrecorded.covered p hp
      rw [hbegins] at hcovered ⊢
      exact hcovered.resolve_right List.not_mem_nil
    · intro steps t a u _ hkept htaken hall
      rw [List.forall_mem_append, List.forall_mem_singleton] at hall
      exact (hkept hall.1).step hall.2.1 hall.2.2 htaken
  have hpools : Pool n t :=
    hrun.invariant (by rintro _ rfl; exact hpool) fun hkept htaken => hkept.step htaken
  intro hsleep
  have hcounts := hpools.counts hstays.running
  have hheld := hstays.held
  rw [hsleep] at hcounts hheld
  exact ⟨hcounts, hpools.nodup hstays.running, hheld⟩

theorem main_run_shutdown (s : Supervisor) (below : List Shutdown) (frame : Shutdown) :
    (s.run_shutdown below frame).main = s.main := by
  unfold Supervisor.run_shutdown
  split
  case h_9 => split <;> rfl
  all_goals rfl

theorem no_step_of_over (hover : s.is_over = true) (hframes : s.frames = []) (a : Action) :
    s.step n a = none := by
  cases a with
  | signal => rw [Supervisor.step, if_pos hover]
  | exit proc => rw [Supervisor.step, hover, Bool.true_or, if_pos rfl]
  | run start_succeeds =>
    rw [Supervisor.step, hframes]
    cases hmain : s.main with
    | finished raised => rw [Supervisor.run_main, hmain]
    | _ => simp [Supervisor.is_over, hmain] at hover

/-- Nothing runs when `run_supervised` is over. -/
theorem frames_of_over {steps : List (Supervisor × Action)} (hrun : (machine n).Run steps s)
    (hover : s.is_over = true) : s.frames = [] := by
  refine hrun.invariant (I := fun s => s.is_over = true → s.frames = []) ?_ ?_ hover
  · rintro s rfl _
    rfl
  · intro s a t hkept hstep hdone
    cases a with
    | signal =>
      simp only [machine, Supervisor.step] at hstep
      split at hstep
      · cases hstep
      · rename_i hgoes
        cases hstep
        exact absurd hdone hgoes
    | exit proc =>
      simp only [machine, Supervisor.step] at hstep
      split at hstep
      · cases hstep
      · cases hstep
        exact hkept hdone
    | run start_succeeds =>
      simp only [machine, Supervisor.step] at hstep
      split at hstep
      · rename_i frame below hframes
        cases hstep
        have hmain := main_run_shutdown s below frame
        rw [Supervisor.is_over, hmain] at hdone
        rw [hkept hdone] at hframes
        cases hframes
      · rename_i hframes
        obtain heq | ⟨raised, -, hmain⟩ := (frames_run_main hstep).2
        · exact heq.trans hframes
        · simp [Supervisor.is_over, hmain] at hdone

/-- A run that has stranded workers is over. -/
theorem over_of_stranded {steps : List (Supervisor × Action)} (hrun : (machine n).Run steps s)
    (hstranded : ∃ taken ∈ steps, StrandsWorkers taken.1 taken.2) : s.is_over = true := by
  refine hrun.invariant_steps
    (I := fun steps s => (∃ taken ∈ steps, StrandsWorkers taken.1 taken.2) → s.is_over = true)
    (fun _ _ hnone => by simp at hnone) ?_ hstranded
  rintro steps s a t hbefore hover hstep ⟨taken, hmem, hstrands⟩
  obtain hpast | hlast := List.mem_append.mp hmem
  · -- Nothing happens any more.
    have hdone := hover ⟨taken, hpast, hstrands⟩
    have hnone := no_step_of_over (n := n) hdone (frames_of_over hbefore hdone) a
    exact absurd (hnone.symm.trans hstep) nofun
  · rw [List.mem_singleton.mp hlast] at hstrands
    obtain ⟨hframes, ⟨left, hmain⟩, rfl, -⟩ := hstrands
    dsimp only at hframes hmain
    simp only [machine, Supervisor.step, hframes, Supervisor.run_main, hmain, Bool.false_eq_true,
      if_false, Option.some.injEq] at hstep
    rw [← hstep]
    rfl

/-- What the supervisor keeps to, as long as no process start fails in `start` while an
earlier worker runs: when `run_supervised` is over no process it started runs. And what
`_reap_and_restart` does in any run: a call that begins before a shutdown, is not
interrupted by one and returns leaves `n` workers on record, among them every worker that
ran when it began and had not exited when the scan asked for it. -/
structure Supervised (n : Nat) : Prop where
  no_orphan : ∀ steps s, (machine n).Run steps s →
    (∀ taken ∈ steps, ¬StrandsWorkers taken.1 taken.2) → s.is_over = true → s.live = []
  pool_kept : ∀ before s steps t, (machine n).Run before s → ReapStep n s steps t →
    s.shutting_down = false → t.main = .sleep → t.workers.length = n ∧ t.workers.Nodup ∧
      ∀ p ∈ s.live, p ∈ t.workers ∨ ∃ taken ∈ steps, FindsExited p taken.1 taken.2

theorem supervised (n : Nat) : Supervised n where
  no_orphan steps s hrun hguard := (recorded_run hrun hguard).finished
  pool_kept before s steps t hrun hreap hrunning := by
    have hguard : ∀ taken ∈ before, ¬StrandsWorkers taken.1 taken.2 := by
      intro taken hmem hstrands
      have hover := over_of_stranded hrun ⟨taken, hmem, hstrands⟩
      simp [Supervisor.is_over, hreap.begins.1] at hover
    exact hreap.keeps (recorded_run hrun hguard) (pool_run hrun) hrunning

/-- The supervisor as it would be without exceptions: no process outlives `run_supervised`,
and every call of `_reap_and_restart` that no signal interrupts ends with `n` workers, among
them all that ran when it began. -/
structure Unconditional (n : Nat) : Prop where
  no_orphan : ∀ steps s, (machine n).Run steps s → s.is_over = true → s.live = []
  pool_kept : ∀ before s steps t, (machine n).Run before s → ReapStep n s steps t →
    t.main.in_reap = false → t.workers.length = n ∧ t.workers.Nodup ∧ ∀ p ∈ s.live, p ∈ t.workers

/-- The run of a list of actions from a state. -/
theorem run_from (actions : List Action) {steps : List (Supervisor × Action)}
    (htrace : (machine_from n s).trace s actions = some (steps, t)) :
    (machine_from n s).Run steps t :=
  Machine.run_of_trace actions rfl htrace

/-- None of it holds without exceptions. A process start that fails in `start` leaves the
worker before it running. A worker that exits in `_reap_and_restart` is replaced at once; a
call that begins after a shutdown does nothing; and one in which a process start fails
raises. -/
theorem unconditional_fails : ¬Unconditional 1 ∧
    (∃ steps s, (machine 2).Run steps s ∧ s.is_over = true ∧ s.live = [0]) ∧
    (∃ before s steps t, (machine 1).Run before s ∧ ReapStep 1 s steps t ∧
      t.main = .sleep ∧ s.live = [0] ∧ t.workers = [1]) ∧
    (∃ before s steps t, (machine 1).Run before s ∧ ReapStep 1 s steps t ∧
      t.main = .sleep ∧ t.workers = []) ∧
    ∃ before s steps t, (machine 1).Run before s ∧ ReapStep 1 s steps t ∧
      t.main = .exiting true ∧ t.workers = [] := by
  have hreplaced : ∃ before s steps t, (machine 1).Run before s ∧ ReapStep 1 s steps t ∧
      t.main = .sleep ∧ s.live = [0] ∧ t.workers = [1] :=
    ⟨_, _, _, _, Machine.run_of_trace (List.replicate 5 (.run true)) rfl rfl,
      ⟨⟨rfl, rfl⟩, run_from (.exit 0 :: List.replicate 10 (.run true)) rfl, by decide⟩, rfl, rfl, rfl⟩
  refine ⟨fun hall => ?_, ?_, hreplaced, ?_, ?_⟩
  · obtain ⟨before, s, steps, t, hrun, hreap, hmain, hlive, hworkers⟩ := hreplaced
    have hkept := (hall.pool_kept before s steps t hrun hreap (by rw [hmain]; rfl)).2.2 0
    simp [hlive, hworkers] at hkept
  · exact ⟨_, _, Machine.run_of_trace [.run true, .run true, .run true, .run true, .run false] rfl
      rfl, rfl, rfl⟩
  · exact ⟨_, _, _, _, Machine.run_of_trace
      (List.replicate 5 (.run true) ++ .signal :: List.replicate 13 (.run true)) rfl rfl,
      ⟨⟨rfl, rfl⟩, run_from [.run true] rfl, by decide⟩, rfl, rfl⟩
  · exact ⟨_, _, _, _, Machine.run_of_trace (List.replicate 5 (.run true)) rfl rfl,
      ⟨⟨rfl, rfl⟩, run_from (.exit 0 :: List.replicate 6 (.run true) ++ [.run false]) rfl,
        by decide⟩, rfl, rfl⟩

end massless.supervisor
