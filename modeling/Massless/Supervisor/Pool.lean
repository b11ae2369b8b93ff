import Mathlib.Data.List.Nodup
import Massless.Supervisor.Recorded

open transition (Machine)

namespace massless.supervisor

/-- A process that is about to be recorded is not recorded yet. -/
def Spawn.Fresh (workers : List Nat) (started : Nat) : Spawn → Prop
  | .starting => True
  | .started proc => proc ∉ workers ∧ proc < started

/-- How many workers there are where the main thread is, with `n` of them to keep. -/
def Main.Counts (n : Nat) (workers : List Nat) (started : Nat) : Main → Prop
  | .start left => workers.length + left = n
  | .start_one left spawn => workers.length + left + 1 = n ∧ spawn.Fresh workers started
  | .monitor | .reap | .sleep => workers.length = n
  | .scan alive rest =>
    (alive ++ rest).Nodup ∧ (alive ++ rest).length ≤ n ∧ ∀ p ∈ alive ++ rest, p < started
  | .checked alive proc _ rest =>
    (alive ++ proc :: rest).Nodup ∧ (alive ++ proc :: rest).length ≤ n ∧
      ∀ p ∈ alive ++ proc :: rest, p < started
  | .fill => workers.length ≤ n
  | .counted len => workers.length = len ∧ len ≤ n
  | .restart spawn => workers.length < n ∧ spawn.Fresh workers started
  | .exiting _ | .leaving _ | .finished _ => True

/-- Until a shutdown begins, the record holds distinct processes, as many as there should be
at that place. -/
structure Pool (n : Nat) (s : Supervisor) : Prop where
  flagged : ∀ frame ∈ s.frames, frame ≠ .flag → s.shutting_down = true
  nodup : s.shutting_down = false → s.workers.Nodup
  known : s.shutting_down = false → ∀ p ∈ s.workers, p < s.started
  counts : s.shutting_down = false → s.main.Counts n s.workers s.started

variable {n : Nat} {s t : Supervisor}

theorem pool_init (hinit : (machine n).init s) : Pool n s := by
  cases hinit
  exact ⟨nofun, fun _ => List.nodup_nil, fun _ => nofun, fun _ => Nat.zero_add n⟩

/-- The first thing that a shutdown does is to raise the flag, and it stays raised. -/
theorem shutting_down_run_shutdown (below : List Shutdown) {frame : Shutdown}
    (hdown : frame ≠ .flag → s.shutting_down = true) :
    (s.run_shutdown below frame).shutting_down = true := by
  cases frame with
  | flag => rfl
  | signal rest => cases rest <;> exact hdown (by simp)
  | join rest => cases rest <;> exact hdown (by simp)
  | kill rest =>
    cases rest with
    | nil => exact hdown (by simp)
    | cons proc rest =>
      simp only [Supervisor.run_shutdown]
      split <;> exact hdown (by simp)
  | _ => exact hdown (by simp)

theorem Pool.run_shutdown (hpool : Pool n s) {frame : Shutdown} {below : List Shutdown}
    (hframes : s.frames = frame :: below) : Pool n (s.run_shutdown below frame) := by
  have hflagged := shutting_down_run_shutdown below
    (hpool.flagged frame (by rw [hframes]; exact List.mem_cons_self))
  constructor
  case flagged => exact fun _ _ _ => hflagged
  all_goals
    rw [hflagged]
    exact nofun

/-- The main thread goes on, and the record stays. -/
theorem Pool.set_main (hpool : Pool n s) {main : Main}
    (hcounts : s.shutting_down = false → main.Counts n s.workers s.started) :
    Pool n { s with main := main } :=
  ⟨hpool.flagged, hpool.nodup, hpool.known, hcounts⟩

theorem Pool.start_process (hpool : Pool n s) {next : Nat → Main}
    (hcounts : s.shutting_down = false → s.started ∉ s.workers →
      (next s.started).Counts n s.workers (s.started + 1)) : Pool n (s.start_process next) where
  flagged := hpool.flagged
  nodup := hpool.nodup
  known hdown p hp := Nat.lt_succ_of_lt (hpool.known hdown p hp)
  counts hdown := hcounts hdown fun hmem => Nat.lt_irrefl _ (hpool.known hdown _ hmem)

theorem Pool.append_worker (hpool : Pool n s) {proc : Nat} {next : Main}
    (hfresh : s.shutting_down = false → (Spawn.started proc).Fresh s.workers s.started)
    (hcounts : s.shutting_down = false → next.Counts n (s.workers ++ [proc]) s.started) :
    Pool n (s.append_worker proc next) where
  flagged := hpool.flagged
  nodup hdown := by
    rw [Supervisor.append_worker, List.nodup_append]
    refine ⟨hpool.nodup hdown, List.nodup_singleton proc, ?_⟩
    rintro p hp other hother rfl
    rw [List.mem_singleton.mp hother] at hp
    exact (hfresh hdown).1 hp
  known hdown p hp := by
    obtain hold | hnew := List.mem_append.mp hp
    · exact hpool.known hdown p hold
    · rw [List.mem_singleton.mp hnew]
      exact (hfresh hdown).2
  counts := hcounts

theorem Pool.run_main (hpool : Pool n s) {start_succeeds : Bool}
    (hnext : s.run_main n start_succeeds = some t) : Pool n t := by
  have hcounts := hpool.counts
  unfold Supervisor.run_main at hnext
  cases hmain : s.main with
  | start left =>
    rw [hmain] at hcounts hnext
    cases left with
    | zero =>
      cases hnext
      exact hpool.set_main hcounts
    | succ left =>
      cases hnext
      exact hpool.set_main fun hdown => ⟨hcounts hdown, trivial⟩
  | start_one left spawn =>
    rw [hmain] at hcounts hnext
    cases spawn with
    | starting =>
      simp only at hnext
      split at hnext
      · cases hnext
        exact hpool.start_process fun hdown hnew =>
          ⟨(hcounts hdown).1, hnew, Nat.lt_succ_self _⟩
      · cases hnext
        exact hpool.set_main fun _ => trivial
    | started proc =>
      cases hnext
      refine hpool.append_worker (fun hdown => (hcounts hdown).2) fun hdown => ?_
      have hlength := (hcounts hdown).1
      rw [Main.Counts, List.length_append, List.length_singleton]
      omega
  | monitor =>
    rw [hmain] at hcounts hnext
    simp only at hnext
    split at hnext
    · cases hnext
      exact hpool.set_main fun _ => trivial
    · cases hnext
      exact hpool.set_main hcounts
  | reap =>
    rw [hmain] at hcounts hnext
    simp only at hnext
    split at hnext
    · cases hnext
      exact hpool.set_main hcounts
    · cases hnext
      exact hpool.set_main fun hdown =>
        ⟨hpool.nodup hdown, Nat.le_of_eq (hcounts hdown), hpool.known hdown⟩
  | scan alive rest =>
    rw [hmain] at hcounts hnext
    cases rest with
    | nil =>
      cases hnext
      simp only [Main.Counts, List.append_nil] at hcounts
      exact ⟨hpool.flagged, fun hdown => (hcounts hdown).1, fun hdown => (hcounts hdown).2.2,
        fun hdown => (hcounts hdown).2.1⟩
    | cons proc rest =>
      cases hnext
      exact hpool.set_main hcounts
  | checked alive proc is_alive rest =>
    rw [hmain] at hcounts hnext
    cases is_alive with
    | true =>
      cases hnext
      refine hpool.set_main fun hdown => ?_
      simpa only [Main.Counts, List.append_assoc, List.singleton_append] using hcounts hdown
    | false =>
      cases hnext
      refine hpool.set_main fun hdown => ?_
      obtain ⟨hnodup, hlength, hknown⟩ := hcounts hdown
      have hsub : (alive ++ rest).Sublist (alive ++ proc :: rest) :=
        (List.sublist_cons_self proc rest).append_left alive
      exact ⟨hnodup.sublist hsub, Nat.le_trans hsub.length_le hlength,
        fun p hp => hknown p (hsub.mem hp)⟩
  | fill =>
    rw [hmain] at hcounts hnext
    cases hnext
    exact hpool.set_main fun hdown => ⟨rfl, hcounts hdown⟩
  | counted len =>
    rw [hmain] at hcounts hnext
    simp only at hnext
    split at hnext
    · rename_i hless
      cases hnext
      exact hpool.set_main fun hdown => ⟨(hcounts hdown).1.symm ▸ hless, trivial⟩
    · rename_i hfull
      cases hnext
      refine hpool.set_main fun hdown => ?_
      obtain ⟨hlength, hle⟩ := hcounts hdown
      rw [Main.Counts, hlength]
      omega
  | restart spawn =>
    rw [hmain] at hcounts hnext
    cases spawn with
    | starting =>
      simp only at hnext
      split at hnext
      · cases hnext
        exact hpool.start_process fun hdown hnew =>
          ⟨(hcounts hdown).1, hnew, Nat.lt_succ_self _⟩
      · cases hnext
        exact hpool.set_main fun _ => trivial
    | started proc =>
      cases hnext
      refine hpool.append_worker (fun hdown => (hcounts hdown).2) fun hdown => ?_
      have hlength := (hcounts hdown).1
      rw [Main.Counts, List.length_append, List.length_singleton]
      exact hlength
  | sleep =>
    rw [hmain] at hcounts hnext
    cases hnext
    exact hpool.set_main hcounts
  | exiting raised =>
    rw [hmain] at hnext
    cases hnext
    exact ⟨fun frame hframe hflag => absurd (List.mem_singleton.mp hframe) hflag, hpool.nodup,
      hpool.known, fun _ => trivial⟩
  | leaving raised =>
    rw [hmain] at hnext
    cases hnext
    exact hpool.set_main fun _ => trivial
  | finished raised =>
    rw [hmain] at hnext
    cases hnext

theorem Pool.step (hpool : Pool n s) {a : Action} (hstep : s.step n a = some t) : Pool n t := by
  cases a with
  | signal =>
    simp only [Supervisor.step] at hstep
    split at hstep
    · cases hstep
    · cases hstep
      refine ⟨fun frame hframe hflag => ?_, hpool.nodup, hpool.known, hpool.counts⟩
      exact hpool.flagged frame ((List.mem_cons.mp hframe).resolve_left hflag) hflag
  | exit proc =>
    simp only [Supervisor.step] at hstep
    split at hstep
    · cases hstep
    · cases hstep
      exact ⟨hpool.flagged, hpool.nodup, hpool.known, hpool.counts⟩
  | run start_succeeds =>
    simp only [Supervisor.step] at hstep
    split at hstep
    · rename_i frame below hframes
      cases hstep
      exact hpool.run_shutdown hframes
    · exact hpool.run_main hstep

theorem pool_run {steps : List (Supervisor × Action)} (hrun : (machine n).Run steps s) :
    Pool n s :=
  hrun.invariant (fun _ hinit => pool_init hinit) fun hpool hstep => hpool.step hstep

end massless.supervisor
