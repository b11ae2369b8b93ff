import Massless.Supervisor.Master

open transition (Machine)

namespace massless.supervisor

/-- The process that has been started and is not in `self._workers` yet. -/
def Main.pending : Main → List Nat
  | .start_one _ (.started proc) => [proc]
  | .restart (.started proc) => [proc]
  | _ => []

/-- A recorded worker that runs is not lost to the scan of `_reap_and_restart`: it has been
kept, or its turn is to come. -/
def Main.Keeps (p : Nat) : Main → Prop
  | .scan alive rest => p ∈ alive ∨ p ∈ rest
  | .checked alive proc is_alive rest => p ∈ alive ∨ (p = proc ∧ is_alive = true) ∨ p ∈ rest
  | _ => True

/-- A recorded worker that runs is still to be ended by a call of `shutdown` that is killing. -/
def Shutdown.Ends (p : Nat) : Shutdown → Prop
  | .kill rest => p ∈ rest
  | .kill_one proc rest => p = proc ∨ p ∈ rest
  | .join_killed proc rest => p = proc ∨ p ∈ rest
  | .clear => False
  | _ => True

/-- Every process that runs is recorded, or about to be, and whoever replaces the record
keeps or ends it. -/
structure Recorded (s : Supervisor) : Prop where
  covered : ∀ p ∈ s.live, p ∈ s.workers ∨ p ∈ s.main.pending
  scanned : ∀ p ∈ s.live, p ∈ s.workers → s.main.Keeps p
  ended : ∀ frame ∈ s.frames, ∀ p ∈ s.live, p ∈ s.workers → frame.Ends p
  leaving : ∀ raised, s.main = .leaving raised → s.frames = [] → s.workers = []
  finished : s.is_over = true → s.live = []

/-- A process start fails in `Supervisor.start` while an earlier worker runs. -/
def StrandsWorkers (s : Supervisor) (a : Action) : Prop :=
  s.frames = [] ∧ (∃ left, s.main = .start_one left .starting) ∧ a = .run false ∧ s.live ≠ []

variable {n : Nat} {s t : Supervisor}

theorem mem_live_end_process {p proc : Nat} :
    p ∈ (s.end_process proc).live ↔ p ∈ s.live ∧ p ≠ proc := by
  simp [Supervisor.end_process]

theorem Recorded.exit (hrecorded : Recorded s) (proc : Nat) : Recorded (s.end_process proc) where
  covered p hp := hrecorded.covered p (mem_live_end_process.mp hp).1
  scanned p hp := hrecorded.scanned p (mem_live_end_process.mp hp).1
  ended frame hframe p hp := hrecorded.ended frame hframe p (mem_live_end_process.mp hp).1
  leaving := hrecorded.leaving
  finished hover := by
    rw [Supervisor.end_process, hrecorded.finished hover]
    rfl

/-- A frame is put on those that are there, in the place of one or on top. -/
theorem Recorded.set_frame (hrecorded : Recorded s) {below : List Shutdown}
    (hbelow : ∀ frame ∈ below, frame ∈ s.frames) {frame : Shutdown}
    (hframe : ∀ p ∈ s.live, p ∈ s.workers → frame.Ends p) :
    Recorded { s with frames := frame :: below } where
  covered := hrecorded.covered
  scanned := hrecorded.scanned
  ended other hother := by
    obtain rfl | hmem := List.mem_cons.mp hother
    · exact hframe
    · exact hrecorded.ended other (hbelow other hmem)
  leaving _ _ hempty := nomatch hempty
  finished := hrecorded.finished

theorem Recorded.run_shutdown (hrecorded : Recorded s) {frame : Shutdown} {below : List Shutdown}
    (hframes : s.frames = frame :: below) : Recorded (s.run_shutdown below frame) := by
  have hbelow : ∀ other ∈ below, other ∈ s.frames := by
    intro other hother
    rw [hframes]
    exact List.mem_cons_of_mem _ hother
  have htop := hrecorded.ended frame (by rw [hframes]; exact List.mem_cons_self)
  cases frame with
  | flag =>
    have hset : Recorded { s with frames := .signal_workers :: below } :=
      hrecorded.set_frame hbelow fun _ _ _ => trivial
    exact ⟨hset.covered, hset.scanned, hset.ended, hset.leaving, hset.finished⟩
  | signal_workers => exact hrecorded.set_frame hbelow fun _ _ _ => trivial
  | signal rest => cases rest <;> exact hrecorded.set_frame hbelow fun _ _ _ => trivial
  | join_workers => exact hrecorded.set_frame hbelow fun _ _ _ => trivial
  | join rest => cases rest <;> exact hrecorded.set_frame hbelow fun _ _ _ => trivial
  | kill_workers => exact hrecorded.set_frame hbelow fun _ _ hworker => hworker
  | kill rest =>
    cases rest with
    | nil => exact hrecorded.set_frame hbelow fun p hp hworker => nomatch htop p hp hworker
    | cons proc rest =>
      simp only [Supervisor.run_shutdown]
      split
      · exact hrecorded.set_frame hbelow fun p hp hworker => List.mem_cons.mp (htop p hp hworker)
      · rename_i hdead
        refine hrecorded.set_frame hbelow fun p hp hworker => ?_
        obtain rfl | hrest := List.mem_cons.mp (htop p hp hworker)
        · exact absurd (by simpa [Supervisor.is_alive] using hp) hdead
        · exact hrest
  | kill_one proc rest => exact hrecorded.set_frame hbelow htop
  | join_killed proc rest =>
    refine (hrecorded.exit proc).set_frame hbelow fun p hp hworker => ?_
    obtain ⟨hlive, hother⟩ := mem_live_end_process.mp hp
    exact (htop p hlive hworker).resolve_left hother
  | clear =>
    -- Whoever still runs has been started and not been recorded yet.
    constructor
    case covered => exact fun p hp => Or.inr ((hrecorded.covered p hp).resolve_left (htop p hp))
    case scanned => exact fun _ _ hworker => nomatch hworker
    case ended => exact fun _ _ _ _ hworker => nomatch hworker
    case leaving => exact fun _ _ _ => rfl
    case finished => exact hrecorded.finished

/-- The main thread goes on without a change to the record. -/
theorem Recorded.set_main (hrecorded : Recorded s) (hframes : s.frames = []) {main : Main}
    (hpending : s.main.pending = []) (hkeeps : ∀ p ∈ s.live, p ∈ s.workers → main.Keeps p)
    (hleaving : ∀ raised, main = .leaving raised → s.workers = [])
    (hover : ∀ raised, main = .finished raised → s.live = []) :
    Recorded { s with main := main } where
  covered p hp := by
    have hcovered := hrecorded.covered p hp
    rw [hpending] at hcovered
    exact Or.inl (hcovered.resolve_right List.not_mem_nil)
  scanned := hkeeps
  ended frame hframe := by
    rw [hframes] at hframe
    cases hframe
  leaving raised hmain _ := hleaving raised hmain
  finished hmain := by
    cases main with
    | finished raised => exact hover raised rfl
    | _ => cases hmain

/-- A process that has been started is the one that is about to be recorded. -/
theorem Recorded.start_process (hrecorded : Recorded s) (hframes : s.frames = [])
    (hpending : s.main.pending = []) {next : Nat → Main}
    (hnext : ∀ proc, (next proc).pending = [proc]) (hkeeps : ∀ p proc, (next proc).Keeps p)
    (hstays : ∀ proc raised, next proc ≠ .leaving raised ∧ next proc ≠ .finished raised) :
    Recorded (s.start_process next) where
  covered p hp := by
    obtain hlive | hnew := List.mem_append.mp hp
    · have hcovered := hrecorded.covered p hlive
      rw [hpending] at hcovered
      exact Or.inl (hcovered.resolve_right List.not_mem_nil)
    · right
      rw [Supervisor.start_process, hnext]
      exact hnew
  scanned p _ _ := hkeeps p _
  ended frame hframe := by
    rw [Supervisor.start_process, hframes] at hframe
    cases hframe
  leaving raised hmain := absurd hmain (hstays _ raised).1
  finished hmain := by
    cases hnext : next s.started with
    | finished raised => exact absurd hnext (hstays _ raised).2
    | _ => simp [Supervisor.is_over, Supervisor.start_process, hnext] at hmain

theorem Recorded.append_worker (hrecorded : Recorded s) (hframes : s.frames = []) {proc : Nat}
    (hpending : s.main.pending = [proc]) {next : Main} (hkeeps : ∀ p, next.Keeps p)
    (hstays : ∀ raised, next ≠ .leaving raised ∧ next ≠ .finished raised) :
    Recorded (s.append_worker proc next) where
  covered p hp := by
    have hcovered := hrecorded.covered p hp
    rw [hpending] at hcovered
    exact Or.inl (List.mem_append.mpr hcovered)
  scanned p _ _ := hkeeps p
  ended frame hframe := by
    rw [Supervisor.append_worker, hframes] at hframe
    cases hframe
  leaving raised hmain := absurd hmain (hstays raised).1
  finished hmain := by
    cases next with
    | finished raised => exact absurd rfl (hstays raised).2
    | _ => cases hmain

theorem Recorded.run_main (hrecorded : Recorded s) (hframes : s.frames = [])
    {start_succeeds : Bool} (hguard : ¬StrandsWorkers s (.run start_succeeds))
    (hnext : s.run_main n start_succeeds = some t) : Recorded t := by
  have hscanned := hrecorded.scanned
  have hset := fun (hpending : s.main.pending = []) (main : Main)
      (hkeeps : ∀ p ∈ s.live, p ∈ s.workers → main.Keeps p) =>
    hrecorded.set_main hframes hpending hkeeps
  unfold Supervisor.run_main at hnext
  cases hmain : s.main with
  | start left =>
    rw [hmain] at hset hnext
    cases left <;>
      (cases hnext
       exact hset rfl _ (fun _ _ _ => trivial) nofun nofun)
  | start_one left spawn =>
    rw [hmain] at hset hnext
    cases spawn with
    | starting =>
      simp only at hnext
      split at hnext
      · cases hnext
        exact hrecorded.start_process hframes (by rw [hmain]; rfl) (fun _ => rfl)
          (fun _ _ => trivial) fun _ _ => ⟨nofun, nofun⟩
      · rename_i hfails
        cases hnext
        have hnone : s.live = [] := by
          by_contra hlive
          exact hguard ⟨hframes, ⟨left, hmain⟩, by simpa using hfails, hlive⟩
        exact hset rfl _ (fun _ _ _ => trivial) nofun fun _ _ => hnone
    | started proc =>
      cases hnext
      exact hrecorded.append_worker hframes (by rw [hmain]; rfl) (fun _ => trivial)
        fun _ => ⟨nofun, nofun⟩
  | monitor =>
    rw [hmain] at hset hnext
    simp only at hnext
    split at hnext <;>
      (cases hnext
       exact hset rfl _ (fun _ _ _ => trivial) nofun nofun)
  | reap =>
    rw [hmain] at hset hnext
    simp only at hnext
    split at hnext
    · cases hnext
      exact hset rfl _ (fun _ _ _ => trivial) nofun nofun
    · cases hnext
      exact hset rfl _ (fun _ _ hworker => Or.inr hworker) nofun nofun
  | scan alive rest =>
    rw [hmain] at hset hnext hscanned
    cases rest with
    | nil =>
      cases hnext
      -- What the scan has kept is the new record.
      have hkept := hset rfl .fill (fun _ _ _ => trivial) nofun nofun
      constructor
      case covered =>
        intro p hp
        have hcovered := hkept.covered p hp
        exact Or.inl ((hscanned p hp (hcovered.resolve_right List.not_mem_nil)).resolve_right
          List.not_mem_nil)
      case scanned => exact fun _ _ _ => trivial
      case ended => exact fun frame hframe => absurd hframe (by simp [hframes])
      case leaving => exact nofun
      case finished => exact nofun
    | cons proc rest =>
      cases hnext
      refine hset rfl _ (fun p hp hworker => ?_) nofun nofun
      have hkept := hscanned p hp hworker
      simp only [Main.Keeps, List.mem_cons, Supervisor.is_alive, decide_eq_true_eq] at hkept ⊢
      obtain halive | rfl | hrest := hkept
      · exact Or.inl halive
      · exact Or.inr (Or.inl ⟨rfl, hp⟩)
      · exact Or.inr (Or.inr hrest)
  | checked alive proc is_alive rest =>
    rw [hmain] at hset hnext hscanned
    cases is_alive with
    | false =>
      cases hnext
      refine hset rfl _ (fun p hp hworker => ?_) nofun nofun
      simpa [Main.Keeps] using hscanned p hp hworker
    | true =>
      cases hnext
      refine hset rfl _ (fun p hp hworker => ?_) nofun nofun
      simpa [Main.Keeps, or_assoc] using hscanned p hp hworker
  | fill =>
    rw [hmain] at hset hnext
    cases hnext
    exact hset rfl _ (fun _ _ _ => trivial) nofun nofun
  | counted len =>
    rw [hmain] at hset hnext
    simp only at hnext
    split at hnext <;>
      (cases hnext
       exact hset rfl _ (fun _ _ _ => trivial) nofun nofun)
  | restart spawn =>
    rw [hmain] at hset hnext
    cases spawn with
    | starting =>
      simp only at hnext
      split at hnext
      · cases hnext
        exact hrecorded.start_process hframes (by rw [hmain]; rfl) (fun _ => rfl)
          (fun _ _ => trivial) fun _ _ => ⟨nofun, nofun⟩
      · cases hnext
        exact hset rfl _ (fun _ _ _ => trivial) nofun nofun
    | started proc =>
      cases hnext
      exact hrecorded.append_worker hframes (by rw [hmain]; rfl) (fun _ => trivial)
        fun _ => ⟨nofun, nofun⟩
  | sleep =>
    rw [hmain] at hset hnext
    cases hnext
    exact hset rfl _ (fun _ _ _ => trivial) nofun nofun
  | exiting raised =>
    rw [hmain] at hset hnext
    cases hnext
    have hmonitor := hset rfl .monitor (fun _ _ _ => trivial) nofun nofun
    constructor
    case covered => exact hmonitor.covered
    case scanned => exact fun _ _ _ => trivial
    case ended =>
      intro frame hframe p hp hworker
      cases List.mem_singleton.mp hframe
      trivial
    case leaving => exact nofun
    case finished => exact nofun
  | leaving raised =>
    have hnone : s.live = [] := by
      rw [List.eq_nil_iff_forall_not_mem]
      intro p hp
      have hcovered := hrecorded.covered p hp
      rw [hrecorded.leaving raised hmain hframes, hmain] at hcovered
      exact hcovered.elim List.not_mem_nil List.not_mem_nil
    rw [hmain] at hset hnext
    cases hnext
    exact hset rfl _ (fun _ _ _ => trivial) nofun fun _ _ => hnone
  | finished raised =>
    rw [hmain] at hnext
    cases hnext

/-- A step that strands no worker keeps every process that runs on record. -/
theorem Recorded.step (hrecorded : Recorded s) {a : Action} (hguard : ¬StrandsWorkers s a)
    (hstep : s.step n a = some t) : Recorded t := by
  cases a with
  | signal =>
    simp only [Supervisor.step] at hstep
    split at hstep
    · cases hstep
    · cases hstep
      exact hrecorded.set_frame (fun _ hframe => hframe) fun _ _ _ => trivial
  | exit proc =>
    simp only [Supervisor.step] at hstep
    split at hstep
    · cases hstep
    · cases hstep
      exact hrecorded.exit proc
  | run start_succeeds =>
    simp only [Supervisor.step] at hstep
    split at hstep
    · rename_i frame below hframes
      cases hstep
      exact hrecorded.run_shutdown hframes
    · rename_i hframes
      exact hrecorded.run_main hframes hguard hstep

theorem recorded_init (hinit : (machine n).init s) : Recorded s := by
  cases hinit
  exact ⟨nofun, nofun, nofun, nofun, fun _ => rfl⟩

/-- In a run that strands no worker every process that runs is on record. -/
theorem recorded_run {steps : List (Supervisor × Action)} (hrun : (machine n).Run steps s)
    (hguard : ∀ taken ∈ steps, ¬StrandsWorkers taken.1 taken.2) : Recorded s :=
  hrun.invariant_where (fun _ hinit => recorded_init hinit)
    (fun _ hrecorded hguard hstep => hrecorded.step hguard hstep) hguard

end massless.supervisor
