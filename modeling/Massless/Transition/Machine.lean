import Mathlib.Data.List.Basic

namespace transition

/-- A machine: the states it may start in, and what an action does where it is
enabled. -/
structure Machine (S A : Type) where
  init : S → Prop
  step : S → A → Option S

variable {S A : Type}

/-- A run: the steps taken, each an action with the state it was taken in, and the
state reached. -/
inductive Machine.Run (m : Machine S A) : List (S × A) → S → Prop where
  | init {s : S} (hinit : m.init s) : Run m [] s
  | step {steps : List (S × A)} {s t : S} {a : A} (hrun : Run m steps s)
      (hstep : m.step s a = some t) : Run m (steps ++ [(s, a)]) t

namespace Machine.Run

variable {m : Machine S A} {steps : List (S × A)} {s : S}

/-- What holds at the start and is kept by every step, whatever was done before,
holds wherever a run gets. -/
theorem invariant_steps {I : List (S × A) → S → Prop} (hinit : ∀ s, m.init s → I [] s)
    (hstep : ∀ {steps s a t}, m.Run steps s → I steps s → m.step s a = some t →
      I (steps ++ [(s, a)]) t) (hrun : m.Run steps s) : I steps s := by
  induction hrun with
  | init hstart => exact hinit _ hstart
  | step hbefore htaken ih => exact hstep hbefore ih htaken

theorem invariant {I : S → Prop} (hinit : ∀ s, m.init s → I s)
    (hstep : ∀ {s a t}, I s → m.step s a = some t → I t) (hrun : m.Run steps s) : I s :=
  hrun.invariant_steps (I := fun _ s => I s) hinit fun _ hkept htaken => hstep hkept htaken

/-- The same for runs whose steps all meet a condition. -/
theorem invariant_where {I : S → Prop} {G : S → A → Prop} (hinit : ∀ s, m.init s → I s)
    (hstep : ∀ {steps s a t}, m.Run steps s → I s → G s a → m.step s a = some t → I t)
    (hrun : m.Run steps s) (hguard : ∀ taken ∈ steps, G taken.1 taken.2) : I s := by
  refine hrun.invariant_steps (I := fun steps s => (∀ taken ∈ steps, G taken.1 taken.2) → I s)
    (fun s hstart _ => hinit s hstart) ?_ hguard
  intro steps s a t hbefore hkept htaken hall
  simp only [List.forall_mem_append, List.forall_mem_singleton] at hall
  exact hstep hbefore (hkept hall.1) hall.2 htaken

/-- A property that a step keeps exactly when it meets a condition holds after
exactly the runs whose steps all met it. -/
theorem iff_forall_steps {P : S → Prop} {G : S → A → Prop} (hinit : ∀ s, m.init s → P s)
    (hstep : ∀ {steps s a t}, m.Run steps s → m.step s a = some t → (P t ↔ P s ∧ G s a))
    (hrun : m.Run steps s) : P s ↔ ∀ taken ∈ steps, G taken.1 taken.2 := by
  refine hrun.invariant_steps (I := fun steps s => P s ↔ ∀ taken ∈ steps, G taken.1 taken.2)
    (fun s hstart => iff_of_true (hinit s hstart) (by simp)) ?_
  intro steps s a t hbefore hkept htaken
  rw [hstep hbefore htaken, hkept]
  simp only [List.forall_mem_append, List.forall_mem_singleton]

end Machine.Run

/-- The steps that a list of actions takes from a state, if all are enabled. -/
def Machine.trace (m : Machine S A) : S → List A → Option (List (S × A) × S)
  | s, [] => some ([], s)
  | s, a :: rest => do
    let t ← m.step s a
    let (steps, last) ← m.trace t rest
    some ((s, a) :: steps, last)

theorem Machine.Run.append_trace {m : Machine S A} {actions : List A} {steps later : List (S × A)}
    {s t : S} (hrun : m.Run steps s) (htrace : m.trace s actions = some (later, t)) :
    m.Run (steps ++ later) t := by
  induction actions generalizing steps later s with
  | nil =>
    simp only [Machine.trace, Option.some.injEq, Prod.mk.injEq] at htrace
    obtain ⟨rfl, rfl⟩ := htrace
    simpa using hrun
  | cons a rest ih =>
    simp only [Machine.trace, Option.bind_eq_bind, Option.bind_eq_some_iff] at htrace
    obtain ⟨next, hstep, ⟨between, last⟩, hrest, hsome⟩ := htrace
    simp only [Option.some.injEq, Prod.mk.injEq] at hsome
    obtain ⟨rfl, rfl⟩ := hsome
    have hnext := ih (hrun.step hstep) hrest
    simpa using hnext

theorem Machine.trace_actions {m : Machine S A} {actions : List A} {steps : List (S × A)} {s t : S}
    (htrace : m.trace s actions = some (steps, t)) : steps.map Prod.snd = actions := by
  induction actions generalizing steps s with
  | nil =>
    simp only [Machine.trace, Option.some.injEq, Prod.mk.injEq] at htrace
    simp [← htrace.1]
  | cons a rest ih =>
    simp only [Machine.trace, Option.bind_eq_bind, Option.bind_eq_some_iff] at htrace
    obtain ⟨next, -, ⟨between, last⟩, hrest, hsome⟩ := htrace
    simp only [Option.some.injEq, Prod.mk.injEq] at hsome
    rw [← hsome.1, List.map_cons, ih (hrest.trans (by rw [hsome.2]))]

/-- The trace of a list of actions from the start is a run. -/
theorem Machine.run_of_trace {m : Machine S A} (actions : List A) {steps : List (S × A)} {s t : S}
    (hinit : m.init s) (htrace : m.trace s actions = some (steps, t)) : m.Run steps t := by
  have hrun := (Machine.Run.init hinit).append_trace htrace
  rwa [List.nil_append] at hrun

/-- A stream read in segments: what every segment extends to the part read so far
holds of the whole stream. -/
theorem foldl_segments {B : Type} {I : List B → S → Prop} {read : S → List B → S}
    (hread : ∀ done s segment, I done s → I (done ++ segment) (read s segment))
    (segments : List (List B)) {done : List B} {s : S} (hstart : I done s) :
    I (done ++ segments.flatten) (segments.foldl read s) := by
  induction segments generalizing done s with
  | nil => simpa using hstart
  | cons segment rest ih =>
    have hrest := ih (hread done s segment hstart)
    simpa using hrest

/-- A component of a system that a new one has joined. -/
theorem getElem?_joined {components : List S} {new found : S} {i : Nat}
    (hfound : (components ++ [new])[i]? = some found) :
    components[i]? = some found ∨ found = new := by
  grind

/-- A component of a system in which one has taken a step. -/
theorem getElem?_stepped {components : List S} {next found : S} {i j : Nat}
    (hfound : (components.set i next)[j]? = some found) :
    (j = i ∧ found = next) ∨ (j ≠ i ∧ components[j]? = some found) := by
  grind

/-- A component put where it is. -/
theorem set_getElem?_self {components : List S} {found : S} {i : Nat}
    (hfound : components[i]? = some found) : components.set i found = components := by
  obtain ⟨hbound, rfl⟩ := List.getElem?_eq_some_iff.mp hfound
  exact List.set_getElem_self hbound

end transition
