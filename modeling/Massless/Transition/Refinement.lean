import Mathlib.Data.List.Forall2
import Massless.Transition.Machine

namespace transition

variable {S T A B : Type} {m : Machine S A} {n : Machine T B} {G : S → A → Prop}
  {R : S → T → Prop} {view : A → Option B}

/-- A machine whose steps another one takes as well, as far as it sees them: what it does not
see keeps the states related. -/
structure Machine.Refines (m : Machine S A) (n : Machine T B) (G : S → A → Prop)
    (R : S → T → Prop) (view : A → Option B) : Prop where
  init : ∀ {s}, m.init s → ∃ t, n.init t ∧ R s t
  unseen : ∀ {s t a s'}, R s t → G s a → m.step s a = some s' → view a = none → R s' t
  seen : ∀ {s t a b s'}, R s t → G s a → m.step s a = some s' → view a = some b →
    ∃ t', n.step t b = some t' ∧ R s' t'

/-- The step of the abstract machine for one of the other: the same action, taken where the
states are related. -/
def Machine.Seen (R : S → T → Prop) (view : A → Option B) (taken : S × A) (followed : T × B) :
    Prop :=
  R taken.1 followed.1 ∧ view taken.2 = some followed.2

/-- Every run is one of the abstract machine, step by step. -/
theorem Machine.Refines.run (hrefines : m.Refines n G R view) {steps : List (S × A)} {s : S}
    (hrun : m.Run steps s) (hguard : ∀ taken ∈ steps, G taken.1 taken.2) :
    ∃ (followed : List (T × B)) (t : T), n.Run followed t ∧ R s t ∧
      List.Forall₂ (Machine.Seen R view) (steps.filter fun taken => (view taken.2).isSome)
        followed := by
  refine hrun.invariant_steps
    (I := fun steps s => (∀ taken ∈ steps, G taken.1 taken.2) → ∃ (followed : List (T × B)) (t : T),
      n.Run followed t ∧ R s t ∧ List.Forall₂ (Machine.Seen R view)
        (steps.filter fun taken => (view taken.2).isSome) followed) ?_ ?_ hguard
  · intro s hstart _
    obtain ⟨t, hinit, hrelated⟩ := hrefines.init hstart
    exact ⟨[], t, .init hinit, hrelated, .nil⟩
  · intro steps s a s' _ hbefore hstep hall
    simp only [List.forall_mem_append, List.forall_mem_singleton] at hall
    obtain ⟨followed, t, hfollowed, hrelated, hsteps⟩ := hbefore hall.1
    cases hview : view a with
    | none =>
      refine ⟨followed, t, hfollowed, hrefines.unseen hrelated hall.2 hstep hview, ?_⟩
      simpa [List.filter_append, hview] using hsteps
    | some b =>
      obtain ⟨t', ht, hnext⟩ := hrefines.seen hrelated hall.2 hstep hview
      refine ⟨followed ++ [(t, b)], t', hfollowed.step ht, hnext, ?_⟩
      rw [List.filter_append, List.filter_cons_of_pos (by simp [hview]), List.filter_nil]
      exact List.rel_append hsteps (.cons ⟨hrelated, hview⟩ .nil)

end transition
