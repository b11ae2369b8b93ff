import Massless.Transition.Machine

namespace transition

variable {S A : Type} {m : Machine S A} {I : S → Prop} {G : S → A → Prop} {turn : A → Bool}
  {rank : S → Nat}

/-- What every step keeps holds after any number of them. -/
theorem Machine.trace_invariant (hkeeps : ∀ {s a t}, I s → m.step s a = some t → I t)
    {actions : List A} {s t : S} {later : List (S × A)} (hstart : I s)
    (htrace : m.trace s actions = some (later, t)) : I t := by
  induction actions generalizing s later with
  | nil =>
    simp only [Machine.trace, Option.some.injEq, Prod.mk.injEq] at htrace
    rwa [← htrace.2]
  | cons a rest ih =>
    simp only [Machine.trace, Option.bind_eq_bind, Option.bind_eq_some_iff] at htrace
    obtain ⟨next, hstep, ⟨between, last⟩, hrest, hsome⟩ := htrace
    simp only [Option.some.injEq, Prod.mk.injEq] at hsome
    obtain ⟨-, rfl⟩ := hsome
    exact ih (hkeeps hstart hstep) hrest

/-- A step of a machine that keeps an invariant does not raise the rank of its state,
and lowers it when it is a turn, down to zero. -/
structure Machine.Ranked (m : Machine S A) (I : S → Prop) (G : S → A → Prop) (turn : A → Bool)
    (rank : S → Nat) : Prop where
  keeps : ∀ {s a t}, I s → G s a → m.step s a = some t → I t
  rank_le : ∀ {s a t}, I s → G s a → m.step s a = some t → rank t ≤ rank s
  turn_lt : ∀ {s a t}, I s → G s a → m.step s a = some t → turn a = true → rank t ≤ rank s - 1

/-- After some turns, whatever steps are taken between them, the rank is down by as
many. -/
theorem Machine.Ranked.rank_trace (hranked : m.Ranked I G turn rank) {actions : List A}
    {s t : S} {later : List (S × A)} (hstart : I s) (htrace : m.trace s actions = some (later, t))
    (hguard : ∀ taken ∈ later, G taken.1 taken.2) :
    I t ∧ rank t ≤ rank s - actions.countP turn := by
  induction actions generalizing s later with
  | nil =>
    simp only [Machine.trace, Option.some.injEq, Prod.mk.injEq] at htrace
    obtain ⟨rfl, rfl⟩ := htrace
    exact ⟨hstart, by simp⟩
  | cons a rest ih =>
    simp only [Machine.trace, Option.bind_eq_bind, Option.bind_eq_some_iff] at htrace
    obtain ⟨next, hstep, ⟨between, last⟩, hrest, hsome⟩ := htrace
    simp only [Option.some.injEq, Prod.mk.injEq] at hsome
    obtain ⟨rfl, rfl⟩ := hsome
    obtain ⟨hnow, hafter⟩ := List.forall_mem_cons.mp hguard
    obtain ⟨hkept, hdown⟩ := ih (hranked.keeps hstart hnow hstep) hrest hafter
    refine ⟨hkept, ?_⟩
    have hle := hranked.rank_le hstart hnow hstep
    cases hturn : turn a with
    | false =>
      rw [List.countP_cons_of_neg (by simp [hturn])]
      omega
    | true =>
      have hlt := hranked.turn_lt hstart hnow hstep hturn
      rw [List.countP_cons_of_pos hturn]
      omega

/-- So it is zero after that many turns. -/
theorem Machine.Ranked.rank_eq_zero (hranked : m.Ranked I G turn rank) {actions : List A}
    {s t : S} {later : List (S × A)} (hstart : I s) (htrace : m.trace s actions = some (later, t))
    (hguard : ∀ taken ∈ later, G taken.1 taken.2) (hturns : rank s ≤ actions.countP turn) :
    I t ∧ rank t = 0 := by
  obtain ⟨hkept, hdown⟩ := hranked.rank_trace hstart htrace hguard
  exact ⟨hkept, by omega⟩

/-- Where every step lowers the rank, no sequence of steps is longer than the rank that it starts
with. -/
theorem Machine.length_add_rank_le (hdown : ∀ {s a t}, m.step s a = some t → rank t < rank s)
    {actions : List A} {s t : S} {later : List (S × A)}
    (htrace : m.trace s actions = some (later, t)) : actions.length + rank t ≤ rank s := by
  induction actions generalizing s later with
  | nil =>
    simp only [Machine.trace, Option.some.injEq, Prod.mk.injEq] at htrace
    obtain ⟨rfl, rfl⟩ := htrace
    simp
  | cons a rest ih =>
    simp only [Machine.trace, Option.bind_eq_bind, Option.bind_eq_some_iff] at htrace
    obtain ⟨next, hstep, ⟨between, last⟩, hrest, hsome⟩ := htrace
    simp only [Option.some.injEq, Prod.mk.injEq] at hsome
    obtain ⟨rfl, rfl⟩ := hsome
    have hrank := hdown hstep
    have hless := ih hrest
    rw [List.length_cons]
    omega

end transition
