import Massless.Python.Dict

namespace python

variable {K V : Type} [DecidableEq K]

/-- Nested layers around an innermost dictionary, outermost first: each layer
contributes `own`, then `extra`, and everything further in overrides both. -/
def overlay (leaf : Dict K V) : List (Dict K V × Dict K V) → Dict K V
  | [] => leaf
  | (own, extra) :: inner => (own.update extra).update (overlay leaf inner)

/-- The same layers with every `extra` left out. -/
def overlay_own (leaf : Dict K V) : List (Dict K V × Dict K V) → Dict K V
  | [] => leaf
  | (own, _) :: inner => own.update (overlay_own leaf inner)

/-- Some layer, or the innermost dictionary, has the key. -/
def Provided (leaf : Dict K V) (key : K) (layers : List (Dict K V × Dict K V)) : Prop :=
  leaf.get? key ≠ none ∨ ∃ layer ∈ layers, layer.1.get? key ≠ none ∨ layer.2.get? key ≠ none

/-- Every `extra` entry is overridden further in, or repeats the value that the
`own` dictionaries seen so far give its key. -/
def ExtrasShadowed (leaf seen : Dict K V) : List (Dict K V × Dict K V) → Prop
  | [] => True
  | (own, extra) :: inner =>
    (∀ key value, extra.get? key = some value →
      Provided leaf key inner ∨ (seen.update own).get? key = some value) ∧
    ExtrasShadowed leaf (seen.update own) inner

theorem get?_overlay_eq_none_iff (leaf : Dict K V) (key : K)
    (layers : List (Dict K V × Dict K V)) :
    (overlay leaf layers).get? key = none ↔ ¬ Provided leaf key layers := by
  induction layers with
  | nil => simp [overlay, Provided]
  | cons layer inner ih =>
    obtain ⟨own, extra⟩ := layer
    simp only [overlay, Dict.get?_update, Option.or_eq_none_iff, ih, Provided, List.mem_cons,
      exists_eq_or_imp, not_or, ne_eq, not_not]
    constructor
    · rintro ⟨⟨hleaf, hinner⟩, hextra, hown⟩
      exact ⟨hleaf, ⟨hown, hextra⟩, hinner⟩
    · rintro ⟨hleaf, ⟨hown, hextra⟩, hinner⟩
      exact ⟨⟨hleaf, hinner⟩, hextra, hown⟩

theorem get?_overlay_own_of_not_provided {leaf : Dict K V} {key : K}
    {layers : List (Dict K V × Dict K V)} (habsent : ¬ Provided leaf key layers) :
    (overlay_own leaf layers).get? key = none := by
  induction layers with
  | nil => simpa [overlay_own, Provided] using habsent
  | cons layer inner ih =>
    obtain ⟨own, extra⟩ := layer
    simp only [Provided, List.mem_cons, exists_eq_or_imp, not_or, ne_eq, not_not] at habsent
    have hinner : (overlay_own leaf inner).get? key = none := by
      apply ih
      simpa only [Provided, not_or, ne_eq, not_not] using ⟨habsent.1, habsent.2.2⟩
    simp [overlay_own, hinner, habsent.2.1.1]

/-- The layers with and without their extras agree, below what was seen further
out, exactly when every extra is shadowed. -/
theorem same_overlay_own_iff (leaf : Dict K V) (layers : List (Dict K V × Dict K V))
    (seen : Dict K V) :
    (seen.update (overlay_own leaf layers)).Same (seen.update (overlay leaf layers)) ↔
      ExtrasShadowed leaf seen layers := by
  induction layers generalizing seen with
  | nil => simp [overlay, overlay_own, ExtrasShadowed, Dict.Same]
  | cons layer inner ih =>
    obtain ⟨own, extra⟩ := layer
    rw [ExtrasShadowed, ← ih, Dict.Same, Dict.Same, ← forall_and]
    apply forall_congr'
    intro key
    simp only [overlay, overlay_own, Dict.get?_update, Option.or_assoc]
    cases hextra : extra.get? key with
    | none => simp
    | some value =>
      by_cases hprovided : Provided leaf key inner
      · have hsome : (overlay leaf inner).get? key ≠ none := by
          rw [ne_eq, get?_overlay_eq_none_iff, not_not]
          exact hprovided
        obtain ⟨inside, hinside⟩ := Option.ne_none_iff_exists'.mp hsome
        simp [hinside, hprovided]
      · have houter := (get?_overlay_eq_none_iff leaf key inner).mpr hprovided
        simp [houter, get?_overlay_own_of_not_provided hprovided, hprovided]

end python
