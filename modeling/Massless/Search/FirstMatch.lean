import Mathlib.Data.List.Basic

namespace search

/-- A tree with labelled inner nodes and labelled leaves. -/
inductive Tree (N L : Type) where
  | leaf (label : L)
  | node (label : N) (children : List (Tree N L))

/-- The rules of a search: how a node is passed, which gives the state below it and what is
made there of what is found, and what is found at a leaf. -/
structure Rules (N L S A : Type) where
  enter : N → S → Option (S × (A → A))
  find : L → S → Option A

/-- A way from a root to a leaf: the nodes passed, outermost first, and the leaf. -/
abbrev Way (N L : Type) := List N × L

variable {N L S A : Type}

namespace Rules

variable (rules : Rules N L S A)

mutual

/-- The first find below a tree. A node that is passed is not left for another way of passing
it: what comes after it is tried with the state from before it. -/
def first : Tree N L → S → Option A
  | .leaf label, s => rules.find label s
  | .node label children, s =>
    match rules.enter label s with
    | none => none
    | some (below, back) => (first_all children below).map back

def first_all : List (Tree N L) → S → Option A
  | [], _ => none
  | tree :: rest, s =>
    match first tree s with
    | some found => some found
    | none => first_all rest s

end

/-- What is found along one way. -/
def along : List N → L → S → Option A
  | [], label, s => rules.find label s
  | node :: rest, label, s =>
    match rules.enter node s with
    | none => none
    | some (below, back) => (along rest label below).map back

end Rules

mutual

/-- The ways of a tree from left to right. -/
def ways : Tree N L → List (Way N L)
  | .leaf label => [([], label)]
  | .node label children => (ways_all children).map fun way => (label :: way.1, way.2)

def ways_all : List (Tree N L) → List (Way N L)
  | [] => []
  | tree :: rest => ways tree ++ ways_all rest

end

namespace Rules

variable (rules : Rules N L S A)

/-- Below a node its ways find what they find in the state below it. -/
theorem findSome?_below (node : N) (s : S) (below : List (Way N L)) :
    (below.map fun way => (node :: way.1, way.2)).findSome? (fun way => rules.along way.1 way.2 s) =
      match rules.enter node s with
      | none => none
      | some (state, back) =>
        (below.findSome? fun way => rules.along way.1 way.2 state).map back := by
  rw [List.findSome?_map, Function.comp_def]
  simp only [along]
  cases rules.enter node s with
  | none => simp
  | some entered => exact List.map_findSome?.symm

mutual

theorem first_eq_first_way (tree : Tree N L) (s : S) :
    rules.first tree s = (ways tree).findSome? fun way => rules.along way.1 way.2 s :=
  match tree with
  | .leaf label => by
    rw [first, ways, List.findSome?_singleton]
    rfl
  | .node label children => by
    rw [first, ways, findSome?_below]
    cases rules.enter label s with
    | none => rfl
    | some entered => simp only [first_all_eq_first_way children entered.1]

/-- Searching a forest is trying its ways from left to right. -/
theorem first_all_eq_first_way (trees : List (Tree N L)) (s : S) :
    rules.first_all trees s = (ways_all trees).findSome? fun way => rules.along way.1 way.2 s :=
  match trees with
  | [] => by rw [first_all, ways_all, List.findSome?_nil]
  | tree :: rest => by
    rw [first_all, ways_all, List.findSome?_append, first_eq_first_way tree s,
      first_all_eq_first_way rest s]
    cases (ways tree).findSome? fun way => rules.along way.1 way.2 s <;> rfl

end

/-- A search finds a value where some way finds it and no way before it finds anything. -/
theorem first_all_eq_some_iff {trees : List (Tree N L)} {s : S} {found : A} :
    rules.first_all trees s = some found ↔ ∃ before way after,
      ways_all trees = before ++ way :: after ∧ rules.along way.1 way.2 s = some found ∧
        ∀ other ∈ before, rules.along other.1 other.2 s = none := by
  rw [rules.first_all_eq_first_way, List.findSome?_eq_some_iff]

/-- A search ends at another way than the one at a given place. -/
def EndsElsewhere (trees : List (Tree N L)) (place : Nat) (s : S) (found : A) : Prop :=
  ∃ before way after, ways_all trees = before ++ way :: after ∧
    rules.along way.1 way.2 s = some found ∧
    (∀ other ∈ before, rules.along other.1 other.2 s = none) ∧ before.length ≠ place

/-- A search that finds a value ends at a given way or elsewhere. -/
theorem first_all_at_iff {trees : List (Tree N L)} {before after : List (Way N L)}
    {way : Way N L} (hways : ways_all trees = before ++ way :: after) {s : S} {found : A} :
    rules.first_all trees s = some found ↔
      ((∀ other ∈ before, rules.along other.1 other.2 s = none) ∧
        rules.along way.1 way.2 s = some found) ∨
      rules.EndsElsewhere trees before.length s found := by
  rw [rules.first_all_eq_some_iff]
  constructor
  · rintro ⟨front, last, rest, hsplit, hfound, hpassed⟩
    by_cases hplace : front.length = before.length
    · obtain ⟨rfl, hlast⟩ := List.append_inj (hsplit.symm.trans hways) hplace
      obtain ⟨rfl, -⟩ := List.cons.inj hlast
      exact Or.inl ⟨hpassed, hfound⟩
    · exact Or.inr ⟨front, last, rest, hsplit, hfound, hpassed, hplace⟩
  · rintro (⟨hpassed, hfound⟩ | ⟨front, last, rest, hsplit, hfound, hpassed, -⟩)
    · exact ⟨before, way, after, hways, hfound, hpassed⟩
    · exact ⟨front, last, rest, hsplit, hfound, hpassed⟩

end Rules

end search
