import Mathlib.Data.List.Basic
import Mathlib.Data.List.Nodup

namespace python

/-- Store `value` under `key` in a list of entries: an existing key keeps its
place, a new key goes to the end. -/
def setEntries {K V : Type} [DecidableEq K] (key : K) (value : V) : List (K × V) → List (K × V)
  | [] => [(key, value)]
  | entry :: rest =>
    if entry.1 = key then (entry.1, value) :: rest else entry :: setEntries key value rest

theorem lookup_cons_eq_ite {K V : Type} [DecidableEq K] (query stored : K) (value : V)
    (rest : List (K × V)) :
    ((stored, value) :: rest).lookup query =
      if query = stored then some value else rest.lookup query := by
  by_cases hquery : query = stored
  · simp [hquery]
  · have hne : (query == stored) = false := by simpa using hquery
    simp [List.lookup_cons, hne, hquery]

theorem mem_keys_setEntries {K V : Type} [DecidableEq K] {key query : K} {value : V}
    {entries : List (K × V)} (hmem : query ∈ (setEntries key value entries).map Prod.fst) :
    query = key ∨ query ∈ entries.map Prod.fst := by
  induction entries with
  | nil => simpa [setEntries] using hmem
  | cons entry rest ih =>
    by_cases hkey : entry.1 = key
    · simp only [setEntries, hkey, if_true, List.map_cons, List.mem_cons] at hmem ⊢
      exact hmem.imp_right Or.inr
    · simp only [setEntries, hkey, if_false, List.map_cons, List.mem_cons] at hmem ⊢
      obtain hhead | htail := hmem
      · exact Or.inr (Or.inl hhead)
      · exact (ih htail).imp_right Or.inr

theorem nodup_keys_setEntries {K V : Type} [DecidableEq K] (key : K) (value : V)
    {entries : List (K × V)} (hnodup : (entries.map Prod.fst).Nodup) :
    ((setEntries key value entries).map Prod.fst).Nodup := by
  induction entries with
  | nil => simp [setEntries]
  | cons entry rest ih =>
    rw [List.map_cons, List.nodup_cons] at hnodup
    by_cases hkey : entry.1 = key
    · simpa [setEntries, hkey] using hnodup
    · simp only [setEntries, hkey, if_false, List.map_cons, List.nodup_cons]
      refine ⟨fun hmem => ?_, ih hnodup.2⟩
      obtain heq | hrest := mem_keys_setEntries hmem
      · exact hkey heq
      · exact hnodup.1 hrest

theorem lookup_setEntries {K V : Type} [DecidableEq K] (key query : K) (value : V)
    (entries : List (K × V)) :
    (setEntries key value entries).lookup query =
      if query = key then some value else entries.lookup query := by
  induction entries with
  | nil => simp [setEntries, lookup_cons_eq_ite]
  | cons entry rest ih =>
    obtain ⟨stored, old⟩ := entry
    by_cases hkey : stored = key
    · subst hkey
      by_cases hquery : query = stored <;> simp [setEntries, lookup_cons_eq_ite, hquery]
    · simp only [setEntries, hkey, if_false, lookup_cons_eq_ite, ih]
      by_cases hquery : query = stored
      · simp [hquery, hkey]
      · simp [hquery]

/-- A Python `dict`: entries in insertion order, every key at most once. -/
structure Dict (K V : Type) where
  entries : List (K × V)
  nodup : (entries.map Prod.fst).Nodup

/-- A stored value is found first, whatever is looked up after it. -/
theorem ite_some_or {V : Type} (p : Prop) [Decidable p] (value : V) (found other : Option V) :
    (if p then some value else found).or other = if p then some value else found.or other := by
  split <;> rfl

namespace Dict

variable {K V : Type} [DecidableEq K]

/-- `{}` -/
def empty : Dict K V := ⟨[], List.nodup_nil⟩

/-- `d.get(key)` -/
def get? (self : Dict K V) (key : K) : Option V := self.entries.lookup key

/-- `d[key] = value` -/
def set (self : Dict K V) (key : K) (value : V) : Dict K V :=
  ⟨setEntries key value self.entries, nodup_keys_setEntries key value self.nodup⟩

/-- `d.pop(key, None)` for its effect on `d`. -/
def erase (self : Dict K V) (key : K) : Dict K V :=
  ⟨self.entries.filter (fun entry => entry.1 ≠ key),
    self.nodup.sublist (List.filter_sublist.map Prod.fst)⟩

/-- `d.update(other)`, and the literal `{**d, **other}`. -/
def update (self other : Dict K V) : Dict K V :=
  other.entries.foldl (fun d entry => d.set entry.1 entry.2) self

/-- `not d` -/
def isEmpty (self : Dict K V) : Bool := self.entries.isEmpty

/-- `d == other`: the same value, or none, under every key. Insertion order
does not count. -/
def Same (self other : Dict K V) : Prop := ∀ key, self.get? key = other.get? key

@[simp] theorem get?_empty (key : K) : (empty : Dict K V).get? key = none := rfl

@[simp] theorem get?_set (self : Dict K V) (key query : K) (value : V) :
    (self.set key value).get? query = if query = key then some value else self.get? query :=
  lookup_setEntries key query value self.entries

@[simp] theorem get?_erase (self : Dict K V) (key query : K) :
    (self.erase key).get? query = if query = key then none else self.get? query := by
  simp only [get?, erase]
  generalize self.entries = entries
  induction entries with
  | nil => simp
  | cons entry rest ih =>
    obtain ⟨stored, value⟩ := entry
    by_cases hkey : stored = key
    · subst hkey
      simp only [ne_eq, decide_not, decide_true, Bool.not_true, Bool.false_eq_true,
        not_false_eq_true, List.filter_cons_of_neg, lookup_cons_eq_ite] at ih ⊢
      rw [ih]
      split <;> rfl
    · simp only [ne_eq, decide_not, hkey, decide_false, Bool.not_false, List.filter_cons_of_pos,
        lookup_cons_eq_ite] at ih ⊢
      rw [ih]
      by_cases hquery : query = stored
      · simp [hquery, hkey]
      · simp [hquery]

/-- Entries stored one after another, each value through a function. -/
theorem get?_foldl_set {W : Type} (value : W → V) (entries : List (K × W))
    (hnodup : (entries.map Prod.fst).Nodup) (self : Dict K V) (query : K) :
    (entries.foldl (fun d entry => d.set entry.1 (value entry.2)) self).get? query =
      ((entries.lookup query).map value).or (self.get? query) := by
  induction entries generalizing self with
  | nil => rfl
  | cons entry rest ih =>
    obtain ⟨stored, content⟩ := entry
    rw [List.map_cons, List.nodup_cons] at hnodup
    rw [List.foldl_cons, ih hnodup.2]
    rw [get?_set, lookup_cons_eq_ite]
    by_cases hquery : query = stored
    · subst hquery
      have habsent : rest.lookup query = none := by
        rw [List.lookup_eq_none_iff]
        intro entry hentry
        have hne : query ≠ entry.1 := by
          rintro rfl
          exact hnodup.1 (List.mem_map.mpr ⟨entry, hentry, rfl⟩)
        simpa using hne
      simp [habsent]
    · simp [hquery]

/-- In a merged dictionary the right operand decides wherever it has the key. -/
@[simp] theorem get?_update (self other : Dict K V) (query : K) :
    (self.update other).get? query = (other.get? query).or (self.get? query) := by
  have hfold := get?_foldl_set (fun value => value) other.entries other.nodup self query
  rwa [Option.map_id'] at hfold

/-- `d.setdefault(key, []).append(value)` -/
def append_to (self : Dict K (List V)) (entry : K × V) : Dict K (List V) :=
  self.set entry.1 ((self.get? entry.1).getD [] ++ [entry.2])

/-- The values of a list of entries under a key. -/
def values_of (key : K) (entries : List (K × V)) : List V :=
  (entries.filter (·.1 = key)).map Prod.snd

/-- Appending entries one after another groups them by their keys, in order. -/
theorem get?_foldl_append_to (entries : List (K × V)) (self : Dict K (List V)) (key : K) :
    (entries.foldl append_to self).get? key =
      if values_of key entries = [] then self.get? key
      else some ((self.get? key).getD [] ++ values_of key entries) := by
  induction entries generalizing self with
  | nil => simp [values_of]
  | cons entry rest ih =>
    rw [List.foldl_cons, ih, append_to, get?_set]
    by_cases hkey : entry.1 = key
    · simp only [hkey, if_true, Option.getD_some, values_of, List.filter_cons, decide_true,
        List.map_cons, List.append_assoc, List.singleton_append, reduceCtorEq, if_false]
      split
      · rename_i hnone
        rw [hnone]
      · rfl
    · have hvalues : values_of key (entry :: rest) = values_of key rest := by
        simp [values_of, hkey]
      rw [hvalues, if_neg (Ne.symm hkey)]

end Dict

end python
