import Massless.Response.Lazy

open python

namespace massless.response.Headers

theorem get?_eq_lookup (self : Headers) (name : String) :
    self.get? name = ((self.entries.map fun entry => (lower_str entry.1, entry)).lookup
      (lower_str name)).map Prod.snd := by
  rw [get?]
  congr 1
  generalize self.entries = entries
  induction entries with
  | nil => rfl
  | cons entry rest ih =>
    rw [List.map_cons, lookup_cons_eq_ite, List.find?_cons]
    by_cases hname : lower_str entry.1 = lower_str name
    · simp [hname]
    · simp only [hname, decide_false, Ne.symm hname, if_false]
      exact ih

/-- The names of a block, in lower case, with their entries. -/
theorem map_set_header_entries (name value : String) (entries : List (String × String)) :
    (set_header_entries name value entries).map (fun entry => (lower_str entry.1, entry)) =
      setEntries (lower_str name) (name, value)
        (entries.map fun entry => (lower_str entry.1, entry)) := by
  have hstored : ∀ stored ∈ entries.map fun entry => (lower_str entry.1, entry),
      stored.1 = lower_str stored.2.1 := by
    intro stored hmem
    obtain ⟨entry, -, rfl⟩ := List.mem_map.mp hmem
    rfl
  have hlower : ∀ entry ∈ setEntries (lower_str name) (name, value)
      (entries.map fun entry => (lower_str entry.1, entry)), entry.1 = lower_str entry.2.1 :=
    lower_of_mem_setEntries hstored
  rw [set_header_entries, List.map_map]
  conv_rhs => rw [← List.map_id (setEntries _ _ _)]
  apply List.map_congr_left
  intro entry hentry
  exact Prod.ext (hlower entry hentry).symm rfl

@[simp] theorem get?_set (self : Headers) (name value query : String) :
    (self.set name value).get? query =
      if lower_str query = lower_str name then some value else self.get? query := by
  rw [get?_eq_lookup, set, map_set_header_entries, lookup_setEntries, get?_eq_lookup]
  split <;> rfl

@[simp] theorem get?_erase (self : Headers) (name query : String) :
    (self.erase name).get? query =
      if lower_str query = lower_str name then none else self.get? query := by
  rw [get?, erase, get?, List.find?_filter]
  split
  · rename_i hname
    rw [Option.map_eq_none_iff, List.find?_eq_none]
    simp [hname]
  · rename_i hname
    congr 1
    congr 1
    funext entry
    by_cases hentry : lower_str entry.1 = lower_str query
    · simp [hentry, hname]
    · simp [hentry]

end massless.response.Headers
