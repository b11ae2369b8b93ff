import Massless.Python.Effect
import Massless.Transition.Machine

namespace python

inductive FutureState where
  | pending
  | finished
  | cancelled
  deriving DecidableEq, Repr

/-- A future of the event loop, with the task that made it. -/
structure Future where
  owner : Nat
  state : FutureState
  deriving DecidableEq, Repr

/-- A call of `set_result`: the future, its state at the time, and whether the set
still held it. -/
structure ResultCall where
  future : Nat
  state : Option FutureState
  registered : Bool
  deriving DecidableEq, Repr

/-- A call that does not raise, on a future that the set has let go. -/
def ResultCall.Proper (call : ResultCall) : Prop :=
  call.state = some .pending ∧ call.registered = false

def InvalidStateError : Exc := .other "InvalidStateError"

theorem nodup_insert_end {A : Type} [DecidableEq A] {items : List A} (hitems : items.Nodup)
    (item : A) : (if item ∈ items then items else items ++ [item]).Nodup := by
  split
  · exact hitems
  · next habsent =>
    rw [List.nodup_append]
    refine ⟨hitems, List.nodup_singleton _, ?_⟩
    rintro other hother _ hitem rfl
    rw [List.mem_singleton.mp hitem] at hother
    exact habsent hother

/-- The futures that were made, each known by its place, a set of them, and, as
history, the calls of `set_result`. -/
structure Registry where
  futures : List Future
  registered : List Nat
  distinct : registered.Nodup
  results : List ResultCall
  deriving DecidableEq

namespace Registry

def empty : Registry := ⟨[], [], List.nodup_nil, []⟩

def state (self : Registry) (future : Nat) : Option FutureState :=
  self.futures[future]?.map Future.state

def owner (self : Registry) (future : Nat) : Option Nat := self.futures[future]?.map Future.owner

/-- `loop.create_future()` -/
def create_future (owner : Nat) : Py Registry Nat := fun self =>
  (.ok self.futures.length,
    { self with futures := self.futures ++ [{ owner, state := .pending }] })

/-- `set.add(future)` -/
def add (future : Nat) : Py Registry Unit := Py.modify fun self =>
  { self with
    registered := if future ∈ self.registered then self.registered else self.registered ++ [future]
    distinct := nodup_insert_end self.distinct future }

/-- `set.discard(future)` -/
def discard (self : Registry) (future : Nat) : Registry :=
  { self with
    registered := self.registered.filter (· ≠ future)
    distinct := self.distinct.filter _ }

/-- `future.done()` -/
def is_done (self : Registry) (future : Nat) : Bool := self.state future ≠ some .pending

def put (self : Registry) (future : Nat) (state : FutureState) : Registry :=
  { self with futures := self.futures.modify future fun entry => { entry with state } }

/-- The history with a call of `set_result`. -/
def called (self : Registry) (future : Nat) : Registry :=
  let call : ResultCall :=
    { future, state := self.state future, registered := future ∈ self.registered }
  { self with results := self.results ++ [call] }

/-- `future.set_result(None)` -/
def set_result (future : Nat) : Py Registry Unit := fun self =>
  if self.is_done future then (.error InvalidStateError, self.called future)
  else (.ok (), (self.called future).put future .finished)

/-- `future.cancel()`: nothing happens to one that is done. -/
def cancel (self : Registry) (future : Nat) : Registry :=
  if self.is_done future then self else self.put future .cancelled

/-- A future is made and goes into the set. -/
def enter (owner : Nat) : Py Registry Nat := do
  let future ← create_future owner
  add future
  pure future

/-- A future goes out of the set, and is resolved unless it is done. -/
def release (future : Nat) : Py Registry Unit := do
  Py.modify (discard · future)
  if ← Py.gets (is_done · future) then pure () else set_result future

theorem state_put (self : Registry) (future other : Nat) (state : FutureState) :
    (self.put future state).state other =
      if other = future then (self.state future).map fun _ => state else self.state other := by
  simp only [put, Registry.state, List.getElem?_modify]
  by_cases hsame : future = other
  · subst hsame
    cases self.futures[future]? <;> simp
  · cases self.futures[other]? <;> simp [hsame, Ne.symm hsame]

theorem owner_put (self : Registry) (future other : Nat) (state : FutureState) :
    (self.put future state).owner other = self.owner other := by
  simp only [put, Registry.owner, List.getElem?_modify]
  cases self.futures[other]? with
  | none => rfl
  | some entry => by_cases hsame : future = other <;> simp [hsame]

theorem is_done_eq_false_iff (self : Registry) (future : Nat) :
    self.is_done future = false ↔ self.state future = some .pending := by
  simp [is_done]

/-- What entering does: the new future is pending, and nothing else changes. -/
structure Entered (before : Registry) (owner : Nat) (after : Registry) : Prop where
  registered : after.registered = before.registered ++ [before.futures.length]
  made : after.futures.length = before.futures.length + 1
  owner : ∀ other, after.owner other =
    if other = before.futures.length then some owner else before.owner other
  state : ∀ other, after.state other =
    if other = before.futures.length then some .pending else before.state other
  results : after.results = before.results

theorem enter_run (self : Registry) (owner : Nat)
    (hbounded : ∀ future ∈ self.registered, future < self.futures.length) :
    ∃ next, enter owner self = (.ok self.futures.length, next) ∧ Entered self owner next := by
  have hfresh : self.futures.length ∉ self.registered := fun hmem =>
    Nat.lt_irrefl _ (hbounded _ hmem)
  have hmade : ∀ other, (self.futures ++ [(⟨owner, .pending⟩ : Future)])[other]? =
      if other = self.futures.length then some ⟨owner, .pending⟩ else self.futures[other]? := by
    intro other
    grind
  refine ⟨_, rfl, if_neg hfresh, by simp, fun other => ?_, fun other => ?_, rfl⟩
  · change ((self.futures ++ [(⟨owner, .pending⟩ : Future)])[other]?).map Future.owner = _
    rw [hmade]
    split <;> rfl
  · change ((self.futures ++ [(⟨owner, .pending⟩ : Future)])[other]?).map Future.state = _
    rw [hmade]
    split <;> rfl

/-- What a release does: the set lets the future go first, and one that was cancelled
meanwhile is left as it is, so that nothing raises. -/
structure Released (before : Registry) (future : Nat) (after : Registry) : Prop where
  registered : after.registered = before.registered.filter (· ≠ future)
  made : after.futures.length = before.futures.length
  owner : ∀ other, after.owner other = before.owner other
  state : ∀ other, after.state other =
    if other = future ∧ before.state future = some .pending then some .finished
    else before.state other
  results : ∃ calls, after.results = before.results ++ calls ∧ ∀ call ∈ calls, call.Proper

theorem release_run (self : Registry) (future : Nat) :
    ∃ next, release future self = (.ok (), next) ∧ Released self future next := by
  have hstate : ∀ other, (self.discard future).state other = self.state other := fun _ => rfl
  have hgone : future ∉ (self.discard future).registered := by simp [discard]
  cases hdone : (self.discard future).is_done future with
  | true =>
    have hpending : self.state future ≠ some .pending := by
      simpa [is_done, hstate] using hdone
    refine ⟨self.discard future, ?_, rfl, rfl, fun _ => rfl, fun other => ?_, [], ?_, by simp⟩
    · simp only [release, Py.bind_run, Py.modify_run, Py.gets_run, hdone, if_true, Py.pure_run]
    · rw [if_neg fun h => hpending h.2, hstate]
    · rw [List.append_nil]
      rfl
  | false =>
    have hpending : self.state future = some .pending := by
      rwa [is_done_eq_false_iff] at hdone
    refine ⟨((self.discard future).called future).put future .finished, ?_, rfl, by
      simp [put, called, discard], fun other => owner_put _ _ other _, fun other => ?_, _, rfl, ?_⟩
    · simp only [release, Py.bind_run, Py.modify_run, Py.gets_run, hdone, set_result,
        Bool.false_eq_true, if_false]
    · rw [state_put]
      change (if other = future then (self.state future).map fun _ => FutureState.finished
        else self.state other) = _
      simp [hpending]
    · simp only [List.mem_singleton, forall_eq]
      exact ⟨hpending, decide_eq_false hgone⟩

/-- The futures of a list cancelled one after the other. -/
def cancel_all (self : Registry) (futures : List Nat) : Registry := futures.foldl cancel self

/-- Cancelling changes nothing but the state of futures that are not done. -/
structure Cancelled (before : Registry) (futures : List Nat) (after : Registry) : Prop where
  registered : after.registered = before.registered
  made : after.futures.length = before.futures.length
  owner : ∀ other, after.owner other = before.owner other
  state : ∀ other, after.state other =
    if other ∈ futures ∧ before.state other = some .pending then some .cancelled
    else before.state other
  results : after.results = before.results

theorem cancelled_cancel (self : Registry) (future : Nat) :
    Cancelled self [future] (self.cancel future) := by
  rw [cancel]
  cases hdone : self.is_done future with
  | true =>
    have hpending : self.state future ≠ some .pending := by simpa [is_done] using hdone
    refine ⟨rfl, rfl, fun _ => rfl, fun other => ?_, rfl⟩
    rw [if_pos rfl, if_neg]
    rintro ⟨hother, hstate⟩
    rw [List.mem_singleton.mp hother] at hstate
    exact hpending hstate
  | false =>
    have hpending := (is_done_eq_false_iff _ _).mp hdone
    refine ⟨rfl, by simp [put], fun other => owner_put _ _ other _, fun other => ?_, rfl⟩
    rw [if_neg (by simp), state_put, hpending]
    by_cases hsame : other = future
    · simp [hsame, hpending]
    · simp [hsame]

theorem cancelled_cancel_all (self : Registry) (futures : List Nat) :
    Cancelled self futures (self.cancel_all futures) := by
  induction futures generalizing self with
  | nil => exact ⟨rfl, rfl, fun _ => rfl, fun _ => by simp [cancel_all], rfl⟩
  | cons future rest ih =>
    have hfirst := cancelled_cancel self future
    have hrest := ih (self.cancel future)
    refine ⟨hrest.registered.trans hfirst.registered, hrest.made.trans hfirst.made,
      fun other => (hrest.owner other).trans (hfirst.owner other), fun other => ?_,
      hrest.results.trans hfirst.results⟩
    refine (hrest.state other).trans ?_
    rw [hfirst.state]
    grind

/-- What a task does to the registry while it runs: no future is registered again,
those that are stay pending, and no `set_result` goes wrong. -/
structure Kept (before after : Registry) : Prop where
  made : before.futures.length ≤ after.futures.length
  registered : ∀ future ∈ after.registered,
    future ∈ before.registered ∨ before.futures.length ≤ future
  pending : (∀ future ∈ before.registered, before.is_done future = false) →
    ∀ future ∈ after.registered, after.is_done future = false
  results : ∃ calls, after.results = before.results ++ calls ∧ ∀ call ∈ calls, call.Proper

theorem Kept.refl (self : Registry) : Kept self self :=
  ⟨Nat.le_refl _, fun _ hmem => Or.inl hmem, id, [], (List.append_nil _).symm, by simp⟩

theorem Kept.trans {self middle next : Registry} (hfirst : Kept self middle)
    (hsecond : Kept middle next) : Kept self next := by
  obtain ⟨calls, hcalls, hproper⟩ := hfirst.results
  obtain ⟨more, hmore, hmore_proper⟩ := hsecond.results
  refine ⟨Nat.le_trans hfirst.made hsecond.made, fun future hmem => ?_,
    fun hpending => hsecond.pending (hfirst.pending hpending), calls ++ more, ?_, ?_⟩
  · obtain hmiddle | hnew := hsecond.registered future hmem
    · exact hfirst.registered future hmiddle
    · exact Or.inr (Nat.le_trans hfirst.made hnew)
  · rw [hmore, hcalls, List.append_assoc]
  · intro call hcall
    exact (List.mem_append.mp hcall).elim (hproper call) (hmore_proper call)

theorem Released.kept {self next : Registry} {future : Nat}
    (hreleased : Released self future next) : Kept self next := by
  refine ⟨Nat.le_of_eq hreleased.made.symm, fun other hmem => ?_, fun hpending other hmem => ?_,
    hreleased.results⟩
  · rw [hreleased.registered] at hmem
    exact Or.inl (List.mem_filter.mp hmem).1
  · rw [hreleased.registered] at hmem
    obtain ⟨hmem, hne⟩ := List.mem_filter.mp hmem
    have hother : other ≠ future := of_decide_eq_true hne
    have hkept := hpending other hmem
    rw [is_done_eq_false_iff] at hkept ⊢
    rw [hreleased.state, if_neg fun h => hother h.1, hkept]

theorem Entered.kept {self next : Registry} {owner : Nat} (hentered : Entered self owner next) :
    Kept self next := by
  refine ⟨by rw [hentered.made]; exact Nat.le_succ _, fun other hmem => ?_,
    fun hpending other hmem => ?_, [], by rw [hentered.results, List.append_nil], by simp⟩
  · rw [hentered.registered] at hmem
    obtain hmem | hnew := List.mem_append.mp hmem
    · exact Or.inl hmem
    · exact Or.inr (Nat.le_of_eq (List.mem_singleton.mp hnew).symm)
  · rw [hentered.registered] at hmem
    rw [is_done_eq_false_iff, hentered.state]
    obtain hmem | hnew := List.mem_append.mp hmem
    · split
      · rfl
      · exact (is_done_eq_false_iff _ _).mp (hpending other hmem)
    · rw [if_pos (List.mem_singleton.mp hnew)]

/-- Every registered future is held by the task that made it, every future that a task
holds is registered, and every other future is done. -/
structure Held (registry : Registry) (holders : List (Option Nat)) : Prop where
  registered : ∀ (c future : Nat), holders[c]? = some (some future) →
    future ∈ registry.registered ∧ registry.owner future = some c
  holder : ∀ future ∈ registry.registered, ∃ c : Nat, holders[c]? = some (some future)
  pending : ∀ future, registry.state future = some .pending → future ∈ registry.registered

namespace Held

variable {self next : Registry} {holders : List (Option Nat)} {c future : Nat}

theorem empty : Held .empty [] := by
  constructor <;> simp [Registry.empty, Registry.state]

/-- A registered future is one that was made. -/
theorem lt_length (hheld : Held self holders) (hmem : future ∈ self.registered) :
    future < self.futures.length := by
  obtain ⟨c, hholder⟩ := hheld.holder future hmem
  obtain ⟨entry, hentry, -⟩ := Option.map_eq_some_iff.mp (hheld.registered c future hholder).2
  exact (List.getElem?_eq_some_iff.mp hentry).1

/-- A future that is not registered is done. -/
theorem is_done (hheld : Held self holders) (habsent : future ∉ self.registered) :
    self.is_done future = true := by
  simp only [Registry.is_done, ne_eq, decide_eq_true_eq]
  exact fun hpending => habsent (hheld.pending future hpending)

/-- A task joins, without a future. -/
theorem joined (hheld : Held self holders) : Held self (holders ++ [none]) := by
  refine ⟨fun c future hfound => ?_, fun future hmem => ?_, hheld.pending⟩
  · obtain hbefore | hnew := transition.getElem?_joined hfound
    · exact hheld.registered c future hbefore
    · cases hnew
  · obtain ⟨c, hholder⟩ := hheld.holder future hmem
    have hbound := (List.getElem?_eq_some_iff.mp hholder).1
    exact ⟨c, by rwa [List.getElem?_append_left hbound]⟩

theorem release (hheld : Held self holders) (hholder : holders[c]? = some (some future))
    (hreleased : Released self future next) : Held next (holders.set c none) := by
  obtain ⟨-, howner⟩ := hheld.registered c future hholder
  refine ⟨fun d other hfound => ?_, fun other hmem => ?_, fun other hpending => ?_⟩
  · obtain ⟨-, hnone⟩ | ⟨hne, hbefore⟩ := transition.getElem?_stepped hfound
    · cases hnone
    · obtain ⟨hmem, hother⟩ := hheld.registered d other hbefore
      rw [hreleased.registered, hreleased.owner]
      refine ⟨List.mem_filter.mpr ⟨hmem, decide_eq_true ?_⟩, hother⟩
      rintro rfl
      exact hne (Option.some.inj (hother.symm.trans howner))
  · rw [hreleased.registered] at hmem
    obtain ⟨hmem, hne⟩ := List.mem_filter.mp hmem
    obtain ⟨d, hd⟩ := hheld.holder other hmem
    have hdc : c ≠ d := by
      rintro rfl
      rw [hholder] at hd
      exact of_decide_eq_true hne (Option.some.inj (Option.some.inj hd)).symm
    exact ⟨d, by rwa [List.getElem?_set_ne hdc]⟩
  · rw [hreleased.state] at hpending
    rw [hreleased.registered]
    split at hpending
    · cases hpending
    · next hother =>
      refine List.mem_filter.mpr ⟨hheld.pending other hpending, decide_eq_true ?_⟩
      rintro rfl
      exact hother ⟨rfl, hpending⟩

theorem enter (hheld : Held self holders) (hholder : holders[c]? = some none)
    (hentered : Entered self c next) :
    Held next (holders.set c (some self.futures.length)) := by
  have hbound := (List.getElem?_eq_some_iff.mp hholder).1
  refine ⟨fun d other hfound => ?_, fun other hmem => ?_, fun other hpending => ?_⟩
  · rw [hentered.registered, hentered.owner]
    obtain ⟨rfl, hnew⟩ | ⟨-, hbefore⟩ := transition.getElem?_stepped hfound
    · obtain rfl := Option.some.inj hnew
      simp
    · obtain ⟨hmem, hother⟩ := hheld.registered d other hbefore
      refine ⟨List.mem_append_left _ hmem, ?_⟩
      rw [if_neg (Nat.ne_of_lt (hheld.lt_length hmem)), hother]
  · rw [hentered.registered] at hmem
    obtain hmem | hnew := List.mem_append.mp hmem
    · obtain ⟨d, hd⟩ := hheld.holder other hmem
      have hdc : c ≠ d := by
        rintro rfl
        rw [hholder] at hd
        cases hd
      exact ⟨d, by rwa [List.getElem?_set_ne hdc]⟩
    · obtain rfl := List.mem_singleton.mp hnew
      exact ⟨c, by simp [hbound]⟩
  · rw [hentered.state] at hpending
    rw [hentered.registered]
    split at hpending
    · next hnew => simp [hnew]
    · exact List.mem_append_left _ (hheld.pending other hpending)

theorem cancel {futures : List Nat} (hheld : Held self holders)
    (hcancelled : Cancelled self futures next) : Held next holders := by
  refine ⟨fun d other hfound => ?_, fun other hmem => ?_, fun other hpending => ?_⟩
  · rw [hcancelled.registered, hcancelled.owner]
    exact hheld.registered d other hfound
  · rw [hcancelled.registered] at hmem
    exact hheld.holder other hmem
  · rw [hcancelled.state] at hpending
    rw [hcancelled.registered]
    split at hpending
    · cases hpending
    · exact hheld.pending other hpending

/-- A task that holds a future has exactly one registered, every other task none. -/
theorem count (hheld : Held self holders) (c : Nat) :
    self.registered.countP (fun future => self.owner future = some c) =
      if (holders[c]?.join).isSome then 1 else 0 := by
  have hown : ∀ other ∈ self.registered, self.owner other = some c →
      holders[c]? = some (some other) := by
    intro other hmem howner
    obtain ⟨d, hd⟩ := hheld.holder other hmem
    obtain rfl := Option.some.inj (howner.symm.trans (hheld.registered d other hd).2)
    exact hd
  cases hholder : holders[c]?.join with
  | none =>
    rw [List.countP_eq_zero.mpr]
    · simp
    · intro other hmem howner
      rw [hown other hmem (of_decide_eq_true howner)] at hholder
      cases hholder
  | some future =>
    have hfound : holders[c]? = some (some future) := Option.join_eq_some_iff.mp hholder
    obtain ⟨hmem, howner⟩ := hheld.registered c future hfound
    have hsame : self.registered.countP (fun other => self.owner other = some c) =
        self.registered.count future := by
      refine List.countP_congr fun other hother => ?_
      simp only [decide_eq_true_eq, beq_iff_eq]
      refine ⟨fun hmine => ?_, fun heq => by rw [heq, howner]⟩
      rw [hown other hother hmine] at hfound
      exact Option.some.inj (Option.some.inj hfound)
    rw [hsame, List.count_eq_one_of_mem self.distinct hmem]
    rfl

end Held

end Registry

end python
