import Massless.Python.Dict

namespace python

/-- A raised exception: `AttributeError`, which `hasattr` swallows, or another
class by its name. -/
inductive Exc where
  | AttributeError (name : String)
  | other (kind : String)
  deriving DecidableEq, Repr

/-- A call on an object with state `S`: it returns or raises, and the changes
made before a raise stay. -/
abbrev Py (S A : Type) : Type := S → Except Exc A × S

namespace Py

variable {S A B : Type}

protected def pure (a : A) : Py S A := fun s => (.ok a, s)

protected def bind (m : Py S A) (f : A → Py S B) : Py S B := fun s =>
  match m s with
  | (.ok a, t) => f a t
  | (.error e, t) => (.error e, t)

instance : Monad (Py S) where
  pure := Py.pure
  bind := Py.bind

/-- `raise e` -/
def raise (e : Exc) : Py S A := fun s => (.error e, s)

/-- A call that depends on no state and changes none. -/
def lift (outcome : Except Exc A) : Py S A := fun s => (outcome, s)

def gets (f : S → A) : Py S A := fun s => (.ok (f s), s)

def modify (f : S → S) : Py S Unit := fun s => (.ok (), f s)

/-- `hasattr(self, name)`, given the lookup of the name. -/
def hasattr (lookup : Py S A) : Py S Bool := fun s =>
  match lookup s with
  | (.ok _, t) => (.ok true, t)
  | (.error (.AttributeError _), t) => (.ok false, t)
  | (.error e, t) => (.error e, t)

/-- `try` with a `finally`: the cleanup runs whatever happened, and what it raises
replaces the outcome. -/
def try_finally (m : Py S A) (cleanup : Py S Unit) : Py S A := fun s =>
  let (outcome, t) := m s
  match cleanup t with
  | (.ok _, u) => (outcome, u)
  | (.error e, u) => (.error e, u)

@[simp] theorem pure_run (a : A) (s : S) : (pure a : Py S A) s = (.ok a, s) := rfl

@[simp] theorem bind_run (m : Py S A) (f : A → Py S B) (s : S) :
    (m >>= f) s = match m s with
      | (.ok a, t) => f a t
      | (.error e, t) => (.error e, t) := rfl

/-- A sequence that returns got through its first call. -/
theorem bind_ok {m : Py S A} {f : A → Py S B} {s : S} {b : B} (hok : ((m >>= f) s).1 = .ok b) :
    ∃ a t, m s = (.ok a, t) ∧ (f a t).1 = .ok b := by
  rw [bind_run] at hok
  rcases hm : m s with ⟨e | a, t⟩ <;> simp only [hm] at hok
  · cases hok
  · exact ⟨a, t, rfl, hok⟩

/-- What the first call raises ends the sequence. -/
theorem bind_raises {m : Py S A} {s : S} {e : Exc} (hraised : (m s).1 = .error e) (f : A → Py S B) :
    ((m >>= f) s).1 = .error e := by
  rw [bind_run]
  rcases hm : m s with ⟨e' | a, t⟩ <;> rw [hm] at hraised
  · exact congrArg Except.error (Except.error.inj hraised)
  · cases hraised

/-- Behind a cleanup that goes through, the outcome is that of the body. -/
theorem try_finally_run {m : Py S A} {cleanup : Py S Unit} {s u : S}
    (hcleanup : cleanup (m s).2 = (.ok (), u)) : try_finally m cleanup s = ((m s).1, u) := by
  rcases hm : m s with ⟨outcome, t⟩
  rw [hm] at hcleanup
  simp only [try_finally, hm, hcleanup]

@[simp] theorem raise_run (e : Exc) (s : S) : (raise e : Py S A) s = (.error e, s) := rfl

@[simp] theorem lift_run (outcome : Except Exc A) (s : S) : (lift outcome) s = (outcome, s) := rfl

@[simp] theorem gets_run (f : S → A) (s : S) : gets f s = (.ok (f s), s) := rfl

@[simp] theorem modify_run (f : S → S) (s : S) : modify f s = (.ok (), f s) := rfl

end Py

/-- An instance: its `__dict__`, and how many objects were created through it,
which gives every created object its own identity. -/
structure Instance (V : Type) where
  dict : Dict String V
  allocated : Nat

namespace Instance

variable {V : Type}

/-- `self.__dict__.get(name)` -/
def get_item (name : String) : Py (Instance V) (Option V) := Py.gets fun self => self.dict.get? name

/-- `self.__dict__[name] = value` -/
def set_item (name : String) (value : V) : Py (Instance V) Unit :=
  Py.modify fun self => { self with dict := self.dict.set name value }

/-- `self.__dict__.pop(name, None)` -/
def pop_item (name : String) : Py (Instance V) Unit :=
  Py.modify fun self => { self with dict := self.dict.erase name }

/-- The identity of an object created now. -/
def fresh : Py (Instance V) Nat := fun self =>
  (.ok self.allocated, { self with allocated := self.allocated + 1 })

@[simp] theorem get_item_run (name : String) (self : Instance V) :
    get_item name self = (.ok (self.dict.get? name), self) := rfl

@[simp] theorem set_item_run (name : String) (value : V) (self : Instance V) :
    set_item name value self = (.ok (), { self with dict := self.dict.set name value }) := rfl

@[simp] theorem pop_item_run (name : String) (self : Instance V) :
    pop_item name self = (.ok (), { self with dict := self.dict.erase name }) := rfl

end Instance

end python
