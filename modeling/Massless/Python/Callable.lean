import Massless.Python.Simulation

namespace python

variable {S A V : Type}

/-- What a call hands back: `None`, a coroutine that has not been awaited, or a value. -/
inductive Returned (V : Type) where
  | none
  | coroutine
  | value (value : V)

/-- A Python function: whether it is a coroutine function, and what its body does. -/
structure Callable (S A V : Type) where
  is_async : Bool
  body : A → Py S (Returned V)

def TypeError : Exc := .other "TypeError"

/-- `bool(x)`: a coroutine and a value are true. -/
def Returned.truthy : Returned V → Bool
  | .none => false
  | .coroutine => true
  | .value _ => true

theorem ok_bind {B C : Type} (b : B) (f : B → Except Exc C) : (.ok b >>= f) = f b := rfl

namespace Callable

/-- `f(a)`: a coroutine function hands back its coroutine. -/
def call (self : Callable S A V) (a : A) : Py S (Returned V) :=
  if self.is_async then pure .coroutine else self.body a

/-- `await f(a)`: what a function that is no coroutine function returns cannot be awaited. -/
def await (self : Callable S A V) (a : A) : Py S (Returned V) :=
  if self.is_async then self.body a
  else do
    let _ ← self.body a
    Py.raise TypeError

/-- A call in a function of this mode. -/
def invoke (self : Callable S A V) (is_async : Bool) (a : A) : Py S (Returned V) :=
  if is_async then self.await a else self.call a

/-- `sync_to_async(f)`, which refuses a coroutine function. -/
def sync_to_async (self : Callable S A V) : Except Exc (Callable S A V) :=
  if self.is_async then .error TypeError else .ok ⟨true, self.call⟩

/-- `async_to_sync(f)` -/
def async_to_sync (self : Callable S A V) : Callable S A V := ⟨false, self.await⟩

/-- `adapt_method_mode(is_async, method, method_is_async)` of Django's handlers. -/
def adapt_method_mode (is_async : Bool) (method : Callable S A V) (method_is_async : Bool) :
    Except Exc (Callable S A V) :=
  if is_async then if method_is_async then .ok method else method.sync_to_async
  else if method_is_async then .ok method.async_to_sync else .ok method

/-- In its own mode a function is called as it should be. -/
@[simp] theorem invoke_self (self : Callable S A V) : self.invoke self.is_async = self.body := by
  funext a
  cases hmode : self.is_async <;> simp [invoke, await, call, hmode]

/-- A function that the flag describes is adapted to the mode asked for, and does the same. -/
theorem adapt_method_mode_eq (is_async : Bool) (method : Callable S A V) :
    adapt_method_mode is_async method method.is_async = .ok ⟨is_async, method.body⟩ := by
  have hself := invoke_self method
  obtain ⟨mode, body⟩ := method
  cases is_async <;> cases mode <;>
    simp [adapt_method_mode, sync_to_async, async_to_sync] at hself ⊢ <;> exact hself

end Callable

namespace Py

variable {B : Type}

/-- `try: m` with `except` around it, for the exceptions that `catches` lets in. -/
def try_except (catches : Exc → Bool) (m : Py S B) (handler : Exc → Py S B) : Py S B := fun s =>
  match m s with
  | (.ok b, t) => (.ok b, t)
  | (.error e, t) => if catches e then handler e t else (.error e, t)

@[simp] theorem try_except_run (catches : Exc → Bool) (m : Py S B) (handler : Exc → Py S B)
    (s : S) : try_except catches m handler s = match m s with
      | (.ok b, t) => (.ok b, t)
      | (.error e, t) => if catches e then handler e t else (.error e, t) := rfl

theorem Simulates.try_except {T : Type} {R : S → T → Prop} {catches : Exc → Bool} {m : Py S B}
    {n : Py T B} {f : Exc → Py S B} {g : Exc → Py T B} (hbody : Simulates R m n)
    (hhandler : ∀ e, Simulates R (f e) (g e)) :
    Simulates R (try_except catches m f) (try_except catches n g) := by
  intro s t hrel
  obtain ⟨houtcome, hafter⟩ := hbody s t hrel
  simp only [try_except_run]
  rcases hm : m s with ⟨e | b, s'⟩ <;> rcases hn : n t with ⟨e' | b', t'⟩ <;>
    simp only [hm, hn] at houtcome hafter
  · obtain rfl := Except.error.inj houtcome
    simp only
    split
    · exact hhandler e s' t' hafter
    · exact ⟨rfl, hafter⟩
  · cases houtcome
  · cases houtcome
  · exact ⟨houtcome, hafter⟩

end Py

end python
