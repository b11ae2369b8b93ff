import Massless.Python.Callable

namespace python

variable {S A B : Type}

def SynchronousOnlyOperation : Exc := .other "SynchronousOnlyOperation"

/-- Code that raises no `SynchronousOnlyOperation`. -/
def NeverRefused (m : Py S A) : Prop := ∀ s, (m s).1 ≠ .error SynchronousOnlyOperation

namespace NeverRefused

theorem pure (a : A) : NeverRefused (Pure.pure a : Py S A) := fun _ hraised => nomatch hraised

theorem raise {e : Exc} (he : e ≠ SynchronousOnlyOperation) :
    NeverRefused (Py.raise e : Py S A) := fun _ hraised => he (Except.error.inj hraised)

/-- The rest counts for what the first call returns. -/
theorem bind_returned {m : Py S A} {f : A → Py S B} (hfirst : NeverRefused m)
    (hrest : ∀ s a t, m s = (.ok a, t) → NeverRefused (f a)) : NeverRefused (m >>= f) := by
  intro s
  have hm := hfirst s
  rw [Py.bind_run]
  rcases hrun : m s with ⟨e | a, t⟩ <;> rw [hrun] at hm
  · intro hraised
    exact hm (congrArg Except.error (Except.error.inj hraised))
  · exact hrest s a t hrun t

theorem bind {m : Py S A} {f : A → Py S B} (hfirst : NeverRefused m)
    (hrest : ∀ a, NeverRefused (f a)) : NeverRefused (m >>= f) :=
  hfirst.bind_returned fun _ a _ _ => hrest a

theorem of_bind {m : Py S A} {f : A → Py S B} (hbind : NeverRefused (m >>= f)) :
    NeverRefused m := fun s hrefused => hbind s (Py.bind_raises hrefused f)

end NeverRefused

/-- Code that is run in a worker thread or on the event loop. -/
structure Placed (S A : Type) where
  in_thread : Py S A
  on_loop : Py S A

namespace Placed

/-- From this state the code makes no call that the event loop refuses. -/
def SafeAt (code : Placed S A) (s : S) : Prop := (code.on_loop s).1 ≠ .error SynchronousOnlyOperation

/-- The same code in both places: on the loop it either does what it does in a thread, or it is
refused, since a synchronous database call raises there. -/
def Portable (code : Placed S A) : Prop :=
  ∀ s, code.on_loop s = code.in_thread s ∨ (code.on_loop s).1 = .error SynchronousOnlyOperation

theorem Portable.same {code : Placed S A} (hportable : code.Portable) {s : S}
    (hsafe : code.SafeAt s) : code.on_loop s = code.in_thread s :=
  (hportable s).resolve_right hsafe

/-- And nothing is refused in a thread. -/
structure Lawful (code : Placed S A) : Prop where
  portable : code.Portable
  never_refused : NeverRefused code.in_thread

/-- Code without synchronous database calls. -/
def plain (m : Py S A) : Placed S A := ⟨m, m⟩

/-- A synchronous database call. -/
def db_call (m : Py S A) : Placed S A := ⟨m, Py.raise SynchronousOnlyOperation⟩

/-- `await sync_to_async(f)()` on the loop, and `f()` in a thread. -/
def sync_to_async (code : Placed S A) : Placed S A := plain code.in_thread

/-- The method of an asynchronous API on the loop, where the synchronous method is called in a
thread. -/
def awaited (code : Placed S A) (method : Py S A) : Placed S A := ⟨code.in_thread, method⟩

protected def pure (a : A) : Placed S A := plain (Pure.pure a)

protected def bind (code : Placed S A) (next : A → Placed S B) : Placed S B where
  in_thread := code.in_thread >>= fun a => (next a).in_thread
  on_loop := code.on_loop >>= fun a => (next a).on_loop

instance : Monad (Placed S) where
  pure := Placed.pure
  bind := Placed.bind

@[simp] theorem pure_on_loop (a : A) : (pure a : Placed S A).on_loop = pure a := rfl

@[simp] theorem pure_in_thread (a : A) : (pure a : Placed S A).in_thread = pure a := rfl

@[simp] theorem bind_on_loop (code : Placed S A) (next : A → Placed S B) :
    (code >>= next).on_loop = code.on_loop >>= fun a => (next a).on_loop := rfl

@[simp] theorem bind_in_thread (code : Placed S A) (next : A → Placed S B) :
    (code >>= next).in_thread = code.in_thread >>= fun a => (next a).in_thread := rfl

/-- `raise e` -/
def raise (e : Exc) : Placed S A := plain (Py.raise e)

/-- A call that depends on no state and changes none. -/
def lift (outcome : Except Exc A) : Placed S A := plain (Py.lift outcome)

/-- The code in one of the two places. -/
def run (code : Placed S A) (is_on_loop : Bool) : Py S A :=
  if is_on_loop then code.on_loop else code.in_thread

theorem lift_bind_pure (outcome : Except Exc A) (f : A → B) :
    (lift outcome >>= fun a => pure (f a) : Placed S B) = lift (outcome.map f) := by
  cases outcome <;> rfl

/-- `try` with `except` -/
def try_except (catches : Exc → Bool) (code : Placed S A) (handler : Exc → Placed S A) :
    Placed S A where
  in_thread := Py.try_except catches code.in_thread fun e => (handler e).in_thread
  on_loop := Py.try_except catches code.on_loop fun e => (handler e).on_loop

namespace Portable

theorem plain (m : Py S A) : (Placed.plain m).Portable := fun _ => Or.inl rfl

theorem pure (a : A) : (Pure.pure a : Placed S A).Portable := plain _

theorem raise (e : Exc) : (Placed.raise e : Placed S A).Portable := plain _

/-- The rest counts for what the first code returns. -/
theorem bind_returned {code : Placed S A} {next : A → Placed S B} (hcode : code.Portable)
    (hnext : ∀ s a t, code.in_thread s = (.ok a, t) → (next a).Portable) :
    (code >>= next).Portable := by
  intro s
  simp only [bind_on_loop, bind_in_thread, Py.bind_run]
  obtain hsame | hrefused := hcode s
  · rw [hsame]
    rcases hrun : code.in_thread s with ⟨e | a, t⟩
    · exact Or.inl rfl
    · exact hnext s a t hrun t
  · exact Or.inr (Py.bind_raises hrefused _)

theorem bind {code : Placed S A} {next : A → Placed S B} (hcode : code.Portable)
    (hnext : ∀ a, (next a).Portable) : (code >>= next).Portable :=
  hcode.bind_returned fun _ a _ _ => hnext a

/-- A refused call has to pass the `except`. -/
theorem try_except {catches : Exc → Bool} (hpasses : catches SynchronousOnlyOperation = false)
    {code : Placed S A} {handler : Exc → Placed S A} (hcode : code.Portable)
    (hhandler : ∀ e, (handler e).Portable) : (Placed.try_except catches code handler).Portable := by
  intro s
  simp only [Placed.try_except, Py.try_except_run]
  obtain hsame | hrefused := hcode s
  · rw [hsame]
    rcases code.in_thread s with ⟨e | a, t⟩
    · simp only
      split
      · exact hhandler e t
      · exact Or.inl rfl
    · exact Or.inl rfl
  · right
    rcases hloop : code.on_loop s with ⟨e | a, t⟩ <;> rw [hloop] at hrefused
    · obtain rfl := Except.error.inj hrefused
      simp only [hpasses]
      rfl
    · cases hrefused

end Portable

namespace Lawful

theorem plain {m : Py S A} (hm : NeverRefused m) : (Placed.plain m).Lawful := ⟨.plain m, hm⟩

theorem db_call {m : Py S A} (hm : NeverRefused m) : (Placed.db_call m).Lawful :=
  ⟨fun _ => Or.inr rfl, hm⟩

theorem sync_to_async {code : Placed S A} (hcode : code.Lawful) : code.sync_to_async.Lawful :=
  plain hcode.never_refused

theorem awaited {code : Placed S A} (hcode : code.Lawful) {method : Py S A}
    (hmethod : method = code.in_thread) : (code.awaited method).Lawful :=
  ⟨fun _ => Or.inl (by rw [Placed.awaited, hmethod]), hcode.never_refused⟩

theorem pure (a : A) : (Pure.pure a : Placed S A).Lawful := plain (.pure a)

theorem raise {e : Exc} (he : e ≠ SynchronousOnlyOperation) :
    (Placed.raise e : Placed S A).Lawful := plain (.raise he)

theorem bind_returned {code : Placed S A} {next : A → Placed S B} (hcode : code.Lawful)
    (hnext : ∀ s a t, code.in_thread s = (.ok a, t) → (next a).Lawful) :
    (code >>= next).Lawful :=
  ⟨hcode.portable.bind_returned fun s a t hrun => (hnext s a t hrun).portable,
    hcode.never_refused.bind_returned fun s a t hrun => (hnext s a t hrun).never_refused⟩

theorem bind {code : Placed S A} {next : A → Placed S B} (hcode : code.Lawful)
    (hnext : ∀ a, (next a).Lawful) : (code >>= next).Lawful :=
  hcode.bind_returned fun _ a _ _ => hnext a

theorem try_except {catches : Exc → Bool} (hpasses : catches SynchronousOnlyOperation = false)
    {code : Placed S A} {handler : Exc → Placed S A} (hcode : code.Lawful)
    (hhandler : ∀ e, (handler e).Lawful) : (Placed.try_except catches code handler).Lawful where
  portable := .try_except hpasses hcode.portable fun e => (hhandler e).portable
  never_refused := by
    intro s
    have hfirst := hcode.never_refused s
    simp only [Placed.try_except, Py.try_except_run]
    rcases hthread : code.in_thread s with ⟨e | a, t⟩ <;> rw [hthread] at hfirst
    · simp only
      split
      · exact (hhandler e).never_refused t
      · exact hfirst
    · exact hfirst

end Lawful

end Placed

end python
