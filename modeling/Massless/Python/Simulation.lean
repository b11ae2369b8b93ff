import Massless.Python.Effect

namespace python.Py

variable {S T A B : Type}

/-- From related states both calls end alike, with related states. -/
def Simulates (R : S → T → Prop) (m : Py S A) (n : Py T A) : Prop :=
  ∀ s t, R s t → (m s).1 = (n t).1 ∧ R (m s).2 (n t).2

variable {R : S → T → Prop}

theorem Simulates.pure (a : A) : Simulates R (pure a) (pure a) := fun _ _ hrel => ⟨rfl, hrel⟩

theorem Simulates.raise (e : Exc) : Simulates R (raise e : Py S A) (raise e) :=
  fun _ _ hrel => ⟨rfl, hrel⟩

theorem Simulates.lift (outcome : Except Exc A) : Simulates R (lift outcome) (lift outcome) :=
  fun _ _ hrel => ⟨rfl, hrel⟩

theorem Simulates.gets {f : S → A} {g : T → A} (hsame : ∀ s t, R s t → f s = g t) :
    Simulates R (gets f) (gets g) :=
  fun s t hrel => ⟨congrArg Except.ok (hsame s t hrel), hrel⟩

theorem Simulates.modify {f : S → S} {g : T → T} (hkept : ∀ s t, R s t → R (f s) (g t)) :
    Simulates R (modify f) (modify g) :=
  fun s t hrel => ⟨rfl, hkept s t hrel⟩

/-- Simulation goes through sequencing: an exception skips the rest on both
sides, and the rest may rely on what the first call can return. -/
theorem Simulates.bind_returning {m : Py S A} {n : Py T A} {f : A → Py S B} {g : A → Py T B}
    (Returned : A → Prop) (hfirst : Simulates R m n)
    (hreturned : ∀ s a, (m s).1 = .ok a → Returned a)
    (hrest : ∀ a, Returned a → Simulates R (f a) (g a)) :
    Simulates R (m >>= f) (n >>= g) := by
  intro s t hrel
  obtain ⟨houtcome, hafter⟩ := hfirst s t hrel
  simp only [bind_run]
  rcases hm : m s with ⟨e | a, s'⟩ <;> rcases hn : n t with ⟨e' | a', t'⟩ <;>
    simp only [hm, hn] at houtcome hafter
  · exact ⟨congrArg Except.error (Except.error.inj houtcome), hafter⟩
  · cases houtcome
  · cases houtcome
  · obtain rfl := Except.ok.inj houtcome
    exact hrest a (hreturned s a (by rw [hm])) s' t' hafter

theorem Simulates.bind {m : Py S A} {n : Py T A} {f : A → Py S B} {g : A → Py T B}
    (hfirst : Simulates R m n) (hrest : ∀ a, Simulates R (f a) (g a)) :
    Simulates R (m >>= f) (n >>= g) :=
  hfirst.bind_returning (fun _ => True) (fun _ _ _ => trivial) fun a _ => hrest a

/-- `hasattr` tells no more than how the lookup ends. -/
theorem Simulates.hasattr {m : Py S A} {n : Py T A} (hlookup : Simulates R m n) :
    Simulates R (hasattr m) (hasattr n) := by
  intro s t hrel
  obtain ⟨houtcome, hafter⟩ := hlookup s t hrel
  simp only [Py.hasattr]
  rcases hm : m s with ⟨e | a, s'⟩ <;> rcases hn : n t with ⟨e' | a', t'⟩ <;>
    simp only [hm, hn] at houtcome hafter
  · obtain rfl := Except.error.inj houtcome
    cases e <;> exact ⟨rfl, hafter⟩
  · cases houtcome
  · cases houtcome
  · exact ⟨rfl, hafter⟩

/-- A call that leaves an observation of the state as it was. -/
def Keeps {O : Type} (observe : S → O) (m : Py S A) : Prop := ∀ s, observe (m s).2 = observe s

section
variable {O : Type} {observe : S → O}

theorem Keeps.pure (a : A) : Keeps observe (Pure.pure a : Py S A) := fun _ => rfl

theorem Keeps.raise (e : Exc) : Keeps observe (Py.raise e : Py S A) := fun _ => rfl

theorem Keeps.lift (outcome : Except Exc A) : Keeps observe (Py.lift outcome) := fun _ => rfl

/-- What is observed after a sequence, where the rest keeps it. -/
theorem Keeps.after_bind (m : Py S A) {f : A → Py S B} (hrest : ∀ a, Keeps observe (f a)) (s : S) :
    observe ((m >>= f) s).2 = observe (m s).2 := by
  rw [bind_run]
  rcases m s with ⟨e | a, t⟩
  · rfl
  · exact hrest a t

theorem Keeps.bind {m : Py S A} {f : A → Py S B} (hfirst : Keeps observe m)
    (hrest : ∀ a, Keeps observe (f a)) : Keeps observe (m >>= f) := fun s =>
  (Keeps.after_bind m hrest s).trans (hfirst s)

end

variable {Op : Type} {left : Op → Py S A} {right : Op → Py T A}

/-- The same operations on two objects: each ends alike on both. -/
def Agrees (left : Op → Py S A) (right : Op → Py T A) : List Op → S → T → Prop
  | [], _, _ => True
  | op :: rest, s, t =>
    (left op s).1 = (right op t).1 ∧ Agrees left right rest (left op s).2 (right op t).2

/-- A condition on the operation and on both objects that every operation of a
sequence meets when its turn comes. -/
def Throughout (left : Op → Py S A) (right : Op → Py T A) (G : Op → S → T → Prop) :
    List Op → S → T → Prop
  | [], _, _ => True
  | op :: rest, s, t => G op s t ∧ Throughout left right G rest (left op s).2 (right op t).2

/-- Where an operation on related objects ends alike exactly under a condition,
which also keeps them related, a sequence agrees as long as it meets the
condition. -/
theorem agrees_iff_throughout {G : Op → S → T → Prop}
    (hkept : ∀ op s t, R s t → G op s t →
      (left op s).1 = (right op t).1 ∧ R (left op s).2 (right op t).2)
    (hdiffers : ∀ op s t, R s t → ¬G op s t → (left op s).1 ≠ (right op t).1)
    (ops : List Op) {s : S} {t : T} (hrel : R s t) :
    Agrees left right ops s t ↔ Throughout left right G ops s t := by
  induction ops generalizing s t with
  | nil => exact Iff.rfl
  | cons op rest ih =>
    simp only [Agrees, Throughout]
    constructor
    · rintro ⟨hsame, hrest⟩
      have hmeets : G op s t := by
        by_contra hnot
        exact hdiffers op s t hrel hnot hsame
      exact ⟨hmeets, (ih (hkept op s t hrel hmeets).2).mp hrest⟩
    · rintro ⟨hmeets, hrest⟩
      obtain ⟨hsame, hafter⟩ := hkept op s t hrel hmeets
      exact ⟨hsame, (ih hafter).mpr hrest⟩

end python.Py
