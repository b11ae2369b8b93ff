import Massless.Python.Placed

namespace python

variable {S A B : Type}

/-- Whatever the call returns is as `post` says. A call that raises is free. -/
def Returns (m : Py S A) (post : A → Prop) : Prop := ∀ s a t, m s = (.ok a, t) → post a

namespace Returns

theorem pure {post : A → Prop} {a : A} (ha : post a) : Returns (Pure.pure a : Py S A) post := by
  intro s a' t hrun
  cases hrun
  exact ha

theorem raise (e : Exc) (post : A → Prop) : Returns (Py.raise e : Py S A) post :=
  fun _ _ _ hrun => nomatch hrun

theorem imp {m : Py S A} {post weaker : A → Prop} (hm : Returns m post)
    (himp : ∀ a, post a → weaker a) : Returns m weaker := fun s a t hrun => himp a (hm s a t hrun)

/-- The sequence rule. -/
theorem bind {m : Py S A} {f : A → Py S B} {mid : A → Prop} {post : B → Prop} (hm : Returns m mid)
    (hf : ∀ a, mid a → Returns (f a) post) : Returns (m >>= f) post := by
  intro s b u hrun
  rw [Py.bind_run] at hrun
  rcases hfirst : m s with ⟨e | a, t⟩ <;> simp only [hfirst] at hrun
  · cases hrun
  · exact hf a (hm s a t hfirst) t b u hrun

/-- A sequence returns what its last call returns. -/
theorem last {m : Py S A} {f : A → Py S B} {post : B → Prop} (hf : ∀ a, Returns (f a) post) :
    Returns (m >>= f) post :=
  bind (fun _ _ _ _ => True.intro) fun a _ => hf a

/-- A `try` returns what its body or the handler returns. -/
theorem try_except {catches : Exc → Bool} {m : Py S A} {handler : Exc → Py S A} {post : A → Prop}
    (hm : Returns m post) (hhandler : ∀ e, catches e = true → Returns (handler e) post) :
    Returns (Py.try_except catches m handler) post := by
  intro s a t hrun
  rw [Py.try_except_run] at hrun
  rcases hbody : m s with ⟨e | b, u⟩ <;> simp only [hbody] at hrun
  · split at hrun
    · rename_i hcatches
      exact hhandler e hcatches u a t hrun
    · cases hrun
  · cases hrun
    exact hm s a t hbody

end Returns

/-- From a state of the invariant the call ends in one, also where it raises. -/
def Maintains (inv : S → Prop) (m : Py S A) : Prop := ∀ s, inv s → inv (m s).2

namespace Maintains

variable {inv : S → Prop}

theorem pure (a : A) : Maintains inv (Pure.pure a : Py S A) := fun _ hinv => hinv

theorem raise (e : Exc) : Maintains inv (Py.raise e : Py S A) := fun _ hinv => hinv

theorem lift (outcome : Except Exc A) : Maintains inv (Py.lift outcome : Py S A) :=
  fun _ hinv => hinv

theorem gets (f : S → A) : Maintains inv (Py.gets f) := fun _ hinv => hinv

theorem bind {m : Py S A} {f : A → Py S B} (hm : Maintains inv m) (hf : ∀ a, Maintains inv (f a)) :
    Maintains inv (m >>= f) := by
  intro s hinv
  have hafter := hm s hinv
  rw [Py.bind_run]
  rcases hrun : m s with ⟨e | a, t⟩ <;> rw [hrun] at hafter
  · exact hafter
  · exact hf a t hafter

theorem hasattr {lookup : Py S A} (hlookup : Maintains inv lookup) :
    Maintains inv (Py.hasattr lookup) := by
  intro s hinv
  have hafter := hlookup s hinv
  unfold Py.hasattr
  split <;> simp_all only

end Maintains

namespace Placed

/-- A read of the world. -/
def gets (f : S → A) : Placed S A := plain (Py.gets f)

/-- A call that changes the world and returns. -/
def draw (f : S → A × S) : Placed S A :=
  plain fun s => (.ok (f s).1, (f s).2)

/-- Whatever the code returns is as `post` says, in a thread and on the event loop. -/
structure Returns (code : Placed S A) (post : A → Prop) : Prop where
  in_thread : python.Returns code.in_thread post
  on_loop : python.Returns code.on_loop post

namespace Returns

variable {post : A → Prop}

theorem plain {m : Py S A} (hm : python.Returns m post) : (Placed.plain m).Returns post := ⟨hm, hm⟩

theorem pure {a : A} (ha : post a) : (Pure.pure a : Placed S A).Returns post := plain (.pure ha)

theorem raise (e : Exc) (post : A → Prop) : (Placed.raise e : Placed S A).Returns post :=
  plain (.raise e post)

theorem lift {outcome : Except Exc A} (houtcome : ∀ a, outcome = .ok a → post a) :
    (Placed.lift outcome : Placed S A).Returns post := by
  refine plain fun s a t hrun => houtcome a ?_
  cases hrun
  rfl

theorem draw (f : S → A × S) : (Placed.draw f).Returns fun a => ∃ s, a = (f s).1 := by
  apply plain
  rintro s _ _ ⟨⟩
  exact ⟨s, rfl⟩

theorem trivial (code : Placed S A) : code.Returns fun _ => True :=
  ⟨fun _ _ _ _ => True.intro, fun _ _ _ _ => True.intro⟩

theorem imp {code : Placed S A} {weaker : A → Prop} (hcode : code.Returns post)
    (himp : ∀ a, post a → weaker a) : code.Returns weaker :=
  ⟨hcode.in_thread.imp himp, hcode.on_loop.imp himp⟩

theorem bind {code : Placed S A} {next : A → Placed S B} {mid : A → Prop} {post : B → Prop}
    (hcode : code.Returns mid) (hnext : ∀ a, mid a → (next a).Returns post) :
    (code >>= next).Returns post :=
  ⟨hcode.in_thread.bind fun a ha => (hnext a ha).in_thread,
    hcode.on_loop.bind fun a ha => (hnext a ha).on_loop⟩

/-- A sequence returns what its last code returns. -/
theorem last {code : Placed S A} {next : A → Placed S B} {post : B → Prop}
    (hnext : ∀ a, (next a).Returns post) : (code >>= next).Returns post :=
  (trivial code).bind fun a _ => hnext a

theorem run {code : Placed S A} (hcode : code.Returns post) (is_on_loop : Bool) :
    python.Returns (code.run is_on_loop) post := by
  cases is_on_loop with
  | true => exact hcode.on_loop
  | false => exact hcode.in_thread

end Returns

/-- The event loop refuses no call of the code. -/
def Anywhere (code : Placed S A) : Prop := code.on_loop = code.in_thread

namespace Anywhere

theorem pure (a : A) : Anywhere (Pure.pure a : Placed S A) := rfl

theorem raise (e : Exc) : Anywhere (Placed.raise e : Placed S A) := rfl

theorem lift (outcome : Except Exc A) : Anywhere (Placed.lift outcome : Placed S A) := rfl

theorem bind {code : Placed S A} {next : A → Placed S B} (hcode : code.Anywhere)
    (hnext : ∀ a, (next a).Anywhere) : (code >>= next).Anywhere := by
  have hrest : (fun a => (next a).on_loop) = fun a => (next a).in_thread := funext hnext
  rw [Anywhere, bind_on_loop, bind_in_thread, hcode, hrest]

end Anywhere

end Placed

end python
