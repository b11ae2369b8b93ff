import Massless.Request.Attributes

open python

namespace massless.request

variable {Obj : Type}

/-- The members of the stock classes that an override promotes for and then
delegates to. -/
inductive Delegate where
  | body
  | headers
  | FILES
  | scheme
  | get_host
  | get_port
  | is_secure
  | build_absolute_uri
  | read
  | readline
  | iter
  deriving DecidableEq, Repr

/-- The name of a member that is a property; the others are methods. -/
def Delegate.property : Delegate → Option String
  | .body => some "body"
  | .headers => some "headers"
  | .FILES => some "FILES"
  | .scheme => some "scheme"
  | _ => none

/-- What a request is used with: Django's own code, with the stock members that
the overrides delegate to and the class attributes that nothing overrides. -/
structure Stack (Obj : Type) where
  django : Django Obj
  urllib : Urllib
  users : UserModel Obj
  async_users : UserModel Obj
  delegated : Delegate → List (PyVal Obj) → Py (Attrs Obj) (Val Obj)
  class_attr : String → Option (Py (Attrs Obj) (Val Obj))

/-- One access from outside: an attribute with an override of its own, a delegated
member called with its arguments, `aget_user`, or any other attribute by name. -/
inductive Use (Obj : Type) where
  | access (op : Access Obj)
  | delegated (member : Delegate) (args : List (PyVal Obj))
  | aget_user
  | attr (name : String)

/-- `_NO_PROMOTE_ATTRS` -/
def NO_PROMOTE_ATTRS : List String := ["urlconf"]

/-- `name.startswith("_")` -/
def starts_underscore (name : String) : Bool := name.toList.head? = some '_'

namespace MasslessRequest

variable (stack : Stack Obj) (core : RequestCore)

/-- `object.__getattribute__(self, name)` -/
def getattribute (name : String) : Py (Attrs Obj) (Val Obj) := do
  match ← Instance.get_item name with
  | some value => pure value
  | none =>
    match stack.class_attr name with
    | some attr => attr
    | none => Py.raise (.AttributeError name)

/-- `__getattr__`, which Python calls when normal lookup raised `AttributeError`. -/
def getattr (name : String) : Py (Attrs Obj) (Val Obj) := do
  let latch ← is_django
  if starts_underscore name ∨ latch then Py.raise (.AttributeError name)
  else if name ∈ NO_PROMOTE_ATTRS then Py.raise (.AttributeError name)
  else
    promote stack.django stack.urllib core
    getattribute stack name

/-- A lookup of a name, with `__getattr__` where it raises `AttributeError`. -/
def looked_up (name : String) (lookup : Py (Attrs Obj) (Val Obj)) : Py (Attrs Obj) (Val Obj) :=
  fun self =>
    match lookup self with
    | (.error (.AttributeError _), after) => getattr stack core name after
    | (outcome, after) => (outcome, after)

/-- An override that promotes and hands over to the stock class. -/
def delegated (member : Delegate) (args : List (PyVal Obj)) : Py (Attrs Obj) (Val Obj) := do
  ensure_promoted stack.django stack.urllib core
  stack.delegated member args

/-- `aget_user`: the steps of `user` over the asynchronous manager. -/
def aget_user : Py (Attrs Obj) (Val Obj) :=
  user stack.async_users (ensure_promoted stack.django stack.urllib core)

def use : Use Obj → Py (Attrs Obj) (Val Obj)
  | .access (.read attr) =>
    looked_up stack core attr.name
      (access stack.django stack.users stack.urllib core (.read attr))
  | .access (.assign attr value) =>
    access stack.django stack.users stack.urllib core (.assign attr value)
  | .delegated member args =>
    match member.property with
    | some name => looked_up stack core name (delegated stack core member args)
    | none => delegated stack core member args
  | .aget_user => aget_user stack core
  | .attr name => looked_up stack core name (getattribute stack name)

/-- Several uses in a row, whatever each of them gives. -/
def uses (self : Attrs Obj) : List (Use Obj) → Attrs Obj
  | [] => self
  | op :: rest => uses (use stack core op self).2 rest

end MasslessRequest

/-- A use that a request in this state cannot answer without promotion. -/
def NeedsPromotion (stack : Stack Obj) (self : Attrs Obj) : Use Obj → Prop
  | .access (.read .user) | .aget_user => self.dict.get? "_user" = some (.py .none)
  | .access (.read _) => True
  | .access (.assign attr _) => attr = .encoding
  | .delegated _ _ => True
  | .attr name => self.dict.get? name = none ∧ (stack.class_attr name).isNone ∧
      ¬ starts_underscore name ∧ name ∉ NO_PROMOTE_ATTRS

/-- If the constructor raises in the first use, the request is as before: the latch
is not set, every attribute is what it was, and after any further uses each one
that needs promotion raises that error again. -/
def FailsClean (stack : Stack Obj) (core : RequestCore) (self : Attrs Obj) (first : Use Obj) :
    Prop :=
  ∀ error, (MasslessRequest.promote stack.django stack.urllib core self).1 = .error error →
    let after := (MasslessRequest.use stack core first self).2
    after.dict.get? "_is_django" = some (.py (.bool false)) ∧
    after.dict.Same self.dict ∧
    ∀ between later, NeedsPromotion stack (MasslessRequest.uses stack core after between) later →
      (MasslessRequest.use stack core later
        (MasslessRequest.uses stack core after between)).1 = .error error

/-- The constructor finds nothing to fail on: the method is a text, and if the
content type names a charset that Python has a codec for, the query string decodes
under it. -/
def Constructible (django : Django Obj) (request_method : PyVal Obj)
    (vars : Dict String String) : Prop :=
  (∃ text, request_method = .str text) ∧
  ∀ charset, django.charset vars = some charset →
    ∃ query, django.query_dict (django.meta_vars vars) (.str charset) = .ok query

theorem construction_eq_ok_iff (django : Django Obj) (request_method : PyVal Obj)
    (vars : Dict String String) :
    django.construction request_method vars = .ok () ↔
      Constructible django request_method vars := by
  cases request_method with
  | str text =>
    cases hcharset : django.charset vars with
    | none => simp [Django.construction, upper_method, hcharset, Constructible]
    | some charset =>
      cases hquery : django.query_dict (django.meta_vars vars) (.str charset) <;>
        simp [Django.construction, upper_method, hcharset, Constructible, Django.decoding, hquery]
  | _ => simp [Django.construction, upper_method, Constructible]

namespace MasslessRequest

variable (stack : Stack Obj) (core : RequestCore)

theorem Unpromoted.ensure_promoted_eq {self : Attrs Obj} {method : PyVal Obj}
    (hself : Unpromoted self method) :
    ensure_promoted stack.django stack.urllib core self =
      promote stack.django stack.urllib core self := by
  simp only [ensure_promoted, is_django, Py.bind_run, Py.gets_run, hself.latch,
    Bool.false_eq_true, if_false]

/-- Promotion ends as the constructor does. Whichever way that is, every slot that
the constructor got to has its value and the latch is set. -/
theorem Unpromoted.promote_run {self : Attrs Obj} {method : PyVal Obj}
    (hself : Unpromoted self method) :
    let vars := core.environ_vars stack.urllib
    let promoted := promote stack.django stack.urllib core self
    promoted.1 = stack.django.construction method vars ∧
      promoted.2.dict.get? "_is_django" = some (.py (.bool true)) ∧
      ∀ name, name ≠ "_is_django" → promoted.2.dict.get? name =
        ((stack.django.constructed method vars core.body).get? name).or
          (if name = "_post" ∧ stack.django.ResetsForm method vars then none
            else self.dict.get? name) := by
  obtain ⟨hend, hslots, -⟩ := ensure_promoted_run stack.django stack.urllib core self method
    hself.latch hself.method hself.cache
  rw [hself.ensure_promoted_eq stack core] at hend hslots
  refine ⟨hend, ?_, fun name hname => ?_⟩
  · rw [hslots, stack.django.constructed_eq_none _ _ _ (by decide)]
    simp
  · rw [hslots, if_neg hname]

/-- On a latched request `__getattr__` only raises. -/
theorem getattr_latched {self : Attrs Obj} (name : String)
    (hlatch : self.dict.get? "_is_django" = some (.py (.bool true))) :
    getattr stack core name self = (.error (.AttributeError name), self) := by
  simp [getattr, is_django, hlatch]

/-- A lookup that fails on a request it has latched leaves what that lookup left. -/
theorem looked_up_latched {self : Attrs Obj} {name : String} {lookup : Py (Attrs Obj) (Val Obj)}
    (hlatch : (lookup self).2.dict.get? "_is_django" = some (.py (.bool true))) :
    (looked_up stack core name lookup self).2 = (lookup self).2 := by
  rw [looked_up]
  split
  · next hlookup =>
    rw [hlookup] at hlatch ⊢
    rw [getattr_latched stack core name hlatch]
  · next hlookup => rw [hlookup]

/-- The use in which promotion fails leaves what the constructor left. -/
theorem Unpromoted.use_failed {self after : Attrs Obj} {method : PyVal Obj} {error : Exc}
    (hself : Unpromoted self method) {first : Use Obj}
    (hneeds : NeedsPromotion stack self first)
    (hpromote : promote stack.django stack.urllib core self = (.error error, after)) :
    (use stack core first self).2 = after := by
  obtain ⟨-, hlatch, -⟩ := hself.promote_run stack core
  rw [hpromote] at hlatch
  have hensure := (hself.ensure_promoted_eq stack core).trans hpromote
  -- each override promotes before it does anything else
  have hstopped : ∀ (rest : Unit → Py (Attrs Obj) (Val Obj)),
      (ensure_promoted stack.django stack.urllib core >>= rest) self = (.error error, after) := by
    intro rest
    rw [Py.bind_run, hensure]
  have huser : ∀ users, self.dict.get? "_user" = some (.py .none) →
      user users (ensure_promoted stack.django stack.urllib core) self =
        (.error error, after) := by
    intro users hnone
    rw [user, Py.bind_run, Instance.get_item_run]
    simp only [hnone]
    exact hstopped _
  have hlooked_up : ∀ name lookup, lookup self = (.error error, after) →
      (looked_up stack core name lookup self).2 = after := by
    intro name lookup hlookup
    rw [looked_up_latched stack core (by rw [hlookup]; exact hlatch), hlookup]
  cases first with
  | access op =>
    cases op with
    | read attr =>
      refine hlooked_up _ _ ?_
      cases attr with
      | user => exact huser _ hneeds
      | _ => exact hstopped _
    | assign attr value =>
      obtain rfl : attr = .encoding := hneeds
      simp only [use, access, set_attr, Attr.name, String.reduceEq, if_false, if_true,
        set_encoding, Py.bind_run, hensure]
  | delegated member args =>
    have hcalled : delegated stack core member args self = (.error error, after) := hstopped _
    cases hproperty : member.property with
    | some name =>
      simp only [use, hproperty]
      exact hlooked_up _ _ hcalled
    | none => simp only [use, hproperty, hcalled]
  | aget_user => rw [use, aget_user, huser _ hneeds]
  | attr name =>
    obtain ⟨hmissing, hclass, hunderscore, hprobe⟩ := hneeds
    have hlookup : getattribute stack name self = (.error (.AttributeError name), self) := by
      rw [getattribute, Py.bind_run, Instance.get_item_run]
      simp only [hmissing, Option.isNone_iff_eq_none.mp hclass, Py.raise_run]
    simp only [use, looked_up, hlookup, getattr, is_django, Py.bind_run, Py.gets_run, hself.latch,
      hunderscore, hprobe, Bool.false_eq_true, or_self, if_false, hpromote]

/-- The codec `hex` is known, but texts do not decode under it. Decoded objects are
texts. -/
def hex_django : Django String :=
  { ascii_django with
    parse_header_parameters := fun line =>
      if line = "text/plain; charset=hex" then ("text/plain", Dict.empty.set "charset" "hex")
      else if line = "text/plain; charset=utf-8" then
        ("text/plain", Dict.empty.set "charset" "utf-8")
      else (line, .empty)
    codecs_lookup := fun name => name = "utf-8" ∨ name = "hex"
    query_dict := fun vars encoding =>
      let query := (vars.get? "QUERY_STRING").getD ""
      if encoding = .str "hex" ∧ query ≠ "" then .error "LookupError" else .ok query }

/-- No user model and no members of the stock classes. -/
def hex_stack : Stack String where
  django := hex_django
  urllib := ascii_urllib
  users _ := .error "DoesNotExist"
  async_users _ := .error "DoesNotExist"
  delegated _ _ := Py.raise (.AttributeError "delegated")
  class_attr _ := none

/-- `GET /?q=1` with a content type. -/
def typed_core (content_type : String) : RequestCore :=
  .create (ascii "GET") (some (ascii "/")) (ascii "q=1")
    [(ascii "Content-Type", ascii content_type)] [] none none

end MasslessRequest

end massless.request
