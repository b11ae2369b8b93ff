import Massless.Python.Effect
import Massless.Router.Resolver

open python

namespace massless.router

/-- `[x for x in names if x] if names else []` -/
def truthy (names : List (Option String)) : List String :=
  names.filterMap fun name => name.filter fun text => text ≠ ""

/-- A `ResolverMatch` of Django, with what its constructor derives. -/
structure NamedMatch (View Obj : Type) extends ResolverMatch View Obj where
  url_name : Option String
  route : String
  app_names : List String
  app_name : String
  namespaces : List String
  namespace_ : String
  view_name : String

/-- What a reader of a match gets: one of its attributes, or an item of it. -/
inductive Item (View Obj : Type) where
  | func (func : View)
  | args (args : List (Value Obj))
  | kwargs (kwargs : Kwargs Obj)
  | name (name : Option String)
  | text (text : String)
  | names (names : List String)

inductive Attribute where
  | func
  | args
  | kwargs
  | url_name
  | route
  | app_names
  | app_name
  | namespaces
  | namespace_
  | view_name

/-- The ways to read a match: `match.name`, `match[index]` and `func, args, kwargs = match`. -/
inductive Read where
  | getattr (attr : Attribute)
  | getitem (index : Int)
  | unpack

variable {View Obj : Type}

/-- Equal items; two dictionaries are equal when their lookups are. -/
def Item.Same : Item View Obj → Item View Obj → Prop
  | .kwargs first, .kwargs second => first.Same second
  | first, second => first = second

/-- Two reads raise the same, or return the same items. -/
def SameOutcome : Except Exc (List (Item View Obj)) → Except Exc (List (Item View Obj)) → Prop
  | .ok first, .ok second => List.Forall₂ Item.Same first second
  | .error first, .error second => first = second
  | _, _ => False

namespace NamedMatch

/-- `ResolverMatch.__init__`; `func_path` is the dotted path of a view. -/
def init (func_path : View → String) (func : View) (args : List (Value Obj))
    (kwargs : Kwargs Obj) (url_name : Option String) (app_names namespaces : List (Option String))
    (route : String) : NamedMatch View Obj :=
  let view_path := (url_name.filter fun name => name ≠ "").getD (func_path func)
  { callback := func
    args, kwargs, url_name, route
    app_names := truthy app_names
    app_name := ":".intercalate (truthy app_names)
    namespaces := truthy namespaces
    namespace_ := ":".intercalate (truthy namespaces)
    view_name := ":".intercalate (truthy namespaces ++ [view_path]) }

def getattr (self : NamedMatch View Obj) : Attribute → Item View Obj
  | .func => .func self.callback
  | .args => .args self.args
  | .kwargs => .kwargs self.kwargs
  | .url_name => .name self.url_name
  | .route => .text self.route
  | .app_names => .names self.app_names
  | .app_name => .text self.app_name
  | .namespaces => .names self.namespaces
  | .namespace_ => .text self.namespace_
  | .view_name => .text self.view_name

/-- `(self.func, self.args, self.kwargs)[index]` -/
def getitem (self : NamedMatch View Obj) (index : Int) : Except Exc (Item View Obj) :=
  if index = 0 ∨ index = -3 then .ok (.func self.callback)
  else if index = 1 ∨ index = -2 then .ok (.args self.args)
  else if index = 2 ∨ index = -1 then .ok (.kwargs self.kwargs)
  else .error (.other "IndexError")

def read (self : NamedMatch View Obj) : Read → Except Exc (List (Item View Obj))
  | .getattr attr => .ok [self.getattr attr]
  | .getitem index => (self.getitem index).map fun item => [item]
  | .unpack => .ok [.func self.callback, .args self.args, .kwargs self.kwargs]

/-- No read tells the two matches apart. -/
def Agrees (self other : NamedMatch View Obj) : Prop :=
  ∀ request, SameOutcome (self.read request) (other.read request)

theorem agrees_iff (self other : NamedMatch View Obj) :
    self.Agrees other ↔
      self.callback = other.callback ∧ self.args = other.args ∧ self.kwargs.Same other.kwargs ∧
      self.url_name = other.url_name ∧ self.route = other.route ∧
      self.app_names = other.app_names ∧ self.app_name = other.app_name ∧
      self.namespaces = other.namespaces ∧ self.namespace_ = other.namespace_ ∧
      self.view_name = other.view_name := by
  constructor
  · intro hagrees
    have hattr : ∀ attr, Item.Same (self.getattr attr) (other.getattr attr) := by
      intro attr
      have hread : List.Forall₂ Item.Same [self.getattr attr] [other.getattr attr] :=
        hagrees (.getattr attr)
      simpa using hread
    exact ⟨Item.func.inj (hattr .func), Item.args.inj (hattr .args), hattr .kwargs,
      Item.name.inj (hattr .url_name), Item.text.inj (hattr .route),
      Item.names.inj (hattr .app_names), Item.text.inj (hattr .app_name),
      Item.names.inj (hattr .namespaces), Item.text.inj (hattr .namespace_),
      Item.text.inj (hattr .view_name)⟩
  · rintro ⟨hfunc, hargs, hkwargs, hurl, hroute, happs, happ, hspaces, hspace, hview⟩ request
    have hfuncs : Item.Same (.func self.callback) (Item.func other.callback : Item View Obj) :=
      congrArg Item.func hfunc
    have hall : Item.Same (.args self.args) (Item.args other.args : Item View Obj) :=
      congrArg Item.args hargs
    cases request with
    | getattr attr =>
      refine List.Forall₂.cons ?_ List.Forall₂.nil
      cases attr with
      | kwargs => exact hkwargs
      | _ => simp [getattr, Item.Same, *]
    | getitem index =>
      simp only [read, getitem]
      split
      · exact List.Forall₂.cons hfuncs List.Forall₂.nil
      · split
        · exact List.Forall₂.cons hall List.Forall₂.nil
        · split
          · exact List.Forall₂.cons hkwargs List.Forall₂.nil
          · rfl
    | unpack =>
      exact List.Forall₂.cons hfuncs
        (List.Forall₂.cons hall (List.Forall₂.cons hkwargs List.Forall₂.nil))

end NamedMatch

/-- `resolve_request` wraps a hit of the router into a match of Django. -/
def Match.resolver_match (func_path : View → String) (m : Match View Obj) : NamedMatch View Obj :=
  NamedMatch.init func_path m.callback m.args m.kwargs none [] [] m.route_str

/-- `_LazyResolverMatch` -/
structure LazyResolverMatch (View Obj : Type) where
  parts : View × List (Value Obj) × Kwargs Obj × String
  rm : Option (NamedMatch View Obj)

/-- `_LazyResolverMatch(callback, args, kwargs, route)`, as both fast paths call it. -/
def Match.lazy_resolver_match (m : Match View Obj) : LazyResolverMatch View Obj :=
  ⟨(m.callback, m.args, m.kwargs, m.route_str), none⟩

namespace LazyResolverMatch

variable (func_path : View → String)

/-- `_materialize` -/
def materialize : Py (LazyResolverMatch View Obj) (NamedMatch View Obj) := do
  match ← Py.gets LazyResolverMatch.rm with
  | some rm => pure rm
  | none =>
    let (callback, args, kwargs, route) ← Py.gets parts
    let rm := NamedMatch.init func_path callback args kwargs none [] [] route
    Py.modify fun self => { self with rm := some rm }
    pure rm

/-- `__getattr__`, `__getitem__` and `__iter__` -/
def read (request : Read) : Py (LazyResolverMatch View Obj) (List (Item View Obj)) := do
  let rm ← materialize func_path
  Py.lift (rm.read request)

/-- What a sequence of reads of one object sees. -/
def reads : List Read → LazyResolverMatch View Obj → List (Except Exc (List (Item View Obj)))
  | [], _ => []
  | request :: rest, self =>
    (read func_path request self).1 :: reads rest (read func_path request self).2

/-- The object stands for a match: this is what its parts make, and nothing else is kept. -/
structure StandsFor (lazy_match : LazyResolverMatch View Obj) (rm : NamedMatch View Obj) : Prop where
  parts : NamedMatch.init func_path lazy_match.parts.1 lazy_match.parts.2.1
    lazy_match.parts.2.2.1 none [] [] lazy_match.parts.2.2.2 = rm
  kept : lazy_match.rm = none ∨ lazy_match.rm = some rm

theorem StandsFor.read_eq {func_path : View → String} {self : LazyResolverMatch View Obj}
    {rm : NamedMatch View Obj} (hself : StandsFor func_path self rm) (request : Read) :
    (read func_path request self).1 = rm.read request ∧
      StandsFor func_path (read func_path request self).2 rm := by
  obtain hnone | hsome := hself.kept
  · have hmade : materialize func_path self = (.ok rm, { self with rm := some rm }) := by
      simp [materialize, hnone, hself.parts]
    simp only [read, Py.bind_run, hmade, Py.lift_run, true_and]
    exact ⟨hself.parts, Or.inr rfl⟩
  · have hmade : materialize func_path self = (.ok rm, self) := by
      simp [materialize, hsome]
    simp only [read, Py.bind_run, hmade, Py.lift_run, true_and]
    exact hself

/-- However often and however it is read, the object answers like the match. -/
theorem StandsFor.reads_eq {func_path : View → String} {self : LazyResolverMatch View Obj}
    {rm : NamedMatch View Obj} (hself : StandsFor func_path self rm) (requests : List Read) :
    reads func_path requests self = requests.map rm.read := by
  induction requests generalizing self with
  | nil => rfl
  | cons request rest ih =>
    obtain ⟨hread, hnext⟩ := hself.read_eq request
    rw [reads, hread, ih hnext, List.map_cons]

end LazyResolverMatch

theorem Match.lazy_stands_for (func_path : View → String) (m : Match View Obj) :
    LazyResolverMatch.StandsFor func_path m.lazy_resolver_match (m.resolver_match func_path) :=
  ⟨rfl, Or.inl rfl⟩

/-- What a hit places on `request.resolver_match`, on the chain and on the fast path, reads
like Django's own match. -/
def Match.PlacedLike (func_path : View → String) (m : Match View Obj)
    (answer : Option (NamedMatch View Obj)) : Prop :=
  ∃ r, answer = some r ∧ (m.resolver_match func_path).Agrees r ∧
    ∀ requests, List.Forall₂ SameOutcome
      (LazyResolverMatch.reads func_path requests m.lazy_resolver_match) (requests.map r.read)

/-- The object of the fast path adds nothing to what the one of the chain says. -/
theorem Match.placedLike_iff (func_path : View → String) (m : Match View Obj)
    (answer : Option (NamedMatch View Obj)) :
    m.PlacedLike func_path answer ↔
      ∃ r, answer = some r ∧ (m.resolver_match func_path).Agrees r := by
  refine exists_congr fun r => and_congr_right fun _ => ⟨And.left, fun hagrees => ⟨hagrees, ?_⟩⟩
  intro requests
  rw [(m.lazy_stands_for func_path).reads_eq, List.forall₂_map_left_iff,
    List.forall₂_map_right_iff, List.forall₂_same]
  exact fun request _ => hagrees request

end massless.router
