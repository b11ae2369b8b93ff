import Massless.Router.ResolverMatch
import Massless.Search.FirstMatch

open python
open search

namespace massless.router

/-- The `pattern` of an entry of `urlpatterns` as a project writes it. The text of a route is
a string, or what a string depends on, as a lazily translated one on the active language. -/
inductive TextPattern (Text Regex : Type) where
  | route (route : Text)
  | regex (regex : Regex)

/-- A `URLResolver`, its children aside, with the names `include` gives it. -/
structure Include (Text Obj Regex : Type) where
  pattern : TextPattern Text Regex
  default_kwargs : Kwargs Obj
  app_name : Option String
  namespace_ : Option String

/-- A `URLPattern`, or an object of another class. -/
inductive Leaf (Text View Obj Regex : Type) where
  | url_pattern (pattern : TextPattern Text Regex) (callback : View) (default_args : Kwargs Obj)
      (name : Option String)
  | other (object : Obj)

/-- An entry of `urlpatterns`: includes around leaves. -/
abbrev Declared (Text View Obj Regex : Type) :=
  Tree (Include Text Obj Regex) (Leaf Text View Obj Regex)

/-- A leaf with the includes around it, outermost first. -/
abbrev LeafWay (Text View Obj Regex : Type) :=
  Way (Include Text Obj Regex) (Leaf Text View Obj Regex)

variable {Text View Obj Regex : Type}

/-- The pattern when its route reads as `text` says, which is what `str` gives. -/
def TextPattern.reading (text : Text → String) : TextPattern Text Regex → Pattern Regex
  | .route written => .route (text written)
  | .regex compiled => .regex compiled

def Leaf.reading (text : Text → String) : Leaf Text View Obj Regex → UrlEntry View Obj Regex
  | .url_pattern pattern callback default_args name =>
    .url_pattern (pattern.reading text) callback default_args name
  | .other object => .other object

mutual

/-- The entry as `_walk` sees it, which looks at no name but that of a leaf. -/
def reading (text : Text → String) : Declared Text View Obj Regex → UrlEntry View Obj Regex
  | .leaf leaf => leaf.reading text
  | .node inc children =>
    .url_resolver (inc.pattern.reading text) (reading_all text children) inc.default_kwargs

def reading_all (text : Text → String) :
    List (Declared Text View Obj Regex) → List (UrlEntry View Obj Regex)
  | [] => []
  | entry :: rest => reading text entry :: reading_all text rest

end

/-- The parts of Django's URL resolution that are not in this repository, the texts of
patterns and the names in foreign matches included. -/
structure Resolvers (View Obj Regex : Type) where
  finditer : String → List Component
  route_match : (is_endpoint : Bool) → (route path : String) → Option (String × Kwargs Obj)
  regex_match : Regex → (path : String) → Option (String × List (Value Obj) × Kwargs Obj)
  regex_str : Regex → String
  other_resolve : Obj → (path : String) → Option (NamedMatch View Obj)
  other_str : Obj → String
  func_path : View → String

/-- `URLResolver._join_route` -/
def join_route (route1 route2 : String) : String :=
  if route1 = "" then route2
  else
    match route2.toList with
    | '^' :: rest => route1 ++ String.ofList rest
    | _ => route1 ++ route2

namespace Resolvers

variable (django : Resolvers View Obj Regex)

/-- Django without the names. -/
def matching : Django View Obj Regex where
  finditer := django.finditer
  route_match := django.route_match
  regex_match := django.regex_match
  resolve_other object path := (django.other_resolve object path).map NamedMatch.toResolverMatch

/-- `str(self.pattern)` -/
def pattern_str : Pattern Regex → String
  | .route route => route
  | .regex regex => django.regex_str regex

/-- What `URLResolver.resolve` makes of the match of the child it has chosen, which comes
with the route that the child adds. -/
def join (app_name namespace_ : Option String) (args : List (Value Obj))
    (kwargs default_kwargs : Kwargs Obj) (sub : String × NamedMatch View Obj) :
    NamedMatch View Obj :=
  let joined := join_match args kwargs default_kwargs sub.2.toResolverMatch
  NamedMatch.init django.func_path joined.callback joined.args joined.kwargs sub.2.url_name
    (app_name :: sub.2.app_names.map some) (namespace_ :: sub.2.namespaces.map some)
    (join_route sub.1 sub.2.route)

/-- `URLPattern.resolve`; a `URLPattern` adds no route to that of its match. -/
def leaf_resolve (text : Text → String) (path : String) :
    Leaf Text View Obj Regex → Option (String × NamedMatch View Obj)
  | .url_pattern pattern callback default_args name =>
    (django.matching.pattern_match true (pattern.reading text) path).map fun found =>
      ("", NamedMatch.init django.func_path callback found.2.1 (found.2.2.update default_args) name
        [] [] (django.pattern_str (pattern.reading text)))
  | .other object => (django.other_resolve object path).map fun m => (django.other_str object, m)

/-- The loop of `URLResolver.resolve` over its children as a search: the first child that
resolves what an include leaves of the path. -/
def rules (text : Text → String) :
    Rules (Include Text Obj Regex) (Leaf Text View Obj Regex) String
      (String × NamedMatch View Obj) where
  enter inc path :=
    (django.matching.pattern_match false (inc.pattern.reading text) path).map fun found =>
      (found.1, fun sub => (django.pattern_str (inc.pattern.reading text),
        django.join inc.app_name inc.namespace_ found.2.1 found.2.2 inc.default_kwargs sub))
  find leaf path := django.leaf_resolve text path leaf

/-- `get_resolver().resolve(path)`: the root resolver has no name and no namespace. -/
def resolve_root (text : Text → String) (site : List (Declared Text View Obj Regex))
    (path : String) : Option (NamedMatch View Obj) :=
  match path.toList with
  | '/' :: rest =>
    ((django.rules text).first_all site (String.ofList rest)).map
      (django.join none none [] .empty .empty)
  | _ => none

mutual

theorem first_toResolverMatch (text : Text → String) (entry : Declared Text View Obj Regex)
    (path : String) :
    ((django.rules text).first entry path).map (fun sub => sub.2.toResolverMatch) =
      django.matching.resolve (reading text entry) path :=
  match entry with
  | .leaf (.url_pattern pattern callback default_args name) => by
    simp only [Rules.first, rules, leaf_resolve, reading, Leaf.reading, Django.resolve]
    cases django.matching.pattern_match true (pattern.reading text) path <;> rfl
  | .leaf (.other object) => by
    simp only [Rules.first, rules, leaf_resolve, reading, Leaf.reading, Django.resolve, matching,
      Option.map_map]
    rfl
  | .node inc children => by
    simp only [Rules.first, reading, Django.resolve]
    simp only [rules]
    cases django.matching.pattern_match false (inc.pattern.reading text) path with
    | none => rfl
    | some found =>
      simp only [Option.map_some]
      rw [← first_all_toResolverMatch text children found.1, Option.map_map, Option.map_map]
      rfl

/-- Without the names, this is the search that the table is compared with. -/
theorem first_all_toResolverMatch (text : Text → String)
    (entries : List (Declared Text View Obj Regex)) (path : String) :
    ((django.rules text).first_all entries path).map (fun sub => sub.2.toResolverMatch) =
      django.matching.resolve_children (reading_all text entries) path :=
  match entries with
  | [] => by
    simp only [Rules.first_all, reading_all, Django.resolve_children]
    rfl
  | entry :: rest => by
    simp only [Rules.first_all, reading_all, Django.resolve_children]
    rw [← first_toResolverMatch text entry path, ← first_all_toResolverMatch text rest path]
    cases (django.rules text).first entry path <;> rfl

end

theorem resolve_root_toResolverMatch (text : Text → String)
    (site : List (Declared Text View Obj Regex)) (path : String) :
    (django.resolve_root text site path).map NamedMatch.toResolverMatch =
      django.matching.resolve_root (reading_all text site) path := by
  unfold resolve_root Django.resolve_root
  cases path.toList with
  | nil => rfl
  | cons c rest =>
    by_cases hslash : c = '/'
    · subst hslash
      simp only
      rw [Option.map_map, ← first_all_toResolverMatch, Option.map_map]
      rfl
    · simp [hslash]

end Resolvers

end massless.router
