import Massless.Router.Walk

open python

namespace massless.router

/-- What `ResolverMatch` carries for the view call. -/
structure ResolverMatch (View Obj : Type) where
  callback : View
  args : List (Value Obj)
  kwargs : Kwargs Obj

/-- The parts of Django's URL matching that are not in this repository: the
component regex, `RoutePattern.match` for a leaf (`is_endpoint`) or an include,
which yields the unmatched rest and the converted captures, the `match` of the
other pattern classes, and `resolve` of a foreign URLconf object. -/
structure Django (View Obj Regex : Type) where
  finditer : String → List Component
  route_match : (is_endpoint : Bool) → (route path : String) → Option (String × Kwargs Obj)
  regex_match : Regex → (path : String) → Option (String × List (Value Obj) × Kwargs Obj)
  resolve_other : Obj → (path : String) → Option (ResolverMatch View Obj)

variable {View Obj Regex : Type}

/-- `self.pattern.match(path)`; a `RoutePattern` never captures positionally. -/
def Django.pattern_match (django : Django View Obj Regex) (is_endpoint : Bool)
    (pattern : Pattern Regex) (path : String) :
    Option (String × List (Value Obj) × Kwargs Obj) :=
  match pattern with
  | .route route => (django.route_match is_endpoint route path).map fun m => (m.1, [], m.2)
  | .regex regex => django.regex_match regex path

/-- How `URLResolver.resolve` joins its own captures with the chosen child's
match: `{**kwargs, **default_kwargs}` updated by the child's kwargs, and its
positional captures only when no keyword is left. -/
def join_match (args : List (Value Obj)) (kwargs default_kwargs : Kwargs Obj)
    (sub : ResolverMatch View Obj) : ResolverMatch View Obj :=
  let sub_match_dict := (kwargs.update default_kwargs).update sub.kwargs
  { callback := sub.callback
    args := if sub_match_dict.isEmpty then args ++ sub.args else sub.args
    kwargs := sub_match_dict }

mutual

/-- `URLPattern.resolve` and `URLResolver.resolve`; `none` is `Resolver404`. -/
def Django.resolve (django : Django View Obj Regex) :
    UrlEntry View Obj Regex → String → Option (ResolverMatch View Obj)
  | .url_pattern pattern callback default_args _, path =>
    match django.pattern_match true pattern path with
    | none => none
    | some (_, args, captured) => some ⟨callback, args, captured.update default_args⟩
  | .url_resolver pattern url_patterns default_kwargs, path =>
    match django.pattern_match false pattern path with
    | none => none
    | some (new_path, args, kwargs) =>
      (django.resolve_children url_patterns new_path).map (join_match args kwargs default_kwargs)
  | .other object, path => django.resolve_other object path

/-- The loop over `url_patterns`: the first child that resolves the path. -/
def Django.resolve_children (django : Django View Obj Regex) :
    List (UrlEntry View Obj Regex) → String → Option (ResolverMatch View Obj)
  | [], _ => none
  | p :: rest, path =>
    match django.resolve p path with
    | some sub => some sub
    | none => django.resolve_children rest path

end

/-- `get_resolver().resolve(path)`: the root resolver's pattern is the regex
`^/`, it has no default kwargs. -/
def Django.resolve_root (django : Django View Obj Regex)
    (url_patterns : List (UrlEntry View Obj Regex)) (path : String) :
    Option (ResolverMatch View Obj) :=
  match path.toList with
  | '/' :: rest =>
    (django.resolve_children url_patterns (String.ofList rest)).map (join_match [] .empty .empty)
  | _ => none

end massless.router
