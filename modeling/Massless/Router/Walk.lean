import Massless.Router.Match

open python

namespace massless.router

/-- The `pattern` of a URLconf entry: a `RoutePattern` with its route string,
or any other pattern class (`RegexPattern`, `LocalePrefixPattern`), which the
table never looks into. -/
inductive Pattern (Regex : Type) where
  | route (route : String)
  | regex (regex : Regex)

/-- A URLconf entry: `URLPattern`, `URLResolver`, or an object of another class. -/
inductive UrlEntry (View Obj Regex : Type) where
  | url_pattern (pattern : Pattern Regex) (callback : View) (default_args : Kwargs Obj)
      (name : Option String)
  | url_resolver (pattern : Pattern Regex) (url_patterns : List (UrlEntry View Obj Regex))
      (default_kwargs : Kwargs Obj)
  | other (object : Obj)

section

variable {View Obj Regex : Type} (finditer : String → List Component)
  (iscoroutinefunction : View → Bool)

/-- `_make_route` -/
def make_route (parts : List Part) (callback : View) (default_args : Kwargs Obj)
    (route_str : String) (name : Option String) : Route View Obj :=
  { parts, callback, is_async := iscoroutinefunction callback, default_args, route_str, name }

mutual

/-- `_walk` for one entry: the rows it appends to the table. -/
def walk_entry (prefix_parts : List Part) (prefix_route : String) :
    UrlEntry View Obj Regex → List (Option (Route View Obj))
  | .url_pattern (.route route) callback default_args name =>
    match parse_raw finditer route with
    | none => [none]
    | some raw =>
      match finalize (prefix_parts ++ raw) with
      | none => [none]
      | some final =>
        [some (make_route iscoroutinefunction final callback default_args
          (prefix_route ++ route) name)]
  | .url_pattern (.regex _) _ _ _ => [none]
  | .url_resolver (.route route) url_patterns _ =>
    -- the include's default kwargs are not passed on
    match parse_raw finditer route with
    | none => [none]
    | some raw => walk (prefix_parts ++ raw) (prefix_route ++ route) url_patterns
  | .url_resolver (.regex _) _ _ => [none]
  | .other _ => [none]

/-- `_walk` -/
def walk (prefix_parts : List Part) (prefix_route : String) :
    List (UrlEntry View Obj Regex) → List (Option (Route View Obj))
  | [] => []
  | p :: rest =>
    walk_entry prefix_parts prefix_route p ++ walk prefix_parts prefix_route rest

end

/-- `build_router`, from the entries of the root URLconf. -/
def build_router (url_patterns : List (UrlEntry View Obj Regex)) : Router View Obj :=
  ⟨walk finditer iscoroutinefunction [] "" url_patterns⟩

end

end massless.router
