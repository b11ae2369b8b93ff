import Massless.Router.Resolver

open python

namespace massless.router

/-- One include on the way to a leaf. -/
structure Level (Obj : Type) where
  route : String
  default_kwargs : Kwargs Obj

/-- A leaf of the URLconf together with the includes around it, outermost
first, and the finalized parts of its concatenated route. -/
structure Chain (View Obj : Type) where
  levels : List (Level Obj)
  final : List Part
  prefix_route : String
  route : String
  callback : View
  default_args : Kwargs Obj
  name : Option String

section

variable {View Obj Regex : Type} (finditer : String → List Component)

mutual

/-- The leaves below one entry in URLconf order, `none` standing for an entry
that has to be left to Django. -/
def leaves_entry (levels : List (Level Obj)) (prefix_parts : List Part) (prefix_route : String) :
    UrlEntry View Obj Regex → List (Option (Chain View Obj))
  | .url_pattern (.route route) callback default_args name =>
    [(parse_raw finditer route).bind fun raw =>
      (finalize (prefix_parts ++ raw)).map fun final =>
        ⟨levels, final, prefix_route, route, callback, default_args, name⟩]
  | .url_pattern (.regex _) _ _ _ => [none]
  | .url_resolver (.route route) url_patterns default_kwargs =>
    match parse_raw finditer route with
    | none => [none]
    | some raw =>
      leaves (levels ++ [⟨route, default_kwargs⟩]) (prefix_parts ++ raw) (prefix_route ++ route)
        url_patterns
  | .url_resolver (.regex _) _ _ => [none]
  | .other _ => [none]

/-- The leaves of a list of entries in URLconf order. -/
def leaves (levels : List (Level Obj)) (prefix_parts : List Part) (prefix_route : String) :
    List (UrlEntry View Obj Regex) → List (Option (Chain View Obj))
  | [] => []
  | p :: rest =>
    leaves_entry levels prefix_parts prefix_route p ++ leaves levels prefix_parts prefix_route rest

end

/-- The table row of a leaf. -/
def Chain.to_route (iscoroutinefunction : View → Bool) (c : Chain View Obj) : Route View Obj :=
  make_route iscoroutinefunction c.final c.callback c.default_args (c.prefix_route ++ c.route)
    c.name

mutual

theorem walk_entry_eq_leaves (iscoroutinefunction : View → Bool) (levels : List (Level Obj))
    (prefix_parts : List Part) (prefix_route : String) :
    ∀ entry : UrlEntry View Obj Regex,
      walk_entry finditer iscoroutinefunction prefix_parts prefix_route entry =
        (leaves_entry finditer levels prefix_parts prefix_route entry).map
          (Option.map (Chain.to_route iscoroutinefunction))
  | .url_pattern (.route route) callback default_args name => by
    simp only [walk_entry, leaves_entry]
    cases parse_raw finditer route with
    | none => rfl
    | some raw => cases hfinal : finalize (prefix_parts ++ raw) <;> simp [hfinal, Chain.to_route]
  | .url_pattern (.regex _) _ _ _ => by simp [walk_entry, leaves_entry]
  | .url_resolver (.route route) url_patterns default_kwargs => by
    simp only [walk_entry, leaves_entry]
    cases parse_raw finditer route with
    | none => rfl
    | some raw => exact walk_eq_leaves iscoroutinefunction _ _ _ url_patterns
  | .url_resolver (.regex _) _ _ => by simp [walk_entry, leaves_entry]
  | .other _ => by simp [walk_entry, leaves_entry]

/-- The table lists exactly the leaves of the URLconf, in order. -/
theorem walk_eq_leaves (iscoroutinefunction : View → Bool) (levels : List (Level Obj))
    (prefix_parts : List Part) (prefix_route : String) :
    ∀ entries : List (UrlEntry View Obj Regex),
      walk finditer iscoroutinefunction prefix_parts prefix_route entries =
        (leaves finditer levels prefix_parts prefix_route entries).map
          (Option.map (Chain.to_route iscoroutinefunction))
  | [] => by simp [walk, leaves]
  | p :: rest => by
    simp only [walk, leaves, List.map_append]
    rw [walk_entry_eq_leaves iscoroutinefunction levels prefix_parts prefix_route p,
      walk_eq_leaves iscoroutinefunction levels prefix_parts prefix_route rest]

end

end

variable {View Obj Regex : Type}

/-- Resolution of the text left over by the includes `levels`, joined level by
level with what those includes contribute. -/
def Django.under (django : Django View Obj Regex) (inner : String → Option (ResolverMatch View Obj)) :
    List (Level Obj) → String → Option (ResolverMatch View Obj)
  | [], path => inner path
  | level :: rest, path =>
    match django.route_match false level.route path with
    | none => none
    | some (new_path, kwargs) =>
      (django.under inner rest new_path).map (join_match [] kwargs level.default_kwargs)

theorem Django.under_append (django : Django View Obj Regex)
    (inner : String → Option (ResolverMatch View Obj)) (levels : List (Level Obj))
    (last : Level Obj) (path : String) :
    django.under inner (levels ++ [last]) path =
      django.under (django.under inner [last]) levels path := by
  induction levels generalizing path with
  | nil => rfl
  | cons level rest ih =>
    simp only [List.cons_append, Django.under]
    cases django.route_match false level.route path with
    | none => rfl
    | some m => simp only [ih, Django.under]

/-- Includes do not backtrack, so trying two alternatives below them is trying
the first below them and then the second. -/
theorem Django.under_or (django : Django View Obj Regex)
    (first second : String → Option (ResolverMatch View Obj)) (levels : List (Level Obj))
    (path : String) :
    django.under (fun p => (first p).or (second p)) levels path =
      (django.under first levels path).or (django.under second levels path) := by
  induction levels generalizing path with
  | nil => rfl
  | cons level rest ih =>
    simp only [Django.under]
    cases django.route_match false level.route path with
    | none => rfl
    | some m =>
      simp only [ih]
      cases django.under first rest m.1 <;> simp

theorem Django.under_none (django : Django View Obj Regex) (levels : List (Level Obj))
    (path : String) : django.under (fun _ => none) levels path = none := by
  induction levels generalizing path with
  | nil => rfl
  | cons level rest ih =>
    simp only [Django.under]
    cases django.route_match false level.route path with
    | none => rfl
    | some m => simp [ih]

/-- Django's answer at one leaf, its includes passed first. -/
def Chain.resolve (django : Django View Obj Regex) (c : Chain View Obj) (path : String) :
    Option (ResolverMatch View Obj) :=
  django.under (django.resolve (.url_pattern (.route c.route) c.callback c.default_args c.name))
    c.levels path

/-- Outcome of trying the leaves in order: the first that accepts, no leaf, or
an entry left to Django reached before any leaf accepted. -/
inductive Scan (View Obj : Type) where
  | found (chain : Chain View Obj) (result : ResolverMatch View Obj)
  | missed
  | deferred

def scan_leaves (django : Django View Obj Regex) (path : String) :
    List (Option (Chain View Obj)) → Scan View Obj
  | [] => .missed
  | none :: _ => .deferred
  | some c :: rest =>
    match c.resolve django path with
    | some result => .found c result
    | none => scan_leaves django path rest

/-- A finished scan says what Django's own search answers. -/
def Scan.Says (scan : Scan View Obj) (answer : Option (ResolverMatch View Obj)) : Prop :=
  match scan with
  | .found _ result => answer = some result
  | .missed => answer = none
  | .deferred => True

theorem Scan.Says.append (django : Django View Obj Regex) (path : String)
    {first second : List (Option (Chain View Obj))}
    {answer rest : Option (ResolverMatch View Obj)}
    (hfirst : (scan_leaves django path first).Says answer)
    (hsecond : (scan_leaves django path second).Says rest) :
    (scan_leaves django path (first ++ second)).Says (answer.or rest) := by
  induction first with
  | nil =>
    have hnone : answer = none := hfirst
    simpa [hnone] using hsecond
  | cons entry others ih =>
    cases entry with
    | none => trivial
    | some c =>
      simp only [List.cons_append, scan_leaves] at hfirst ⊢
      cases hresolve : c.resolve django path with
      | none =>
        simp only [hresolve] at hfirst ⊢
        exact ih hfirst
      | some result =>
        simp only [hresolve] at hfirst ⊢
        have hanswer : answer = some result := hfirst
        simp [Scan.Says, hanswer]

mutual

theorem scan_leaves_entry_agrees (django : Django View Obj Regex) (levels : List (Level Obj))
    (prefix_parts : List Part) (prefix_route path : String) :
    ∀ entry : UrlEntry View Obj Regex,
      (scan_leaves django path
        (leaves_entry django.finditer levels prefix_parts prefix_route entry)).Says
        (django.under (django.resolve entry) levels path)
  | .url_pattern (.route route) callback default_args name => by
    simp only [leaves_entry]
    cases parse_raw django.finditer route with
    | none => trivial
    | some raw =>
      simp only [Option.bind_some]
      cases finalize (prefix_parts ++ raw) with
      | none => trivial
      | some final =>
        simp only [Option.map_some, scan_leaves, Chain.resolve]
        cases django.under
          (django.resolve (.url_pattern (.route route) callback default_args name)) levels path <;>
          simp [Scan.Says]
  | .url_pattern (.regex _) _ _ _ => by simp [leaves_entry, scan_leaves, Scan.Says]
  | .url_resolver (.route route) url_patterns default_kwargs => by
    simp only [leaves_entry]
    cases parse_raw django.finditer route with
    | none => trivial
    | some raw =>
      have hchildren := scan_leaves_agrees django (levels ++ [⟨route, default_kwargs⟩])
        (prefix_parts ++ raw) (prefix_route ++ route) path url_patterns
      rw [Django.under_append] at hchildren
      have hinclude :
          django.under (django.resolve_children url_patterns) [⟨route, default_kwargs⟩] =
          django.resolve (.url_resolver (.route route) url_patterns default_kwargs) := by
        funext text
        simp only [Django.under, Django.resolve, Django.pattern_match]
        cases django.route_match false route text <;> rfl
      rwa [hinclude] at hchildren
  | .url_resolver (.regex _) _ _ => by simp [leaves_entry, scan_leaves, Scan.Says]
  | .other _ => by simp [leaves_entry, scan_leaves, Scan.Says]

/-- Trying the listed leaves one after another finds what Django's recursive
search below the includes `levels` finds. -/
theorem scan_leaves_agrees (django : Django View Obj Regex) (levels : List (Level Obj))
    (prefix_parts : List Part) (prefix_route path : String) :
    ∀ entries : List (UrlEntry View Obj Regex),
      (scan_leaves django path (leaves django.finditer levels prefix_parts prefix_route entries)).Says
        (django.under (django.resolve_children entries) levels path)
  | [] => by
    have hchildren : django.resolve_children ([] : List (UrlEntry View Obj Regex)) =
        fun _ => none := by
      funext text
      simp [Django.resolve_children]
    rw [hchildren, Django.under_none]
    simp [leaves, scan_leaves, Scan.Says]
  | p :: rest => by
    have hchildren : django.resolve_children (p :: rest) =
        fun text => (django.resolve p text).or (django.resolve_children rest text) := by
      funext text
      simp only [Django.resolve_children]
      cases django.resolve p text <;> rfl
    rw [hchildren, Django.under_or, leaves]
    exact Scan.Says.append django path
      (scan_leaves_entry_agrees django levels prefix_parts prefix_route path p)
      (scan_leaves_agrees django levels prefix_parts prefix_route path rest)

end

end massless.router
