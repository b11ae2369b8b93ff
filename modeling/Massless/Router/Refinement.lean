import Massless.Python.Layers
import Massless.Router.Chain

open python

namespace massless.router

variable {View Obj Regex : Type}

/-- What a path captures on the way to a leaf: per include its captures and its
default kwargs, and the captures of the leaf's own route. -/
structure Captures (Obj : Type) where
  layers : List (Kwargs Obj × Kwargs Obj)
  leaf : Kwargs Obj

/-- The captures of the includes, each matched on what the one before left, and
the text they leave over. -/
def Django.match_levels (django : Django View Obj Regex) :
    List (Level Obj) → String → Option (List (Kwargs Obj × Kwargs Obj) × String)
  | [], path => some ([], path)
  | level :: rest, path => do
    let (new_path, kwargs) ← django.route_match false level.route path
    let (layers, text) ← django.match_levels rest new_path
    some ((kwargs, level.default_kwargs) :: layers, text)

/-- Django's level-by-level text match of the concatenated route of a leaf. -/
def Chain.captures (django : Django View Obj Regex) (c : Chain View Obj) (path : String) :
    Option (Captures Obj) := do
  let (layers, text) ← django.match_levels c.levels path
  let (_, leaf) ← django.route_match true c.route text
  some ⟨layers, leaf⟩

/-- The match Django builds at a leaf from its captures. -/
def Chain.result (c : Chain View Obj) (caps : Captures Obj) : ResolverMatch View Obj :=
  ⟨c.callback, [], overlay (caps.leaf.update c.default_args) caps.layers⟩

/-- The first leaf in URLconf order whose text matches, unless an entry that is
left to Django comes before it. -/
def first_leaf (django : Django View Obj Regex) (path : String) :
    List (Option (Chain View Obj)) → Option (Chain View Obj × Captures Obj)
  | [] => none
  | none :: _ => none
  | some c :: rest =>
    match c.captures django path with
    | some caps => some (c, caps)
    | none => first_leaf django path rest

/-- The path without its first character, as the root resolver passes it on. -/
def path_tail (path : String) : String := String.ofList path.toList.tail

/-- The table's byte matcher and Django's regexes agree on the text of one
concatenated route: both refuse the path, or both capture the same. -/
def Chain.TextAgrees (django : Django View Obj Regex) (path : String) (c : Chain View Obj) : Prop :=
  match (match_parts (encode_utf8 path) c.final 1 .empty : Option (Kwargs Obj)),
    c.captures django (path_tail path) with
  | some kw, some caps => kw.Same (overlay_own caps.leaf caps.layers)
  | none, none => True
  | _, _ => False

/-- Every default kwarg of an include around the first matching leaf is either
overridden further in, or is the very value captured under that name so far. -/
def IncludeDefaultsShadowed (django : Django View Obj Regex)
    (url_patterns : List (UrlEntry View Obj Regex)) (path : String) : Prop :=
  path.toList.head? = some '/' → ∀ c caps,
    first_leaf django (path_tail path) (leaves django.finditer [] [] "" url_patterns) =
      some (c, caps) →
    ExtrasShadowed (caps.leaf.update c.default_args) .empty caps.layers

/-- A router hit equals Django's resolution in callback, args and kwargs. -/
def Match.AgreesWith (m : Match View Obj) (answer : Option (ResolverMatch View Obj)) : Prop :=
  ∃ r, answer = some r ∧ m.callback = r.callback ∧ m.args = r.args ∧ m.kwargs.Same r.kwargs

/-- Joining keeps an empty list of positional captures empty. -/
theorem join_match_of_no_args (kwargs default_kwargs : Kwargs Obj) (sub : ResolverMatch View Obj)
    (hargs : sub.args = []) :
    join_match [] kwargs default_kwargs sub =
      ⟨sub.callback, [], (kwargs.update default_kwargs).update sub.kwargs⟩ := by
  simp [join_match, hargs]

theorem under_leaf_eq_captures (django : Django View Obj Regex) (route : String) (callback : View)
    (default_args : Kwargs Obj) (name : Option String) (levels : List (Level Obj)) (path : String) :
    django.under (django.resolve (.url_pattern (.route route) callback default_args name)) levels
        path =
      ((django.match_levels levels path).bind fun outer =>
        (django.route_match true route outer.2).map fun m =>
          ⟨callback, [], overlay (m.2.update default_args) outer.1⟩) := by
  induction levels generalizing path with
  | nil =>
    simp only [Django.under, Django.resolve, Django.pattern_match, Django.match_levels,
      Option.bind_some]
    cases django.route_match true route path <;> rfl
  | cons level rest ih =>
    simp only [Django.under, Django.match_levels]
    cases django.route_match false level.route path with
    | none => rfl
    | some m =>
      simp only [ih, Option.bind_eq_bind, Option.bind_some]
      cases django.match_levels rest m.1 with
      | none => rfl
      | some outer =>
        simp only [Option.bind_some]
        cases django.route_match true route outer.2 with
        | none => rfl
        | some leaf =>
          simp only [Option.map_some]
          rw [join_match_of_no_args _ _ _ rfl]
          rfl

/-- At one leaf Django answers with its captures, overlaid level by level. -/
theorem Chain.resolve_eq_captures (django : Django View Obj Regex) (c : Chain View Obj)
    (path : String) : c.resolve django path = (c.captures django path).map c.result := by
  rw [Chain.resolve, under_leaf_eq_captures, Chain.captures]
  cases django.match_levels c.levels path with
  | none => rfl
  | some outer =>
    simp only [Option.bind_eq_bind, Option.bind_some]
    cases django.route_match true c.route outer.2 <;> rfl

/-- Under text agreement the table scan and the scan of Django's leaves stop at
the same leaf, or both without one. -/
theorem match_entries_eq_first_leaf (django : Django View Obj Regex)
    (iscoroutinefunction : View → Bool) (path : String) (cs : List (Option (Chain View Obj)))
    (hagree : ∀ c, some c ∈ cs → c.TextAgrees django path) :
    match first_leaf django (path_tail path) cs with
    | none =>
      match_entries (encode_utf8 path) (cs.map (Option.map (Chain.to_route iscoroutinefunction))) =
        none
    | some (c, caps) =>
      scan_leaves django (path_tail path) cs = .found c (c.result caps) ∧
      ∃ kw : Kwargs Obj, kw.Same (overlay_own caps.leaf caps.layers) ∧
        match_entries (encode_utf8 path)
            (cs.map (Option.map (Chain.to_route iscoroutinefunction))) =
          some ⟨c.callback, [], kw.update c.default_args, c.prefix_route ++ c.route,
            iscoroutinefunction c.callback⟩ := by
  induction cs with
  | nil => rfl
  | cons entry rest ih =>
    cases entry with
    | none => rfl
    | some c =>
      have hc := hagree c (by simp)
      have hrest := ih fun other hother => hagree other (List.mem_cons_of_mem _ hother)
      simp only [Chain.TextAgrees] at hc
      simp only [first_leaf, scan_leaves, Chain.resolve_eq_captures, List.map_cons, Option.map_some,
        match_entries, Route.try_match, Chain.to_route, make_route]
      cases hcaps : c.captures django (path_tail path) with
      | none =>
        cases hparts : (match_parts (encode_utf8 path) c.final 1 .empty : Option (Kwargs Obj)) with
        | none => simpa only [Option.map_none, Chain.to_route, make_route] using hrest
        | some kw => simp [hcaps, hparts] at hc
      | some caps =>
        cases hparts : (match_parts (encode_utf8 path) c.final 1 .empty : Option (Kwargs Obj)) with
        | none => simp [hcaps, hparts] at hc
        | some kw =>
          simp only [hcaps, hparts] at hc
          exact ⟨rfl, kw, hc, rfl⟩

/-- Defaults of the leaf itself are applied last on both sides. -/
theorem update_defaults_same_overlay_own {K V : Type} [DecidableEq K] {kw leaf : Dict K V}
    (default_args : Dict K V) (layers : List (Dict K V × Dict K V))
    (hkw : kw.Same (overlay_own leaf layers)) :
    (kw.update default_args).Same (overlay_own (leaf.update default_args) layers) := by
  intro key
  rw [Dict.get?_update, hkw key]
  clear hkw
  induction layers with
  | nil => simp [overlay_own]
  | cons layer inner ih =>
    obtain ⟨own, extra⟩ := layer
    simp only [overlay_own, Dict.get?_update] at ih ⊢
    rw [← ih, Option.or_assoc]

/-- The root resolver passes the path without its leading slash to the entries. -/
theorem Django.resolve_root_of_slash (django : Django View Obj Regex)
    (url_patterns : List (UrlEntry View Obj Regex)) {path : String}
    (hslash : path.toList.head? = some '/') :
    django.resolve_root url_patterns path =
      (django.resolve_children url_patterns (path_tail path)).map (join_match [] .empty .empty) := by
  unfold Django.resolve_root path_tail
  cases hchars : path.toList with
  | nil => simp [hchars] at hslash
  | cons c rest =>
    have hc : c = '/' := by simpa [hchars] using hslash
    subst hc
    rfl

/-- The kwargs of a hit at a leaf, against those of Django's match at that leaf. -/
theorem hit_kwargs_iff (c : Chain View Obj) (caps : Captures Obj) {kw : Kwargs Obj}
    (hkw : kw.Same (overlay_own caps.leaf caps.layers)) :
    (kw.update c.default_args).Same (c.result caps).kwargs ↔
      ExtrasShadowed (caps.leaf.update c.default_args) .empty caps.layers := by
  have hsame := update_defaults_same_overlay_own c.default_args caps.layers hkw
  rw [← same_overlay_own_iff]
  simp only [Chain.result, Dict.Same, Dict.get?_update, Dict.get?_empty, Option.or_none] at hsame ⊢
  exact forall_congr' fun key => by rw [hsame key]

theorem same_root_kwargs_iff (kw kwargs : Kwargs Obj) :
    kw.Same ((Dict.update .empty .empty).update kwargs) ↔ kw.Same kwargs := by
  simp only [Dict.Same, Dict.get?_update, Dict.get?_empty, Option.or_none]

/-- A hit at a leaf, against Django's match at that leaf. -/
theorem hit_agrees_iff (c : Chain View Obj) (caps : Captures Obj) {kw : Kwargs Obj}
    (hkw : kw.Same (overlay_own caps.leaf caps.layers)) (route_str : String) (is_async : Bool) :
    (⟨c.callback, [], kw.update c.default_args, route_str, is_async⟩ : Match View Obj).AgreesWith
        (some (join_match [] .empty .empty (c.result caps))) ↔
      ExtrasShadowed (caps.leaf.update c.default_args) .empty caps.layers := by
  rw [← hit_kwargs_iff c caps hkw, join_match_of_no_args _ _ _ rfl]
  simp only [Match.AgreesWith, Option.some.injEq, exists_eq_left', same_root_kwargs_iff]
  simp only [Chain.result, true_and]

/-- A hit of the flattened router equals Django's resolution exactly when the
default kwargs of every include around the hit are shadowed: `_walk` drops
them. -/
theorem router_match_agrees_iff (django : Django View Obj Regex)
    (iscoroutinefunction : View → Bool) (url_patterns : List (UrlEntry View Obj Regex))
    (path : String)
    (hagree : ∀ c, some c ∈ leaves django.finditer [] [] "" url_patterns →
      c.TextAgrees django path) :
    (∀ m, (build_router django.finditer iscoroutinefunction url_patterns).match
        (encode_utf8 path) = some m →
      m.AgreesWith (django.resolve_root url_patterns path)) ↔
      IncludeDefaultsShadowed django url_patterns path := by
  have hhead : (encode_utf8 path).head? = some 47 ↔ path.toList.head? = some '/' :=
    head?_encode_utf8_iff path (c := '/') (by decide)
  simp only [Router.match, build_router, IncludeDefaultsShadowed, hhead]
  by_cases hslash : path.toList.head? = some '/'
  · have hscan := scan_leaves_agrees django [] [] "" (path_tail path) url_patterns
    have htable := match_entries_eq_first_leaf django iscoroutinefunction path _ hagree
    rw [walk_eq_leaves django.finditer iscoroutinefunction [],
      django.resolve_root_of_slash url_patterns hslash]
    simp only [hslash, if_true, true_imp_iff]
    cases hfirst : first_leaf django (path_tail path)
      (leaves django.finditer [] [] "" url_patterns) with
    | none =>
      simp only [hfirst] at htable
      simp [htable]
    | some found =>
      obtain ⟨c, caps⟩ := found
      simp only [hfirst] at htable
      obtain ⟨hfound, kw, hkw, hmatch⟩ := htable
      rw [hfound] at hscan
      have hanswer : django.resolve_children url_patterns (path_tail path) =
          some (c.result caps) := hscan
      have hhit := hit_agrees_iff c caps hkw (c.prefix_route ++ c.route)
        (iscoroutinefunction c.callback)
      rw [hmatch, hanswer, Option.map_some]
      constructor
      · rintro hall other othercaps heq
        cases heq
        exact hhit.mp (hall _ rfl)
      · rintro hshadow m heq
        cases heq
        exact hhit.mpr (hshadow c caps rfl)
  · simp [hslash]

/-- Django on routes without parameters: a leaf compares the whole text, an
include strips its route from the front. -/
def literal_django : Django String Unit Unit where
  finditer _ := []
  route_match is_endpoint route path :=
    if is_endpoint then if path = route then some (path, .empty) else none
    else if route.toList.isPrefixOf path.toList then
      some (String.ofList (path.toList.drop route.toList.length), .empty)
    else none
  regex_match _ _ := none
  resolve_other _ _ := none

/-- `path("x/", include([path("", view)]), {"lang": "en"})` -/
def localized_urlpatterns : List (UrlEntry String Unit Unit) :=
  [.url_resolver (.route "x/") [.url_pattern (.route "") "view" .empty none]
    (Dict.empty.set "lang" (.str "en"))]

theorem router_match_agrees_iff_localized :
    (∀ m, (build_router literal_django.finditer (fun _ => false) localized_urlpatterns).match
        (encode_utf8 "/x/") = some m →
      m.AgreesWith (literal_django.resolve_root localized_urlpatterns "/x/")) ↔
      IncludeDefaultsShadowed literal_django localized_urlpatterns "/x/" := by
  apply router_match_agrees_iff
  intro c hc
  have hleaves : leaves literal_django.finditer [] [] "" localized_urlpatterns =
      [some ⟨[⟨"x/", Dict.empty.set "lang" (.str "en")⟩], [.lit (encode_utf8 "x/")], "x/", "",
        "view", .empty, none⟩] := rfl
  rw [hleaves, List.mem_singleton, Option.some_inj] at hc
  subst hc
  exact fun _ => rfl

/-- On `/x/` Django calls the view with `lang="en"`, the router without it. -/
theorem include_default_kwarg_dropped :
    ¬ ∀ m, (build_router literal_django.finditer (fun _ => false) localized_urlpatterns).match
        (encode_utf8 "/x/") = some m →
      m.AgreesWith (literal_django.resolve_root localized_urlpatterns "/x/") := by
  intro hagrees
  obtain ⟨r, hr, _, _, hkwargs⟩ := hagrees _ rfl
  have hlang := hkwargs "lang"
  cases hr
  revert hlang
  decide

end massless.router
