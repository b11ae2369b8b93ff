import Massless.Router.Answers

open python
open search

namespace massless.router

variable {Text View Obj Regex : Type}

@[simp] theorem truthy_none (names : List (Option String)) :
    truthy (none :: names) = truthy names := rfl

theorem truthy_some (text : String) (names : List (Option String)) :
    truthy (some text :: names) = if text = "" then truthy names else text :: truthy names := by
  by_cases htext : text = "" <;> simp [truthy, Option.filter, htext]

/-- What a first filtering has left, a second one keeps. -/
theorem truthy_truthy (names : List (Option String)) :
    truthy ((truthy names).map some) = truthy names := by
  induction names with
  | nil => rfl
  | cons name rest ih =>
    cases name with
    | none => exact ih
    | some text =>
      rw [truthy_some]
      split
      · exact ih
      · rename_i htext
        rw [List.map_cons, truthy_some, if_neg htext, ih]

theorem truthy_cons_truthy (name : Option String) (names : List (Option String)) :
    truthy (name :: (truthy names).map some) = truthy (name :: names) := by
  cases name with
  | none => exact truthy_truthy names
  | some text => rw [truthy_some, truthy_some, truthy_truthy]

theorem truthy_eq_nil_iff (names : List (Option String)) :
    truthy names = [] ↔ ∀ name ∈ names, name = none ∨ name = some "" := by
  induction names with
  | nil => simp [truthy]
  | cons name rest ih =>
    cases name with
    | none => simp [ih]
    | some text => by_cases htext : text = "" <;> simp [truthy_some, htext, ih]

/-- The routes of a way as Django joins them, from the leaf outwards. -/
def joined_route : List String → String → String
  | [], leaf => leaf
  | route :: rest, leaf => join_route route (joined_route rest leaf)

/-- No route that is not empty is followed by a `^`, which joining would drop. -/
def CaretFree : List String → String → Prop
  | [], _ => True
  | route :: rest, leaf =>
    (route = "" ∨ (concat_routes rest leaf).toList.head? ≠ some '^') ∧ CaretFree rest leaf

theorem join_route_eq (route1 route2 : String) :
    join_route route1 route2 =
      if route1 = "" ∨ route2.toList.head? ≠ some '^' then route1 ++ route2
      else route1 ++ String.ofList route2.toList.tail := by
  unfold join_route
  by_cases hempty : route1 = ""
  · simp [hempty]
  · rw [if_neg hempty]
    cases hchars : route2.toList with
    | nil => simp
    | cons c rest => by_cases hcaret : c = '^' <;> simp [hempty, hcaret]

theorem length_joined_route_le (routes : List String) (leaf : String) :
    (joined_route routes leaf).length ≤ (concat_routes routes leaf).length := by
  induction routes with
  | nil => exact Nat.le_refl _
  | cons route rest ih =>
    rw [joined_route, concat_routes, join_route_eq]
    split
    · simpa using ih
    · simp only [String.length_append, String.length_ofList, List.length_tail,
        String.length_toList]
      omega

/-- Django's route of a match is the routes behind one another exactly where no `^` is dropped. -/
theorem joined_route_eq_iff (routes : List String) (leaf : String) :
    joined_route routes leaf = concat_routes routes leaf ↔ CaretFree routes leaf := by
  induction routes with
  | nil => simp [joined_route, concat_routes, CaretFree]
  | cons route rest ih =>
    rw [joined_route, concat_routes, CaretFree, ← ih, join_route_eq]
    have hshorter := length_joined_route_le rest leaf
    split
    · rename_i hkept
      rw [String.append_right_inj]
      refine ⟨fun hrest => ⟨?_, hrest⟩, And.right⟩
      rwa [← hrest]
    · rename_i hdropped
      rw [not_or, not_not] at hdropped
      constructor
      · intro hjoined
        have hlength := congrArg String.length ((String.append_right_inj _).mp hjoined)
        have hcaret : 0 < (joined_route rest leaf).toList.length := by
          rw [List.length_pos_iff]
          intro hnil
          simp [hnil] at hdropped
        simp only [String.length_ofList, List.length_tail, String.length_toList] at hlength hcaret
        omega
      · rintro ⟨hkept, hrest⟩
        rw [← hrest] at hkept
        exact absurd hkept (by simp [hdropped.1, hdropped.2])

/-- The names in Django's match along a way, and its route. -/
theorem along_names (django : Resolvers View Obj Regex) (text : Text → String)
    {pattern : TextPattern Text Regex} {callback : View} {default_args : Kwargs Obj}
    {name : Option String} {includes : List (Include Text Obj Regex)} {path : String}
    {sub : String × NamedMatch View Obj}
    (hsub : (django.rules text).along includes (.url_pattern pattern callback default_args name)
      path = some sub) :
    sub.2.url_name = name ∧ sub.2.app_names = truthy (includes.map Include.app_name) ∧
      sub.2.namespaces = truthy (includes.map Include.namespace_) ∧
      join_route sub.1 sub.2.route =
        joined_route (includes.map fun inc => django.pattern_str (inc.pattern.reading text))
          (django.pattern_str (pattern.reading text)) := by
  induction includes generalizing path sub with
  | nil =>
    obtain ⟨found, -, rfl⟩ := Option.map_eq_some_iff.mp hsub
    exact ⟨rfl, rfl, rfl, rfl⟩
  | cons inc rest ih =>
    obtain ⟨found, inner, -, hinner, rfl⟩ := Resolvers.along_cons_eq_some hsub
    obtain ⟨hurl, happs, hspaces, hroute⟩ := ih hinner
    refine ⟨hurl, ?_, ?_, ?_⟩
    · rw [List.map_cons, ← truthy_cons_truthy, ← happs]
      rfl
    · rw [List.map_cons, ← truthy_cons_truthy, ← hspaces]
      rfl
    · rw [List.map_cons, joined_route, ← hroute]
      rfl

/-- A match without names and a match with names read alike exactly where the names are empty
and all else is the same. -/
theorem NamedMatch.init_agrees_iff (func_path : View → String) (func func' : View)
    (args args' : List (Value Obj)) (kwargs kwargs' : Kwargs Obj) (url_name : Option String)
    (app_names namespaces : List (Option String)) (route route' : String) :
    (NamedMatch.init func_path func args kwargs none [] [] route).Agrees
        (NamedMatch.init func_path func' args' kwargs' url_name app_names namespaces route') ↔
      (func = func' ∧ args = args' ∧ kwargs.Same kwargs') ∧ url_name = none ∧
        truthy app_names = [] ∧ truthy namespaces = [] ∧ route' = route := by
  rw [NamedMatch.agrees_iff]
  simp only [NamedMatch.init]
  constructor
  · rintro ⟨hfunc, hargs, hkwargs, hurl, hroute, happs, -, hspaces, -, -⟩
    exact ⟨⟨hfunc, hargs, hkwargs⟩, hurl.symm, happs.symm, hspaces.symm, hroute.symm⟩
  · rintro ⟨⟨rfl, rfl, hkwargs⟩, rfl, happs, hspaces, rfl⟩
    rw [happs, hspaces]
    exact ⟨rfl, rfl, hkwargs, rfl, rfl, rfl, rfl, rfl, rfl, rfl⟩

/-- A match with no name in it, which Django joins to a given route. -/
structure Nameless (route : String) (sub : String × NamedMatch View Obj) : Prop where
  url_name : sub.2.url_name = none
  app_names : ∀ name ∈ sub.2.app_names, name = ""
  namespaces : ∀ name ∈ sub.2.namespaces, name = ""
  joined : join_route sub.1 sub.2.route = route

theorem truthy_names_eq_nil_iff (names : List String) :
    truthy (names.map some) = [] ↔ ∀ name ∈ names, name = "" := by
  simp [truthy_eq_nil_iff]

theorem map_pattern_str (django : Resolvers View Obj Regex) {text : Text → String}
    {includes : List (Include Text Obj Regex)} {levels : List (Level Obj)}
    (hgives : List.Forall₂ (Include.Gives text) includes levels) :
    includes.map (fun inc => django.pattern_str (inc.pattern.reading text)) =
      levels.map Level.route := by
  induction hgives with
  | nil => rfl
  | cons hinc _ ih => rw [List.map_cons, List.map_cons, hinc.1, ih, Resolvers.pattern_str]

namespace Hit

variable {django : Resolvers View Obj Regex} {text : Text → String}
  {site : List (Declared Text View Obj Regex)} {path : String}

/-- A hit places what Django would where Django finds the same call, without a name and along
the same route. -/
theorem placed_iff (iscoroutinefunction : View → Bool)
    (hit : Hit django.finditer text site path) :
    (hit.chain.answer iscoroutinefunction hit.kw).PlacedLike django.func_path
        (django.resolve_root text site path) ↔
      ∃ sub, (django.rules text).first_all site (path_tail path) = some sub ∧
        hit.SameCall sub ∧ Nameless (hit.chain.prefix_route ++ hit.chain.route) sub := by
  rw [Match.placedLike_iff, django.resolve_root_of_slash text site hit.slash]
  simp only [Option.map_eq_some_iff, exists_exists_and_eq_and]
  refine exists_congr fun sub => and_congr_right fun _ => ?_
  rw [Match.resolver_match, Resolvers.join, NamedMatch.init_agrees_iff, hit.sameCall_iff,
    truthy_none, truthy_none, truthy_names_eq_nil_iff, truthy_names_eq_nil_iff]
  refine and_congr_right fun _ => ⟨?_, ?_⟩
  · rintro ⟨hurl, happs, hspaces, hroute⟩
    exact ⟨hurl, happs, hspaces, hroute⟩
  · rintro ⟨hurl, happs, hspaces, hroute⟩
    exact ⟨hurl, happs, hspaces, hroute⟩

/-- What the table keeps of the way of a hit is all that Django says of it: no names, no
namespaces, no `^` that joining drops, default kwargs of includes only where something further
in overrides them, and no newline in a path parameter. -/
structure Bare (hit : Hit django.finditer text site path) : Prop where
  unbroken : hit.chain.PathUnbroken django.finditer (path_tail path)
  shadowed : ∀ caps, hit.chain.captures django.matching (path_tail path) = some caps →
    ExtrasShadowed (caps.leaf.update hit.chain.default_args) .empty caps.layers
  unnamed : hit.chain.name = none
  no_app_name : ∀ inc ∈ hit.way.1, inc.app_name = none ∨ inc.app_name = some ""
  no_namespace : ∀ inc ∈ hit.way.1, inc.namespace_ = none ∨ inc.namespace_ = some ""
  caret_free : CaretFree (hit.chain.levels.map Level.route) hit.chain.route

/-- Along the way of a hit Django finds a match without a name where the way has none. -/
theorem nameless_iff (hit : Hit django.finditer text site path)
    {sub : String × NamedMatch View Obj}
    (hsub : (django.rules text).along hit.way.1 hit.way.2 (path_tail path) = some sub) :
    Nameless (hit.chain.prefix_route ++ hit.chain.route) sub ↔ hit.chain.name = none ∧
      (∀ inc ∈ hit.way.1, inc.app_name = none ∨ inc.app_name = some "") ∧
      (∀ inc ∈ hit.way.1, inc.namespace_ = none ∨ inc.namespace_ = some "") ∧
      CaretFree (hit.chain.levels.map Level.route) hit.chain.route := by
  obtain ⟨hleaf, own, hlevels, hown, hroutes⟩ := way_chain_eq_some hit.chain_of_way
  rw [List.nil_append] at hlevels
  rw [← hlevels, String.empty_append] at hroutes
  obtain ⟨written, hway, hwritten⟩ := Leaf.eq_url_pattern hleaf
  rw [hway] at hsub
  obtain ⟨hurl, happs, hspaces, hroute⟩ := along_names django text hsub
  rw [hwritten, map_pattern_str django hown, ← hlevels, Resolvers.pattern_str] at hroute
  have hnames : ∀ names : List (Option String),
      (∀ name ∈ truthy names, name = "") ↔ ∀ name ∈ names, name = none ∨ name = some "" := by
    intro names
    rw [← truthy_names_eq_nil_iff, truthy_truthy, truthy_eq_nil_iff]
  rw [← joined_route_eq_iff, ← hroute, ← hroutes]
  constructor
  · rintro ⟨hname, happ, hspace, hjoined⟩
    rw [happs, hnames, List.forall_mem_map] at happ
    rw [hspaces, hnames, List.forall_mem_map] at hspace
    exact ⟨hurl.symm.trans hname, happ, hspace, hjoined⟩
  · rintro ⟨hname, happ, hspace, hjoined⟩
    refine ⟨hurl.trans hname, ?_, ?_, hjoined⟩
    · rwa [happs, hnames, List.forall_mem_map]
    · rwa [hspaces, hnames, List.forall_mem_map]

/-- A hit is bare where Django's search ends at its way, with the same call and no name. -/
theorem bare_iff (hreads : django.ReadsRoutes) (hit : Hit django.finditer text site path) :
    hit.Bare ↔ ∃ sub,
      ((∀ other ∈ hit.before,
          (django.rules text).along other.1 other.2 (path_tail path) = none) ∧
        (django.rules text).along hit.way.1 hit.way.2 (path_tail path) = some sub) ∧
      hit.SameCall sub ∧ Nameless (hit.chain.prefix_route ++ hit.chain.route) sub := by
  have halong := along_eq_captures django hit.chain_of_way (path_tail path)
  have hpassed := hit.passed_iff.mpr (hit.captures_before hreads)
  have hcall : ∀ caps sub, hit.kw.Same (overlay_own caps.leaf caps.layers) →
      hit.chain.result caps = sub.2.toResolverMatch → (hit.SameCall sub ↔
        ExtrasShadowed (caps.leaf.update hit.chain.default_args) .empty caps.layers) := by
    intro caps sub hsame hresult
    rw [hit.sameCall_iff, ← hit_kwargs_iff hit.chain caps hsame, ← hresult,
      join_match_of_no_args _ _ _ rfl, same_root_kwargs_iff]
    exact ⟨fun hboth => hboth.2.2, fun hkwargs => ⟨rfl, rfl, hkwargs⟩⟩
  constructor
  · intro hbare
    obtain ⟨caps, hcaps, hsame⟩ := hit.captures_taken hreads hbare.unbroken
    rw [hcaps, Option.map_some, Option.map_eq_some_iff] at halong
    obtain ⟨sub, hsub, hresult⟩ := halong
    refine ⟨sub, ⟨hpassed, hsub⟩, (hcall caps sub hsame hresult.symm).mpr ?_, ?_⟩
    · exact hbare.shadowed caps hcaps
    · exact (hit.nameless_iff hsub).mpr
        ⟨hbare.unnamed, hbare.no_app_name, hbare.no_namespace, hbare.caret_free⟩
  · rintro ⟨sub, ⟨-, hsub⟩, hsamecall, hnameless⟩
    rw [hsub, Option.map_some, eq_comm, Option.map_eq_some_iff] at halong
    obtain ⟨caps, hcaps, hresult⟩ := halong
    have hunbroken : hit.chain.PathUnbroken django.finditer (path_tail path) := by
      by_contra hbroken
      rw [hit.captures_broken hreads hbroken] at hcaps
      cases hcaps
    obtain ⟨others, hothers, hsame⟩ := hit.captures_taken hreads hunbroken
    cases hothers.symm.trans hcaps
    obtain ⟨hname, happs, hspaces, hcaret⟩ := (hit.nameless_iff hsub).mp hnameless
    refine ⟨hunbroken, fun other hother => ?_, hname, happs, hspaces, hcaret⟩
    cases hcaps.symm.trans hother
    exact (hcall caps sub hsame hresult).mp hsamecall

end Hit

/-- Whatever the router answers on a path, the view reads Django's `resolver_match`. -/
def PlacesMatch (django : Resolvers View Obj Regex) (iscoroutinefunction : View → Bool)
    (text : Text → String) (site : List (Declared Text View Obj Regex)) (path : String) : Prop :=
  ∀ m, (build_router django.finditer iscoroutinefunction (reading_all text site)).match
      (encode_utf8 path) = some m →
    m.PlacedLike django.func_path (django.resolve_root text site path)

/-- A hit of the router gives the view the `resolver_match` that Django would exactly where the
hit is bare, since the table keeps no names, or where Django refuses its way and a leaf behind
it makes up for that: the same call, without a name, along the same route. -/
theorem resolver_match_agrees_iff_bare (django : Resolvers View Obj Regex)
    (hreads : django.ReadsRoutes) (iscoroutinefunction : View → Bool) (text : Text → String)
    (site : List (Declared Text View Obj Regex)) (path : String) :
    PlacesMatch django iscoroutinefunction text site path ↔
      ∀ hit : Hit django.finditer text site path, hit.Bare ∨
        ∃ sub, hit.MadeUpBy text sub ∧
          Nameless (hit.chain.prefix_route ++ hit.chain.route) sub := by
  have hexact : ∀ hit : Hit django.finditer text site path,
      (hit.chain.answer iscoroutinefunction hit.kw).PlacedLike django.func_path
          (django.resolve_root text site path) ↔ hit.Bare ∨
        ∃ sub, hit.MadeUpBy text sub ∧
          Nameless (hit.chain.prefix_route ++ hit.chain.route) sub := by
    intro hit
    simp only [hit.placed_iff, hit.first_all_iff, or_and_right, exists_or, hit.bare_iff hreads,
      Hit.MadeUpBy, and_assoc]
  simp only [PlacesMatch, match_eq_some_iff]
  constructor
  · exact fun hplaced hit => (hexact hit).mp (hplaced _ ⟨hit, rfl⟩)
  · rintro hall m ⟨hit, rfl⟩
    exact (hexact hit).mpr (hall hit)

/-- `path("blog/", include(([path("", index, name="index")], "blog")))` -/
def blog_urlpatterns : List (Declared String String Unit Unit) :=
  [.node ⟨.route "blog/", .empty, some "blog", some "blog"⟩
    [.leaf (.url_pattern (.route "") "index" .empty (some "index"))]]

theorem resolver_match_agrees_iff_bare_blog :
    PlacesMatch plain_resolvers (fun _ => false) id blog_urlpatterns "/blog/" ↔
      ∀ hit : Hit plain_resolvers.finditer id blog_urlpatterns "/blog/", hit.Bare ∨
        ∃ sub, hit.MadeUpBy id sub ∧
          Nameless (hit.chain.prefix_route ++ hit.chain.route) sub :=
  resolver_match_agrees_iff_bare plain_resolvers plain_resolvers_reads (fun _ => false)
    id blog_urlpatterns "/blog/"

/-- On `/blog/` the view of `blog:index` reads a match without a name. -/
theorem url_name_dropped :
    ¬PlacesMatch plain_resolvers (fun _ => false) id blog_urlpatterns "/blog/" := by
  intro hplaced
  have hhit : ((build_router plain_resolvers.finditer (fun _ => false)
      (reading_all id blog_urlpatterns)).match (encode_utf8 "/blog/")).isSome = true := by
    decide +kernel
  obtain ⟨m, hm⟩ := Option.isSome_iff_exists.mp hhit
  obtain ⟨r, hr, hagrees, -⟩ := hplaced m hm
  have hdjango : (plain_resolvers.resolve_root id blog_urlpatterns "/blog/").map
      NamedMatch.url_name = some (some "index") := by decide +kernel
  have hname : none = r.url_name := ((NamedMatch.agrees_iff _ _).mp hagrees).2.2.2.1
  rw [hr, Option.map_some, ← hname] at hdjango
  cases hdjango

end massless.router
