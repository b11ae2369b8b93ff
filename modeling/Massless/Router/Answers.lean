import Massless.Router.Hits
import Massless.Router.Patterns

open python
open search

namespace massless.router

variable {Text View Obj Regex : Type}

theorem get?_assign (captures : List (Capture String Obj)) (kwargs : Kwargs Obj) (key : String) :
    (assign captures kwargs).get? key =
      ((assign captures .empty).get? key).or (kwargs.get? key) := by
  induction captures generalizing kwargs with
  | nil => simp [assign]
  | cons capture rest ih =>
    have hstep : ∀ start : Kwargs Obj, assign (capture :: rest) start =
      assign rest (start.set capture.name capture.value) := fun _ => rfl
    rw [hstep, hstep, ih, ih (Dict.empty.set _ _)]
    simp only [Dict.get?_set, Dict.get?_empty, Option.or_assoc, ite_some_or, Option.none_or]

/-- `RoutePattern.match` on the built-in converters: the regex of the route is searched in the
path, and what its groups take is converted. -/
def Resolvers.ReadsRoutes (django : Resolvers View Obj Regex) : Prop :=
  ∀ is_endpoint route path, text_parts django.finditer route ≠ none →
    django.route_match is_endpoint route path =
      (router.route_match django.finditer is_endpoint route path.toList).map fun found =>
        (String.ofList found.1, assign found.2 .empty)

/-- Django with its converters, for sites of routes without parameters. -/
def plain_resolvers : Resolvers String Unit Unit where
  finditer _ := []
  route_match is_endpoint route path :=
    (route_match (fun _ => []) is_endpoint route path.toList).map fun found =>
      (String.ofList found.1, assign found.2 .empty)
  regex_match _ _ := none
  regex_str _ := ""
  other_resolve _ _ := none
  other_str _ := ""
  func_path view := "views." ++ view

theorem plain_resolvers_reads : plain_resolvers.ReadsRoutes := by
  intro is_endpoint route path _
  simp only [plain_resolvers]

/-- Captures level by level and captures one after another: both or neither, with the same
values under the same names. -/
def CapturesAlike : Option (Captures Obj) → Option (List (Capture String Obj)) → Prop
  | some caps, some captures => (assign captures .empty).Same (overlay_own caps.leaf caps.layers)
  | none, none => True
  | _, _ => False

theorem capturesAlike_none_iff (caps : Option (Captures Obj)) :
    CapturesAlike caps none ↔ caps = none := by
  cases caps <;> simp [CapturesAlike]

theorem capturesAlike_some_iff (caps : Option (Captures Obj))
    (captures : List (Capture String Obj)) :
    CapturesAlike caps (some captures) ↔ ∃ found, caps = some found ∧
      (assign captures .empty).Same (overlay_own found.leaf found.layers) := by
  cases caps <;> simp [CapturesAlike]

theorem Chain.captures_cons (django : Django View Obj Regex) (c : Chain View Obj)
    (level : Level Obj) (rest : List (Level Obj)) (path : String) :
    ({ c with levels := level :: rest } : Chain View Obj).captures django path =
      (django.route_match false level.route path).bind fun m =>
        (({ c with levels := rest } : Chain View Obj).captures django m.1).map fun caps =>
          ⟨(m.2, level.default_kwargs) :: caps.layers, caps.leaf⟩ := by
  simp only [Chain.captures, Django.match_levels, Option.bind_eq_bind, Option.bind_assoc]
  apply Option.bind_congr
  intro m _
  cases django.match_levels rest m.1 with
  | none => rfl
  | some outer =>
    simp only [Option.bind_some]
    cases django.route_match true c.route outer.2 <;> rfl

theorem Resolvers.ReadsRoutes.captures_alike {django : Resolvers View Obj Regex}
    (hreads : django.ReadsRoutes) (c : Chain View Obj)
    (hleaf : text_parts django.finditer c.route ≠ none) (levels : List (Level Obj))
    (hlevels : ∀ level ∈ levels, text_parts django.finditer level.route ≠ none) (path : String) :
    CapturesAlike (({ c with levels } : Chain View Obj).captures django.matching path)
      (level_captures django.finditer (levels.map Level.route) c.route path.toList) := by
  induction levels generalizing path with
  | nil =>
    have hmatch := hreads true c.route path hleaf
    simp only [Chain.captures, Django.match_levels, Resolvers.matching, List.map_nil,
      level_captures, Option.bind_eq_bind, Option.bind_some, hmatch]
    cases (router.route_match django.finditer true c.route path.toList :
      Option (List Char × List (Capture String Obj))) with
    | none => trivial
    | some found => exact fun _ => rfl
  | cons level rest ih =>
    have hmatch : django.matching.route_match false level.route path = _ :=
      hreads false level.route path (hlevels level List.mem_cons_self)
    rw [Chain.captures_cons, hmatch, List.map_cons, level_captures]
    cases (router.route_match django.finditer false level.route path.toList :
      Option (List Char × List (Capture String Obj))) with
    | none => trivial
    | some found =>
      obtain ⟨left, own⟩ := found
      have hrest := ih (fun other hother => hlevels other (List.mem_cons_of_mem _ hother))
        (String.ofList left)
      rw [String.toList_ofList] at hrest
      simp only [Option.map_some, Option.bind_eq_bind, Option.bind_some]
      cases hlater : (level_captures django.finditer (rest.map Level.route) c.route left :
          Option (List (Capture String Obj))) with
      | none =>
        rw [hlater, capturesAlike_none_iff] at hrest
        rw [hrest]
        trivial
      | some later =>
        rw [hlater, capturesAlike_some_iff] at hrest
        obtain ⟨caps, hcaps, hsame⟩ := hrest
        rw [hcaps]
        intro key
        have hsplit : assign (own ++ later) (.empty : Kwargs Obj) =
            assign later (assign own .empty) := List.foldl_append
        change (assign (own ++ later) .empty).get? key =
          ((assign own .empty).update (overlay_own caps.leaf caps.layers)).get? key
        rw [hsplit, get?_assign later, hsame key, Dict.get?_update]

theorem text_parts_of_mapM {finditer : String → List Component} {routes : List String}
    {raws : List (List TextPart)} (hraws : routes.mapM (text_parts finditer) = some raws) :
    ∀ route ∈ routes, text_parts finditer route ≠ none := by
  induction routes generalizing raws with
  | nil => exact fun _ hmem => by cases hmem
  | cons route rest ih =>
    simp only [List.mapM_cons, Option.bind_eq_bind, Option.bind_eq_some_iff] at hraws
    obtain ⟨parts, hparts, later, hlater, -⟩ := hraws
    refine List.forall_mem_cons.mpr ⟨?_, ih hlater⟩
    rw [hparts]
    exact Option.some_ne_none parts

theorem slash_path_tail {path : String} (hslash : path.toList.head? = some '/') :
    "/" ++ path_tail path = path := by
  rw [← String.toList_inj, String.toList_append]
  cases hchars : path.toList with
  | nil => simp [hchars] at hslash
  | cons c rest =>
    have hc : c = '/' := by simpa [hchars] using hslash
    simp [path_tail, hchars, hc]

/-- Django at a leaf of the table. It refuses what the row refuses, and it takes what the row
takes, with the same captures, unless a path parameter meets a newline. -/
theorem Chain.Built.django_at {django : Resolvers View Obj Regex} (hreads : django.ReadsRoutes)
    {c : Chain View Obj} (hbuilt : c.Built django.finditer) {path : String}
    (hslash : path.toList.head? = some '/') :
    match (match_parts (encode_utf8 path) c.final 1 .empty : Option (Kwargs Obj)) with
    | none => c.captures django.matching (path_tail path) = none
    | some kw =>
      (c.PathUnbroken django.finditer (path_tail path) →
        ∃ caps, c.captures django.matching (path_tail path) = some caps ∧
          kw.Same (overlay_own caps.leaf caps.layers)) ∧
      (¬c.PathUnbroken django.finditer (path_tail path) →
        c.captures django.matching (path_tail path) = none) := by
  obtain ⟨raws, raw, hraws, hraw, hparts, hcapture⟩ := hbuilt.text
  have htable : (capture_parts c.final (encode_utf8 (path_tail path)) :
      Option (List (Capture Bytes Obj))) = _ := hcapture (path_tail path).toList
  have hdjango : (level_captures django.finditer (c.levels.map Level.route) c.route
      (path_tail path).toList : Option (List (Capture String Obj))) = _ :=
    level_captures_eq django.finditer _ _ hraws hraw hparts (path_tail path).toList
  have halike := hreads.captures_alike c (by rw [hraw]; exact Option.some_ne_none raw) c.levels
    (fun level hlevel => text_parts_of_mapM hraws _ (List.mem_map_of_mem hlevel)) (path_tail path)
  have hparts_eq := match_parts_slash c.final (path_tail path) (.empty : Kwargs Obj)
  rw [slash_path_tail hslash, htable, Option.map_map] at hparts_eq
  rw [c.pathUnbroken_iff hraws hraw, hparts_eq]
  rw [hdjango, ← captured] at halike
  by_cases hpath : router.PathUnbroken Obj (raws.flatten ++ raw) (path_tail path).toList
  · rw [captured_of_unbroken hparts hpath]
    cases hcaptured : captured Obj no_newline (raws.flatten ++ raw) (path_tail path).toList with
    | none =>
      rw [hcaptured, capturesAlike_none_iff] at halike
      exact halike
    | some captures =>
      rw [hcaptured, capturesAlike_some_iff] at halike
      obtain ⟨caps, hcaps, hsame⟩ := halike
      refine ⟨fun _ => ⟨caps, hcaps, ?_⟩, fun hbroken => absurd hpath hbroken⟩
      rw [Function.comp_apply, assign_encode]
      exact hsame
  · obtain ⟨hsome, hnone⟩ := captured_of_broken hparts hpath
    rw [hnone, capturesAlike_none_iff] at halike
    obtain ⟨captures, hcaptured⟩ := Option.isSome_iff_exists.mp hsome
    rw [hcaptured]
    exact ⟨fun hunbroken => absurd hunbroken hpath, fun _ => halike⟩

/-- An include of a way and the level of the leaf that it becomes. -/
def Include.Gives (text : Text → String) (inc : Include Text Obj Regex) (level : Level Obj) :
    Prop :=
  inc.pattern.reading text = .route level.route ∧ inc.default_kwargs = level.default_kwargs

/-- The routes of includes and a leaf behind one another. -/
def concat_routes : List String → String → String
  | [], leaf => leaf
  | route :: rest, leaf => route ++ concat_routes rest leaf

/-- A way that becomes a leaf of the table consists of routes, and the leaf keeps them. -/
theorem way_chain_eq_some {finditer : String → List Component} {text : Text → String}
    {levels : List (Level Obj)} {prefix_parts : List Part} {prefix_route : String}
    {includes : List (Include Text Obj Regex)} {leaf : Leaf Text View Obj Regex}
    {c : Chain View Obj}
    (hchain : way_chain finditer text levels prefix_parts prefix_route includes leaf = some c) :
    leaf.reading text = .url_pattern (.route c.route) c.callback c.default_args c.name ∧
      ∃ own, c.levels = levels ++ own ∧ List.Forall₂ (Include.Gives text) includes own ∧
        c.prefix_route ++ c.route = prefix_route ++ concat_routes (own.map Level.route) c.route := by
  induction includes generalizing levels prefix_parts prefix_route with
  | nil =>
    cases leaf with
    | other object => cases hchain
    | url_pattern pattern callback default_args name =>
      cases pattern with
      | regex regex => cases hchain
      | route route =>
        obtain ⟨raw, -, hfinal⟩ := Option.bind_eq_some_iff.mp hchain
        obtain ⟨final, -, rfl⟩ := Option.map_eq_some_iff.mp hfinal
        exact ⟨rfl, [], by simp, List.Forall₂.nil, rfl⟩
  | cons inc rest ih =>
    obtain ⟨pattern, default_kwargs, app_name, namespace_⟩ := inc
    cases pattern with
    | regex regex => cases hchain
    | route route =>
      obtain ⟨raw, -, hrest⟩ := Option.bind_eq_some_iff.mp hchain
      obtain ⟨hleaf, own, hlevels, hown, hroutes⟩ := ih hrest
      refine ⟨hleaf, ⟨text route, default_kwargs⟩ :: own, ?_, ?_, ?_⟩
      · rw [hlevels, List.append_assoc]
        rfl
      · exact List.Forall₂.cons ⟨rfl, rfl⟩ hown
      · rw [hroutes, List.map_cons, concat_routes, String.append_assoc]

theorem Leaf.eq_url_pattern {text : Text → String} {leaf : Leaf Text View Obj Regex}
    {pattern : Pattern Regex} {callback : View} {default_args : Kwargs Obj} {name : Option String}
    (hleaf : leaf.reading text = .url_pattern pattern callback default_args name) :
    ∃ written, leaf = .url_pattern written callback default_args name ∧
      written.reading text = pattern := by
  cases leaf with
  | other object => cases hleaf
  | url_pattern written _ _ _ =>
    cases hleaf
    exact ⟨written, rfl, rfl⟩

/-- A way of routes only, to a view. -/
structure OfRoutes (includes : List (Include Text Obj Regex)) (leaf : Leaf Text View Obj Regex)
    (callback : View) (default_args : Kwargs Obj) : Prop where
  includes : ∀ inc ∈ includes, ∃ route, inc.pattern = .route route
  leaf : ∃ route name, leaf = .url_pattern (.route route) callback default_args name

theorem TextPattern.eq_route {text : Text → String} {pattern : TextPattern Text Regex}
    {route : String} (hpattern : pattern.reading text = .route route) :
    ∃ written, pattern = .route written ∧ text written = route := by
  cases pattern with
  | route written => exact ⟨written, rfl, by cases hpattern; rfl⟩
  | regex regex => cases hpattern

/-- What the routes of a way capture from a path, each include on what the one before it left. -/
def route_captures (django : Resolvers View Obj Regex) (text : Text → String) :
    List (Include Text Obj Regex) → Leaf Text View Obj Regex → String → Option (Captures Obj)
  | [], .url_pattern (.route route) _ _ _, path =>
    (django.route_match true (text route) path).map fun m => ⟨[], m.2⟩
  | [], _, _ => none
  | ⟨.route route, default_kwargs, _, _⟩ :: rest, leaf, path =>
    match django.route_match false (text route) path with
    | none => none
    | some m => (route_captures django text rest leaf m.1).map fun caps =>
      ⟨(m.2, default_kwargs) :: caps.layers, caps.leaf⟩
  | ⟨.regex _, _, _, _⟩ :: _, _, _ => none

/-- Along a way of routes Django finds its view, with the captures overlaid level by level. -/
theorem OfRoutes.along_eq {includes : List (Include Text Obj Regex)}
    {leaf : Leaf Text View Obj Regex} {callback : View} {default_args : Kwargs Obj}
    (hroutes : OfRoutes includes leaf callback default_args) (django : Resolvers View Obj Regex)
    (text : Text → String) (path : String) :
    ((django.rules text).along includes leaf path).map (fun sub => sub.2.toResolverMatch) =
      (route_captures django text includes leaf path).map fun caps =>
        ⟨callback, [], overlay (caps.leaf.update default_args) caps.layers⟩ := by
  obtain ⟨hincludes, route, name, rfl⟩ := hroutes
  induction includes generalizing path with
  | nil =>
    simp only [Rules.along, Resolvers.rules, Resolvers.leaf_resolve, TextPattern.reading,
      Django.pattern_match, Resolvers.matching, route_captures, Option.map_map]
    rfl
  | cons inc rest ih =>
    obtain ⟨pattern, default_kwargs, app_name, namespace_⟩ := inc
    obtain ⟨written, rfl⟩ := hincludes _ List.mem_cons_self
    have hrest := fun left => ih left fun other hother =>
      hincludes other (List.mem_cons_of_mem _ hother)
    have henter : (django.rules text).enter ⟨.route written, default_kwargs, app_name, namespace_⟩
        path = (django.route_match false (text written) path).map fun m =>
          (m.1, fun sub => (text written,
            django.join app_name namespace_ [] m.2 default_kwargs sub)) := by
      simp only [Resolvers.rules, TextPattern.reading, Django.pattern_match, Option.map_map]
      rfl
    rw [Rules.along, route_captures, henter]
    cases django.route_match false (text written) path with
    | none => rfl
    | some m =>
      simp only [Option.map_some, Option.map_map]
      have hbelow := congrArg (Option.map (join_match [] m.2 default_kwargs)) (hrest m.1)
      rw [Option.map_map, Option.map_map] at hbelow
      refine hbelow.trans ?_
      congr 1
      funext caps
      exact join_match_of_no_args _ _ _ rfl

/-- For a leaf of the table these are the captures of the leaf. -/
theorem route_captures_eq (django : Resolvers View Obj Regex) {text : Text → String}
    {leaf : Leaf Text View Obj Regex} {c : Chain View Obj}
    (hleaf : leaf.reading text = .url_pattern (.route c.route) c.callback c.default_args c.name)
    {includes : List (Include Text Obj Regex)} {own : List (Level Obj)}
    (hown : List.Forall₂ (Include.Gives text) includes own) (path : String) :
    route_captures django text includes leaf path =
      ({ c with levels := own } : Chain View Obj).captures django.matching path := by
  induction hown generalizing path with
  | nil =>
    obtain ⟨pattern, rfl, hpattern⟩ := Leaf.eq_url_pattern hleaf
    obtain ⟨written, rfl, hwritten⟩ := TextPattern.eq_route hpattern
    simp only [route_captures, hwritten, Chain.captures, Django.match_levels,
      Option.bind_eq_bind, Option.bind_some, Resolvers.matching]
    cases django.route_match true c.route path <;> rfl
  | @cons inc level rest levels hgives _ ih =>
    obtain ⟨pattern, default_kwargs, app_name, namespace_⟩ := inc
    obtain ⟨hroute, hdefaults⟩ := hgives
    obtain rfl : default_kwargs = level.default_kwargs := hdefaults
    obtain ⟨written, rfl, hwritten⟩ := TextPattern.eq_route hroute
    rw [Chain.captures_cons, route_captures, hwritten]
    have hmatch : django.matching.route_match = django.route_match := rfl
    rw [hmatch]
    cases django.route_match false level.route path with
    | none => rfl
    | some m => simp only [Option.bind_some, ih m.1]

theorem chain_ofRoutes {finditer : String → List Component} {text : Text → String}
    {way : LeafWay Text View Obj Regex} {c : Chain View Obj}
    (hchain : chain_of finditer text way = some c) :
    OfRoutes way.1 way.2 c.callback c.default_args := by
  obtain ⟨hleaf, own, -, hown, -⟩ := way_chain_eq_some hchain
  constructor
  · have hboth := hown.imp fun inc level hgives =>
      And.intro ((TextPattern.eq_route hgives.1).imp fun _ => And.left) hgives
    exact ((List.forall₂_and_left _ _).mp hboth).1
  · obtain ⟨pattern, hway, hpattern⟩ := Leaf.eq_url_pattern hleaf
    obtain ⟨written, rfl, -⟩ := TextPattern.eq_route hpattern
    exact ⟨written, c.name, hway⟩

theorem route_captures_of_chain (django : Resolvers View Obj Regex)
    {finditer : String → List Component} {text : Text → String}
    {way : LeafWay Text View Obj Regex} {c : Chain View Obj}
    (hchain : chain_of finditer text way = some c) (path : String) :
    route_captures django text way.1 way.2 path = c.captures django.matching path := by
  obtain ⟨hleaf, own, hlevels, hown, -⟩ := way_chain_eq_some hchain
  rw [List.nil_append] at hlevels
  rw [route_captures_eq django hleaf hown, ← hlevels]

/-- Routes that read the same capture the same. -/
theorem route_captures_congr (django : Resolvers View Obj Regex) {now built : Text → String}
    {includes : List (Include Text Obj Regex)} {leaf : Leaf Text View Obj Regex}
    (hincludes : ∀ inc ∈ includes, inc.pattern.reading now = inc.pattern.reading built)
    (hleaf : leaf.reading now = leaf.reading built) (path : String) :
    route_captures django now includes leaf path =
      route_captures django built includes leaf path := by
  induction includes generalizing path with
  | nil =>
    cases leaf with
    | other object => rfl
    | url_pattern pattern callback default_args name =>
      cases pattern with
      | regex regex => rfl
      | route route =>
        have hroute : now route = built route := by
          injection hleaf with hpattern
          exact Pattern.route.inj hpattern
        simp only [route_captures, hroute]
  | cons inc rest ih =>
    obtain ⟨pattern, default_kwargs, app_name, namespace_⟩ := inc
    cases pattern with
    | regex regex => rfl
    | route route =>
      have hroute : now route = built route :=
        Pattern.route.inj (hincludes _ List.mem_cons_self)
      have hrest := fun left =>
        ih (fun other hother => hincludes other (List.mem_cons_of_mem _ hother)) left
      simp only [route_captures, hroute, hrest]

theorem along_eq_captures (django : Resolvers View Obj Regex) {finditer : String → List Component}
    {text : Text → String} {way : LeafWay Text View Obj Regex} {c : Chain View Obj}
    (hchain : chain_of finditer text way = some c) (path : String) :
    ((django.rules text).along way.1 way.2 path).map (fun sub => sub.2.toResolverMatch) =
      (c.captures django.matching path).map c.result := by
  rw [(chain_ofRoutes hchain).along_eq django text path, route_captures_of_chain django hchain]
  rfl

theorem Resolvers.resolve_root_of_slash (django : Resolvers View Obj Regex) (text : Text → String)
    (site : List (Declared Text View Obj Regex)) {path : String}
    (hslash : path.toList.head? = some '/') :
    django.resolve_root text site path =
      ((django.rules text).first_all site (path_tail path)).map
        (django.join none none [] .empty .empty) := by
  unfold Resolvers.resolve_root path_tail
  cases hchars : path.toList with
  | nil => simp [hchars] at hslash
  | cons c rest =>
    have hc : c = '/' := by simpa [hchars] using hslash
    subst hc
    rfl

namespace Hit

variable {django : Resolvers View Obj Regex} {text : Text → String}
  {site : List (Declared Text View Obj Regex)} {path : String}

/-- The ways before a hit are those of the rows before it. -/
theorem before_rows {finditer : String → List Component} (hit : Hit finditer text site path) :
    ∀ other ∈ hit.before, ∃ row, chain_of finditer text other = some row ∧ row ∈ hit.rows := by
  intro other hother
  have hmem : chain_of finditer text other ∈ hit.rows.map some := by
    rw [← hit.rows_of]
    exact List.mem_map_of_mem hother
  obtain ⟨row, hrow, hchain⟩ := List.mem_map.mp hmem
  exact ⟨row, hchain.symm, hrow⟩

theorem built (hit : Hit django.finditer text site path) :
    (∀ row ∈ hit.rows, row.Built django.finditer) ∧ hit.chain.Built django.finditer := by
  obtain ⟨others, hlisted⟩ := hit.listed
  have hroot : (([] : List (Level Obj)).map Level.route).mapM (parse_raw django.finditer) =
      some [] := rfl
  have hbuilt := leaves_built django.finditer hroot "" (reading_all text site)
  rw [List.flatten_nil, hlisted] at hbuilt
  exact ⟨fun row hrow => hbuilt row (List.mem_append_left _ (List.mem_map_of_mem hrow)),
    hbuilt hit.chain (by simp)⟩

/-- Django's routes do not take the path before a hit. -/
theorem captures_before (hreads : django.ReadsRoutes) (hit : Hit django.finditer text site path) :
    ∀ other ∈ hit.before, route_captures django text other.1 other.2 (path_tail path) = none := by
  intro other hother
  obtain ⟨row, hchain, hrow⟩ := hit.before_rows other hother
  have hrefused := (hit.built.1 row hrow).django_at hreads hit.slash
  rw [hit.refused row hrow] at hrefused
  rw [route_captures_of_chain django hchain]
  exact hrefused

/-- Where no path parameter of the hit meets a newline, Django's routes take the path there,
with the captures of the table. -/
theorem captures_taken (hreads : django.ReadsRoutes) (hit : Hit django.finditer text site path)
    (hunbroken : hit.chain.PathUnbroken django.finditer (path_tail path)) :
    ∃ caps, hit.chain.captures django.matching (path_tail path) = some caps ∧
      hit.kw.Same (overlay_own caps.leaf caps.layers) := by
  have htaken := hit.built.2.django_at hreads hit.slash
  rw [hit.taken] at htaken
  exact htaken.1 hunbroken

/-- Where one does, they do not. -/
theorem captures_broken (hreads : django.ReadsRoutes) (hit : Hit django.finditer text site path)
    (hbroken : ¬hit.chain.PathUnbroken django.finditer (path_tail path)) :
    hit.chain.captures django.matching (path_tail path) = none := by
  have htaken := hit.built.2.django_at hreads hit.slash
  rw [hit.taken] at htaken
  exact htaken.2 hbroken

/-- Django's search passes the ways before a hit where their routes do not take the path. -/
theorem passed_iff {finditer : String → List Component} {now : Text → String}
    (hit : Hit finditer text site path) :
    (∀ other ∈ hit.before, (django.rules now).along other.1 other.2 (path_tail path) = none) ↔
      ∀ other ∈ hit.before,
        route_captures django now other.1 other.2 (path_tail path) = none := by
  refine forall₂_congr fun other hother => ?_
  obtain ⟨row, hrow, -⟩ := hit.before_rows other hother
  have halong := (chain_ofRoutes hrow).along_eq django now (path_tail path)
  rw [← Option.map_eq_none_iff, halong, Option.map_eq_none_iff]

/-- The kwargs of a hit are those of its text. -/
theorem text_kwargs_eq (hit : Hit django.finditer text site path) :
    hit.chain.text_kwargs django.finditer (path_tail path) =
      some (hit.kw.update hit.chain.default_args) := by
  rw [hit.built.2.text_kwargs_eq, slash_path_tail hit.slash, hit.taken, Option.map_some]

/-- Django's match calls the view of a hit with the kwargs that the text of the hit gives. -/
def SameCall (hit : Hit django.finditer text site path) (sub : String × NamedMatch View Obj) :
    Prop :=
  hit.chain.callback = sub.2.callback ∧ sub.2.args = [] ∧
    ∃ kwargs, hit.chain.text_kwargs django.finditer (path_tail path) = some kwargs ∧
      kwargs.Same sub.2.kwargs

/-- Another leaf makes up for a hit: Django, with the routes as they read now, finds the path
there, and the call is the same. -/
def MadeUpBy (now : Text → String) (hit : Hit django.finditer text site path)
    (sub : String × NamedMatch View Obj) : Prop :=
  (django.rules now).EndsElsewhere site hit.before.length (path_tail path) sub ∧ hit.SameCall sub

theorem sameCall_iff (hit : Hit django.finditer text site path)
    (sub : String × NamedMatch View Obj) :
    hit.SameCall sub ↔ hit.chain.callback = sub.2.callback ∧
      [] = (join_match [] .empty .empty sub.2.toResolverMatch).args ∧
      (hit.kw.update hit.chain.default_args).Same
        (join_match [] .empty .empty sub.2.toResolverMatch).kwargs := by
  have hargs : (join_match [] .empty .empty sub.2.toResolverMatch).args = sub.2.args := by
    simp [join_match]
  have hkwargs : (hit.kw.update hit.chain.default_args).Same
      (join_match [] .empty .empty sub.2.toResolverMatch).kwargs ↔
      (hit.kw.update hit.chain.default_args).Same sub.2.kwargs := same_root_kwargs_iff _ _
  simp only [SameCall, hit.text_kwargs_eq, Option.some.injEq, exists_eq_left', hargs, hkwargs,
    eq_comm (a := sub.2.args)]

/-- Django finds the path at the hit or elsewhere. -/
theorem first_all_iff (now : Text → String) (hit : Hit django.finditer text site path)
    (sub : String × NamedMatch View Obj) :
    (django.rules now).first_all site (path_tail path) = some sub ↔
      ((∀ other ∈ hit.before, (django.rules now).along other.1 other.2 (path_tail path) = none) ∧
        (django.rules now).along hit.way.1 hit.way.2 (path_tail path) = some sub) ∨
      (django.rules now).EndsElsewhere site hit.before.length (path_tail path) sub :=
  (django.rules now).first_all_at_iff hit.ways

end Hit

/-- What is found behind an include is what is found below it, joined with the include. -/
theorem Resolvers.along_cons_eq_some {django : Resolvers View Obj Regex} {text : Text → String}
    {inc : Include Text Obj Regex} {rest : List (Include Text Obj Regex)}
    {leaf : Leaf Text View Obj Regex} {path : String} {sub : String × NamedMatch View Obj}
    (hsub : (django.rules text).along (inc :: rest) leaf path = some sub) :
    ∃ found inner, django.matching.pattern_match false (inc.pattern.reading text) path =
        some found ∧
      (django.rules text).along rest leaf found.1 = some inner ∧
      sub = (django.pattern_str (inc.pattern.reading text),
        django.join inc.app_name inc.namespace_ found.2.1 found.2.2 inc.default_kwargs inner) := by
  rw [Rules.along] at hsub
  cases hfound : django.matching.pattern_match false (inc.pattern.reading text) path with
  | none =>
    simp only [Resolvers.rules, hfound, Option.map_none] at hsub
    cases hsub
  | some found =>
    simp only [Resolvers.rules, hfound, Option.map_some] at hsub
    obtain ⟨inner, hinner, heq⟩ := Option.map_eq_some_iff.mp hsub
    exact ⟨found, inner, rfl, hinner, heq.symm⟩

end massless.router
