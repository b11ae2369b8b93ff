import Massless.Router.Answers

open python
open search

namespace massless.router

variable {Language Text View Obj Regex : Type}

/-- `str` of a lazily translated route while a language is active. -/
def str_in (language : Language) (route : Language → String) : String := route language

namespace Resolvers

variable (django : Resolvers View Obj Regex)

/-- The search of the resolver for what it captures: the view of the leaf, and what the patterns
along its way take by keyword, a deeper one over an outer one, without any default kwargs. -/
def captures (text : Text → String) :
    Rules (Include Text Obj Regex) (Leaf Text View Obj Regex) String (View × Kwargs Obj) where
  enter inc path :=
    (django.matching.pattern_match false (inc.pattern.reading text) path).map fun found =>
      (found.1, fun sub => (sub.1, found.2.2.update sub.2))
  find leaf path :=
    match leaf with
    | .url_pattern pattern callback _ _ =>
      (django.matching.pattern_match true (pattern.reading text) path).map fun found =>
        (callback, found.2.2)
    | .other object => (django.other_resolve object path).map fun m => (m.callback, m.kwargs)

/-- The view and the captured kwargs of what `resolve` returns. -/
def captured (text : Text → String) (site : List (Declared Text View Obj Regex)) (path : String) :
    Option (View × Kwargs Obj) :=
  match path.toList with
  | '/' :: rest => (django.captures text).first_all site (String.ofList rest)
  | _ => none

theorem captured_of_slash (text : Text → String) (site : List (Declared Text View Obj Regex))
    {path : String} (hslash : path.toList.head? = some '/') :
    django.captured text site path = (django.captures text).first_all site (path_tail path) := by
  unfold captured path_tail
  cases hchars : path.toList with
  | nil => simp [hchars] at hslash
  | cons c rest =>
    obtain rfl : c = '/' := by simpa [hchars] using hslash
    rfl

theorem along_captures_callback (text : Text → String) (includes : List (Include Text Obj Regex))
    (leaf : Leaf Text View Obj Regex) (path : String) :
    ((django.captures text).along includes leaf path).map Prod.fst =
      ((django.rules text).along includes leaf path).map fun sub => sub.2.callback := by
  induction includes generalizing path with
  | nil =>
    cases leaf with
    | url_pattern pattern callback default_args name =>
      simp only [Rules.along, captures, rules, leaf_resolve, Option.map_map]
      rfl
    | other object =>
      simp only [Rules.along, captures, rules, leaf_resolve, Option.map_map]
      rfl
  | cons inc rest ih =>
    simp only [Rules.along, captures, rules]
    cases django.matching.pattern_match false (inc.pattern.reading text) path with
    | none => rfl
    | some found =>
      simp only [Option.map_some, Option.map_map]
      exact ih found.1

/-- It is the search of the resolver: the two end at the same view. -/
theorem captured_callback (text : Text → String) (site : List (Declared Text View Obj Regex))
    (path : String) : (django.captured text site path).map Prod.fst =
      (django.matching.resolve_root (reading_all text site) path).map ResolverMatch.callback := by
  rw [← django.resolve_root_toResolverMatch, Option.map_map]
  unfold captured resolve_root
  cases path.toList with
  | nil => rfl
  | cons c rest =>
    by_cases hslash : c = '/'
    · subst hslash
      simp only
      rw [Rules.first_all_eq_first_way, Rules.first_all_eq_first_way, Option.map_map,
        List.map_findSome?, List.map_findSome?]
      congr 1
      funext way
      exact django.along_captures_callback text way.1 way.2 _
    · simp [hslash]

end Resolvers

/-- Along a way of routes that is its view, with the captures overlaid level by level. -/
theorem OfRoutes.along_captures {includes : List (Include Text Obj Regex)}
    {leaf : Leaf Text View Obj Regex} {callback : View} {default_args : Kwargs Obj}
    (hroutes : OfRoutes includes leaf callback default_args) (django : Resolvers View Obj Regex)
    (text : Text → String) (path : String) :
    (django.captures text).along includes leaf path =
      (route_captures django text includes leaf path).map fun caps =>
        (callback, overlay_own caps.leaf caps.layers) := by
  obtain ⟨hincludes, route, name, rfl⟩ := hroutes
  induction includes generalizing path with
  | nil =>
    simp only [Rules.along, Resolvers.captures, TextPattern.reading, Django.pattern_match,
      Resolvers.matching, route_captures, Option.map_map]
    rfl
  | cons inc rest ih =>
    obtain ⟨pattern, default_kwargs, app_name, namespace_⟩ := inc
    obtain ⟨written, rfl⟩ := hincludes _ List.mem_cons_self
    have hrest := fun left => ih left fun other hother =>
      hincludes other (List.mem_cons_of_mem _ hother)
    simp only [Rules.along, Resolvers.captures, TextPattern.reading, Django.pattern_match,
      Resolvers.matching, route_captures]
    cases django.route_match false (text written) path with
    | none => rfl
    | some m =>
      simp only [Option.map_some, Option.map_map]
      have hbelow := congrArg (Option.map fun sub : View × Kwargs Obj => (sub.1, m.2.update sub.2))
        (hrest m.1)
      rw [Option.map_map] at hbelow
      exact hbelow

namespace Hit

variable {django : Resolvers View Obj Regex} {built now : Text → String}
  {site : List (Declared Text View Obj Regex)} {path : String}

/-- Two readings of the routes that a path is tried on are the same. -/
def ReadsAlike (now : Text → String) (hit : Hit django.finditer built site path) : Prop :=
  ∀ way ∈ hit.before ++ [hit.way],
    (∀ inc ∈ way.1, inc.pattern.reading now = inc.pattern.reading built) ∧
      way.2.reading now = way.2.reading built

/-- Django's routes capture from the path now what they captured when the table was built. -/
theorem ReadsAlike.captures {hit : Hit django.finditer built site path}
    (halike : hit.ReadsAlike now) : ∀ way ∈ hit.before ++ [hit.way],
      route_captures django now way.1 way.2 (path_tail path) =
        route_captures django built way.1 way.2 (path_tail path) := fun way hway =>
  route_captures_congr django (halike way hway).1 (halike way hway).2 (path_tail path)

/-- Where the routes tried read as they did, and no path parameter of the hit meets a newline,
the search ends at the hit, with its captures. -/
theorem captured_of_readsAlike (hreads : django.ReadsRoutes)
    (hit : Hit django.finditer built site path) (halike : hit.ReadsAlike now)
    (hunbroken : hit.chain.PathUnbroken django.finditer (path_tail path)) :
    ∃ captured, django.captured now site path = some (hit.chain.callback, captured) ∧
      hit.kw.Same captured := by
  obtain ⟨caps, hcaps, hsame⟩ := hit.captures_taken hreads hunbroken
  have hcaptures := halike.captures
  refine ⟨overlay_own caps.leaf caps.layers, ?_, hsame⟩
  rw [django.captured_of_slash now site hit.slash, Rules.first_all_eq_some_iff]
  refine ⟨hit.before, hit.way, hit.after, hit.ways, ?_, fun other hother => ?_⟩
  · rw [(chain_ofRoutes hit.chain_of_way).along_captures, hcaptures hit.way (by simp),
      route_captures_of_chain django hit.chain_of_way, hcaps, Option.map_some]
  · obtain ⟨row, hrow, -⟩ := hit.before_rows other hother
    rw [(chain_ofRoutes hrow).along_captures, hcaptures other (List.mem_append_left _ hother),
      hit.captures_before hreads other hother, Option.map_none]

end Hit

/-- Whatever the table built under one language answers on a path while another is active, it
has the view and the captured kwargs of Django's answer then; `django` matches as it does under
the language that is active. -/
def StaysValid (django : Resolvers View Obj Regex) (iscoroutinefunction : View → Bool)
    (site : List (Declared (Language → String) View Obj Regex)) (built active : Language)
    (path : String) : Prop :=
  ∀ m, (build_router django.finditer iscoroutinefunction (reading_all (str_in built) site)).match
      (encode_utf8 path) = some m →
    ∃ hit : Hit django.finditer (str_in built) site path,
      hit.chain.answer iscoroutinefunction hit.kw = m ∧
      ∃ r captured,
        django.matching.resolve_root (reading_all (str_in active) site) path = some r ∧
        m.callback = r.callback ∧
        django.captured (str_in active) site path = some (r.callback, captured) ∧
        hit.kw.Same captured

/-- The table stays valid under translation where the routes that it tries, up to the row that
takes the path, read the same in both languages, and no path parameter of that row meets a
newline: it reads the routes once, and Django reads them at every match. -/
theorem stays_valid_of_readsAlike (django : Resolvers View Obj Regex) (hreads : django.ReadsRoutes)
    (iscoroutinefunction : View → Bool)
    (site : List (Declared (Language → String) View Obj Regex)) (built active : Language)
    (path : String)
    (hhits : ∀ hit : Hit django.finditer (str_in built) site path, hit.ReadsAlike (str_in active) ∧
      hit.chain.PathUnbroken django.finditer (path_tail path)) :
    StaysValid django iscoroutinefunction site built active path := by
  intro m hm
  obtain ⟨hit, rfl⟩ := (match_eq_some_iff _ _ _ _ _ _).mp hm
  obtain ⟨halike, hunbroken⟩ := hhits hit
  obtain ⟨captured, hcaptured, hsame⟩ := hit.captured_of_readsAlike hreads halike hunbroken
  have hview := django.captured_callback (str_in active) site path
  rw [hcaptured, Option.map_some, eq_comm, Option.map_eq_some_iff] at hview
  obtain ⟨r, hr, hcallback⟩ := hview
  refine ⟨hit, rfl, r, captured, hr, hcallback.symm, ?_, hsame⟩
  rw [hcaptured, hcallback]

/-- The languages of a site with translations. -/
inductive SiteLanguage where
  | en
  | de
  | fr

/-- `path(_("shop/"), shop)` -/
def shop_urlpatterns : List (Declared (SiteLanguage → String) String Unit Unit) :=
  [.leaf (.url_pattern (.route fun language => match language with
    | .en => "shop/"
    | .de => "shop/"
    | .fr => "boutique/") "shop" .empty none)]

/-- A route that reads the same in German as in English. -/
theorem stays_valid_of_readsAlike_shop :
    StaysValid plain_resolvers (fun _ => false) shop_urlpatterns .en .de "/shop/" := by
  refine stays_valid_of_readsAlike plain_resolvers plain_resolvers_reads _ _ _ _ _ fun hit => ?_
  have hways : ways_all shop_urlpatterns = hit.before ++ [hit.way] ++ hit.after := by
    simpa using hit.ways
  have hway : ∀ way ∈ hit.before ++ [hit.way], way ∈ ways_all shop_urlpatterns := by
    rw [hways]
    exact fun way => List.mem_append_left _
  constructor
  · intro way hmem
    obtain rfl := List.mem_singleton.mp (hway way hmem)
    exact ⟨by simp, rfl⟩
  · have hchain := hit.chain_of_way
    rw [List.mem_singleton.mp (hway hit.way (by simp))] at hchain
    rw [← Option.some.inj (show some _ = some hit.chain from hchain)]
    -- the route has no parameter
    intro raws raw hraws hraw before name rest groups hparts
    cases hraws
    cases hraw
    have hlast := congrArg List.getLast? hparts
    rw [List.getLast?_concat] at hlast
    cases hlast

/-- `path(_("about/"), about)` -/
def about_urlpatterns : List (Declared (SiteLanguage → String) String Unit Unit) :=
  [.leaf (.url_pattern (.route fun language => match language with
    | .en => "about/"
    | .de => "ueber/"
    | .fr => "apropos/") "about" .empty none)]

/-- With a router built in English `/about/` is served in German, where Django knows `/ueber/`
only. -/
theorem translated_route_stale :
    ¬StaysValid plain_resolvers (fun _ => false) about_urlpatterns .en .de "/about/" := by
  intro hvalid
  have hhit : ((build_router plain_resolvers.finditer (fun _ => false)
      (reading_all (str_in SiteLanguage.en) about_urlpatterns)).match
        (encode_utf8 "/about/")).isSome = true := by
    decide +kernel
  obtain ⟨m, hm⟩ := Option.isSome_iff_exists.mp hhit
  obtain ⟨hit, -, r, captured, hr, -⟩ := hvalid m hm
  have hdjango : (plain_resolvers.matching.resolve_root
      (reading_all (str_in SiteLanguage.de) about_urlpatterns) "/about/").isNone = true := by
    decide +kernel
  rw [hr] at hdjango
  cases hdjango

end massless.router
