import Massless.Router.Declared
import Massless.Router.Refinement

open python
open search

namespace massless.router

variable {Text View Obj Regex : Type}

section

variable (finditer : String → List Component) (text : Text → String)

/-- The leaf of the table that a way of the site becomes; `none` where `_walk` leaves the way
to Django. -/
def way_chain (levels : List (Level Obj)) (prefix_parts : List Part) (prefix_route : String) :
    List (Include Text Obj Regex) → Leaf Text View Obj Regex → Option (Chain View Obj)
  | [], .url_pattern (.route route) callback default_args name =>
    (parse_raw finditer (text route)).bind fun raw =>
      (finalize (prefix_parts ++ raw)).map fun final =>
        ⟨levels, final, prefix_route, text route, callback, default_args, name⟩
  | [], _ => none
  | ⟨.route route, default_kwargs, _, _⟩ :: rest, leaf =>
    (parse_raw finditer (text route)).bind fun raw =>
      way_chain (levels ++ [⟨text route, default_kwargs⟩]) (prefix_parts ++ raw)
        (prefix_route ++ text route) rest leaf
  | ⟨.regex _, _, _, _⟩ :: _, _ => none

/-- Two lists are the same up to where both end or the first of them has a gap. -/
def SameToGap {A : Type} (listed all : List (Option A)) : Prop :=
  ∃ shared : List A, (listed = shared.map some ∧ all = shared.map some) ∨
    ∃ more rest, listed = shared.map some ++ none :: more ∧ all = shared.map some ++ rest

theorem SameToGap.gap {A : Type} (all : List (Option A)) : SameToGap [none] all :=
  ⟨[], Or.inr ⟨[], all, rfl, rfl⟩⟩

theorem SameToGap.refl {A : Type} (entry : Option A) : SameToGap [entry] [entry] := by
  cases entry with
  | none => exact SameToGap.gap _
  | some a => exact ⟨[a], Or.inl ⟨rfl, rfl⟩⟩

theorem SameToGap.append {A : Type} {listed all listed' all' : List (Option A)}
    (hfirst : SameToGap listed all) (hsecond : SameToGap listed' all') :
    SameToGap (listed ++ listed') (all ++ all') := by
  obtain ⟨shared, ⟨rfl, rfl⟩ | ⟨more, rest, rfl, rfl⟩⟩ := hfirst
  · obtain ⟨later, ⟨rfl, rfl⟩ | ⟨more, rest, rfl, rfl⟩⟩ := hsecond
    · exact ⟨shared ++ later, Or.inl (by simp)⟩
    · exact ⟨shared ++ later, Or.inr ⟨more, rest, by simp, by simp⟩⟩
  · exact ⟨shared, Or.inr ⟨more ++ listed', rest ++ all', by simp, by simp⟩⟩

/-- What stands in the first list without a gap before it stands at its place in both. -/
theorem SameToGap.at_place {A : Type} {listed all : List (Option A)}
    (hsame : SameToGap listed all) {before : List A} {a : A} {after : List (Option A)}
    (hlisted : listed = before.map some ++ some a :: after) :
    ∃ others, all = before.map some ++ some a :: others := by
  obtain ⟨shared, ⟨hshared, rfl⟩ | ⟨more, rest, hshared, rfl⟩⟩ := hsame
  · exact ⟨after, hshared.symm.trans hlisted⟩
  · rw [hlisted] at hshared
    clear hlisted
    induction before generalizing shared with
    | nil =>
      cases shared with
      | nil => cases hshared
      | cons b later =>
        cases hshared
        exact ⟨later.map some ++ rest, rfl⟩
    | cons b before ih =>
      cases shared with
      | nil => cases hshared
      | cons c later =>
        injection hshared with hhead htail
        obtain ⟨others, hothers⟩ := ih later htail
        refine ⟨others, ?_⟩
        rw [List.map_cons, List.cons_append, hothers, ← hhead]
        rfl

mutual

theorem leaves_entry_sameToGap (levels : List (Level Obj)) (prefix_parts : List Part)
    (prefix_route : String) (entry : Declared Text View Obj Regex) :
    SameToGap (leaves_entry finditer levels prefix_parts prefix_route (reading text entry))
      ((ways entry).map fun way =>
        way_chain finditer text levels prefix_parts prefix_route way.1 way.2) :=
  match entry with
  | .leaf (.url_pattern (.route route) callback default_args name) => SameToGap.refl _
  | .leaf (.url_pattern (.regex _) _ _ _) => by
    simp only [reading, Leaf.reading, TextPattern.reading, leaves_entry]
    exact SameToGap.gap _
  | .leaf (.other _) => by
    simp only [reading, Leaf.reading, leaves_entry]
    exact SameToGap.gap _
  | .node ⟨.regex _, _, _, _⟩ children => by
    simp only [reading, TextPattern.reading, leaves_entry]
    exact SameToGap.gap _
  | .node ⟨.route route, default_kwargs, app_name, namespace_⟩ children => by
    have hchildren := fun raw => leaves_sameToGap (levels ++ [⟨text route, default_kwargs⟩])
      (prefix_parts ++ raw) (prefix_route ++ text route) children
    simp only [reading, TextPattern.reading, leaves_entry, ways, List.map_map, Function.comp_def,
      way_chain]
    cases parse_raw finditer (text route) with
    | none => exact SameToGap.gap _
    | some raw => exact hchildren raw

/-- The table lists the ways of the site in order up to its first gap. -/
theorem leaves_sameToGap (levels : List (Level Obj)) (prefix_parts : List Part)
    (prefix_route : String) (entries : List (Declared Text View Obj Regex)) :
    SameToGap (leaves finditer levels prefix_parts prefix_route (reading_all text entries))
      ((ways_all entries).map fun way =>
        way_chain finditer text levels prefix_parts prefix_route way.1 way.2) :=
  match entries with
  | [] => ⟨[], Or.inl ⟨by simp [reading_all, leaves], by simp [ways_all]⟩⟩
  | entry :: rest => by
    simp only [reading_all, leaves, ways_all, List.map_append]
    exact (leaves_entry_sameToGap levels prefix_parts prefix_route entry).append
      (leaves_sameToGap levels prefix_parts prefix_route rest)

end

/-- The leaf of the table that a way of the whole site becomes. -/
def chain_of (way : LeafWay Text View Obj Regex) : Option (Chain View Obj) :=
  way_chain finditer text [] [] "" way.1 way.2

end

/-- The first row of the table that takes a path, together with the ways of the site that this
row and the rows before it come from. -/
structure Hit (finditer : String → List Component) (text : Text → String)
    (site : List (Declared Text View Obj Regex)) (path : String) where
  before : List (LeafWay Text View Obj Regex)
  way : LeafWay Text View Obj Regex
  after : List (LeafWay Text View Obj Regex)
  rows : List (Chain View Obj)
  chain : Chain View Obj
  kw : Kwargs Obj
  slash : path.toList.head? = some '/'
  ways : ways_all site = before ++ way :: after
  rows_of : before.map (chain_of finditer text) = rows.map some
  chain_of_way : chain_of finditer text way = some chain
  listed : ∃ others,
    leaves finditer [] [] "" (reading_all text site) = rows.map some ++ some chain :: others
  refused : ∀ row ∈ rows,
    (match_parts (encode_utf8 path) row.final 1 .empty : Option (Kwargs Obj)) = none
  taken : match_parts (encode_utf8 path) chain.final 1 .empty = some kw

/-- What `Router.match` returns for a leaf that has captured `kw`. -/
def Chain.answer (iscoroutinefunction : View → Bool) (c : Chain View Obj) (kw : Kwargs Obj) :
    Match View Obj :=
  ⟨c.callback, [], kw.update c.default_args, c.prefix_route ++ c.route,
    iscoroutinefunction c.callback⟩

theorem match_entries_eq_some_iff (iscoroutinefunction : View → Bool) (path : Bytes)
    (cs : List (Option (Chain View Obj))) (m : Match View Obj) :
    match_entries path (cs.map (Option.map (Chain.to_route iscoroutinefunction))) = some m ↔
      ∃ (rows : List (Chain View Obj)) (c : Chain View Obj) (others : List (Option (Chain View Obj)))
        (kw : Kwargs Obj), cs = rows.map some ++ some c :: others ∧
        (∀ row ∈ rows, (match_parts path row.final 1 .empty : Option (Kwargs Obj)) = none) ∧
        match_parts path c.final 1 .empty = some kw ∧ c.answer iscoroutinefunction kw = m := by
  induction cs with
  | nil => simp [match_entries]
  | cons entry rest ih =>
    cases entry with
    | none =>
      simp only [List.map_cons, Option.map_none, match_entries, reduceCtorEq, false_iff]
      rintro ⟨rows, c, others, kw, heq, -⟩
      cases rows <;> cases heq
    | some c =>
      have htry : (c.to_route iscoroutinefunction).try_match path 1 =
          (match_parts path c.final 1 .empty).map fun kw => kw.update c.default_args := rfl
      rw [List.map_cons, Option.map_some, match_entries, htry]
      cases hparts : (match_parts path c.final 1 .empty : Option (Kwargs Obj)) with
      | none =>
        rw [Option.map_none, ih]
        constructor
        · rintro ⟨rows, found, others, kw, rfl, hrows, htaken⟩
          refine ⟨c :: rows, found, others, kw, rfl, ?_, htaken⟩
          exact List.forall_mem_cons.mpr ⟨hparts, hrows⟩
        · rintro ⟨rows, found, others, kw, heq, hrows, htaken⟩
          cases rows with
          | nil =>
            cases heq
            rw [hparts] at htaken
            cases htaken.1
          | cons row rows =>
            cases heq
            exact ⟨rows, found, others, kw, rfl, (List.forall_mem_cons.mp hrows).2, htaken⟩
      | some kw =>
        rw [Option.map_some, Option.some.injEq]
        constructor
        · rintro rfl
          exact ⟨[], c, rest, kw, rfl, by simp, hparts, rfl⟩
        · rintro ⟨rows, found, others, taken, heq, hrows, htaken, rfl⟩
          cases rows with
          | nil =>
            cases heq
            rw [hparts] at htaken
            cases htaken
            rfl
          | cons row rows =>
            cases heq
            rw [(List.forall_mem_cons.mp hrows).1] at hparts
            cases hparts

/-- The router answers a path exactly where a row of its table hits. -/
theorem match_eq_some_iff (finditer : String → List Component) (iscoroutinefunction : View → Bool)
    (text : Text → String) (site : List (Declared Text View Obj Regex)) (path : String)
    (m : Match View Obj) :
    (build_router finditer iscoroutinefunction (reading_all text site)).match (encode_utf8 path) =
        some m ↔
      ∃ hit : Hit finditer text site path, hit.chain.answer iscoroutinefunction hit.kw = m := by
  have hhead : (encode_utf8 path).head? = some 47 ↔ path.toList.head? = some '/' :=
    head?_encode_utf8_iff path (c := '/') (by decide)
  have hwalk := walk_eq_leaves finditer iscoroutinefunction [] [] "" (reading_all text site)
  simp only [Router.match, build_router, hhead, hwalk]
  constructor
  · intro hmatch
    by_cases hslash : path.toList.head? = some '/'
    · rw [if_pos hslash, match_entries_eq_some_iff] at hmatch
      obtain ⟨rows, c, others, kw, hlisted, hrefused, htaken, hm⟩ := hmatch
      obtain ⟨later, hall⟩ :=
        (leaves_sameToGap finditer text [] [] "" site).at_place hlisted
      obtain ⟨before, behind, hways, hbefore, hbehind⟩ := List.map_eq_append_iff.mp hall
      obtain ⟨way, after, rfl, hway, -⟩ := List.map_eq_cons_iff.mp hbehind
      exact ⟨⟨before, way, after, rows, c, kw, hslash, hways, hbefore, hway, ⟨others, hlisted⟩,
        hrefused, htaken⟩, hm⟩
    · rw [if_neg hslash] at hmatch
      cases hmatch
  · rintro ⟨hit, hm⟩
    obtain ⟨others, hlisted⟩ := hit.listed
    rw [if_pos hit.slash, match_entries_eq_some_iff]
    exact ⟨hit.rows, hit.chain, others, hit.kw, hlisted, hit.refused, hit.taken, hm⟩

end massless.router
