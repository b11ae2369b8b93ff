import Massless.Router.Chain
import Massless.Router.Text

open python
open regex

namespace massless.router

variable {View Obj : Type}

/-- What `.` accepts in a regex that is compiled without `re.DOTALL`. -/
def no_newline (c : Char) : Bool := c != '\n'

/-- `RoutePattern.match` over the built-in converters: the text behind the match, and the
captures. -/
def route_match (finditer : String → List Component) (is_endpoint : Bool) (route : String)
    (text : List Char) : Option (List Char × List (Capture String Obj)) := do
  let parts ← text_parts finditer route
  let found ← (parts_regex no_newline (if is_endpoint then .stop else .empty) parts).search text
  let captures ← convert_groups found.2
  some (found.1, captures)

/-- What Django captures level by level: each include matches at the front of what the one
before it left, and the leaf matches all that is left then. -/
def level_captures (finditer : String → List Component) :
    List String → String → List Char → Option (List (Capture String Obj))
  | [], leaf, text => (route_match finditer true leaf text).map Prod.snd
  | route :: levels, leaf, text => do
    let (rest, captures) ← route_match finditer false route text
    let later ← level_captures finditer levels leaf rest
    some (captures ++ later)

theorem convert_groups_append (first second : Groups (Kind × String)) :
    (convert_groups (first ++ second) : Option (List (Capture String Obj))) =
      (convert_groups first).bind fun captures =>
        (convert_groups second).map fun later => captures ++ later := by
  induction first with
  | nil => simp [convert_groups]
  | cons group rest ih =>
    obtain ⟨⟨kind, name⟩, text⟩ := group
    simp only [List.cons_append, convert_groups, Option.bind_eq_bind, ih]
    cases (to_python kind text : Option (Value Obj)) with
    | none => rfl
    | some value =>
      cases (convert_groups rest : Option (List (Capture String Obj))) with
      | none => rfl
      | some captures =>
        cases (convert_groups second : Option (List (Capture String Obj))) <;> rfl

theorem greedy_append (dot : Char → Bool) (last : Regex (Kind × String))
    (first second : List TextPart) (text : List Char) :
    (parts_regex dot last (first ++ second)).greedy text =
      ((parts_regex dot .empty first).greedy text).bind fun found =>
        ((parts_regex dot last second).greedy found.1).map fun later =>
          (later.1, found.2 ++ later.2) := by
  induction first generalizing text with
  | nil => simp [parts_regex, Regex.greedy]
  | cons part rest ih =>
    cases part <;>
      simp only [List.cons_append, parts_regex, Regex.greedy, ih, Option.bind_assoc,
        Option.bind_map, Option.map_bind, Option.map_map, Function.comp_def, List.append_assoc]

/-- A character where the scan of a parameter stops is none that the parameter takes. -/
theorem refuses_of_stops_at {dot accepts : Char → Bool} {kind : Kind} {c : Char} {b : UInt8}
    (hregex : kind.regex dot = .many accepts) (hb : b ∈ String.utf8EncodeChar c)
    (hstop : stops_at kind b = true) : ¬accepts c = true := by
  cases kind with
  | K_INT =>
    cases hregex
    simpa [stops_at, same_set_digit c b hb] using hstop
  | K_STR =>
    cases hregex
    have hslash := same_set_segment c b hb
    simp only [stops_at, beq_iff_eq] at hstop
    simpa [hstop] using hslash
  | K_SLUG =>
    cases hregex
    simpa [stops_at, same_set_slug c b hb] using hstop
  | K_UUID => cases hregex
  | K_PATH => cases hstop

/-- What `_finalize` asks of the parts of a route, before it merges their literals. -/
def GreedyParts (parts : List TextPart) : Prop :=
  boundaries_ok (parts.map TextPart.encode) = true

theorem GreedyParts.tail {part : TextPart} {rest : List TextPart}
    (hparts : GreedyParts (part :: rest)) : GreedyParts rest := by
  unfold GreedyParts at *
  cases part with
  | lit text => simpa [TextPart.encode, boundaries_ok] using hparts
  | param kind name =>
    cases rest with
    | nil => rfl
    | cons next later =>
      cases next with
      | lit text =>
        simp only [List.map_cons, TextPart.encode, boundaries_ok, Bool.and_eq_true] at hparts ⊢
        exact hparts.2
      | param next_kind next_name => cases hparts

theorem GreedyParts.right {first second : List TextPart} (hparts : GreedyParts (first ++ second)) :
    GreedyParts second := by
  induction first with
  | nil => exact hparts
  | cons part rest ih => exact ih hparts.tail

theorem GreedyParts.left {first second : List TextPart} (hparts : GreedyParts (first ++ second)) :
    GreedyParts first := by
  induction first with
  | nil => rfl
  | cons part rest ih =>
    have hrest := ih hparts.tail
    unfold GreedyParts at *
    cases part with
    | lit text => simpa [TextPart.encode, boundaries_ok] using hrest
    | param kind name =>
      cases rest with
      | nil => rfl
      | cons next later =>
        cases next with
        | lit text =>
          simp only [List.cons_append, List.map_cons, TextPart.encode, boundaries_ok,
            Bool.and_eq_true] at hparts hrest ⊢
          exact ⟨hparts.1, hrest⟩
        | param next_kind next_name => cases hparts

/-- What follows a parameter has no use for less than its longest run. -/
theorem indifferent_parts {R : Type} {dot accepts : Char → Bool} {kind : Kind} {name : String}
    {rest : List TextPart} {last : Regex (Kind × String)}
    {next : List Char → Groups (Kind × String) → Option R}
    (hparts : GreedyParts (.param kind name :: rest))
    (hlast : Indifferent accepts fun left groups => last.run left groups next)
    (hregex : kind.regex dot = .many accepts) :
    Indifferent accepts fun left groups => (parts_regex dot last rest).run left groups next := by
  cases rest with
  | nil => exact hlast
  | cons following later =>
    unfold GreedyParts at hparts
    cases following with
    | param next_kind next_name => cases hparts
    | lit text =>
      left
      intro c left groups hc
      simp only [List.map_cons, TextPart.encode, boundaries_ok, Bool.and_eq_true] at hparts
      change (escape text).run (c :: left) groups _ = none
      rw [run_escape, if_neg]
      intro hstart
      cases text with
      | nil => cases hparts.1
      | cons d text =>
        obtain ⟨b, more, hencode⟩ :=
          List.exists_cons_of_ne_nil (String.utf8EncodeChar_ne_nil (c := d))
        rw [encode_chars_cons, hencode, List.cons_append, List.head?_cons, Option.any_some] at hparts
        have hrefuses := refuses_of_stops_at hregex (c := d) (by simp [hencode]) hparts.1
        rw [(List.cons_prefix_cons.mp hstart).1] at hrefuses
        exact hrefuses hc

/-- The regex of such parts matches without backtracking. -/
theorem definite_parts {R : Type} {dot : Char → Bool} {parts : List TextPart}
    {last : Regex (Kind × String)} {next : List Char → Groups (Kind × String) → Option R}
    (hparts : GreedyParts parts) (hlast : last.Definite next)
    (hindifferent : ∀ accepts, Indifferent accepts fun left groups => last.run left groups next) :
    (parts_regex dot last parts).Definite next := by
  induction parts with
  | nil => exact hlast
  | cons part rest ih =>
    have hrest := ih hparts.tail
    cases part with
    | lit text => exact definite_seq (definite_each _ _) hrest
    | param kind name =>
      refine definite_seq (definite_group fun text => ?_) hrest
      have hgroup := fun (accepts : Char → Bool) (hregex : kind.regex dot = .many accepts) =>
        (indifferent_parts hparts (hindifferent accepts) hregex).group (kind, name) text
      cases kind with
      | K_UUID => exact definite_each _ _
      | K_INT => exact definite_many (hgroup _ rfl)
      | K_STR => exact definite_many (hgroup _ rfl)
      | K_SLUG => exact definite_many (hgroup _ rfl)
      | K_PATH => exact definite_many (hgroup _ rfl)

/-- Django's match of such parts, at the front of a text or up to its end. -/
theorem search_parts (dot : Char → Bool) {parts : List TextPart} (hparts : GreedyParts parts)
    (is_endpoint : Bool) (text : List Char) :
    (parts_regex dot (if is_endpoint then .stop else .empty) parts).search text =
      (parts_regex dot (if is_endpoint then .stop else .empty) parts).greedy text := by
  have hdefinite : (parts_regex dot (if is_endpoint then .stop else .empty) parts).Definite
      fun rest groups => some (rest, groups) := by
    cases is_endpoint with
    | true =>
      apply definite_parts hparts
      · intro text groups
        simp only [if_true, Regex.run, Regex.greedy]
        split <;> simp
      · exact fun accepts => Or.inl fun c rest groups _ => rfl
    | false =>
      apply definite_parts hparts
      · intro text groups
        simp [Regex.run, Regex.greedy]
      · exact fun accepts => Or.inr fun text groups => rfl
  rw [Regex.search, hdefinite]
  simp only [List.nil_append]
  exact Option.bind_fun_some _

/-- Level by level Django captures what the parts of all levels take one after another. -/
theorem level_captures_eq (finditer : String → List Component) (levels : List String)
    (leaf : String) {raws : List (List TextPart)} {raw : List TextPart}
    (hraws : levels.mapM (text_parts finditer) = some raws)
    (hraw : text_parts finditer leaf = some raw) (hparts : GreedyParts (raws.flatten ++ raw))
    (text : List Char) :
    (level_captures finditer levels leaf text : Option (List (Capture String Obj))) =
      ((parts_regex no_newline .stop (raws.flatten ++ raw)).greedy text).bind fun found =>
        convert_groups found.2 := by
  induction levels generalizing raws text with
  | nil =>
    rw [List.mapM_nil] at hraws
    cases hraws
    have hsearch := search_parts no_newline hparts true text
    simp only [List.flatten_nil, List.nil_append, if_true] at hsearch ⊢
    simp only [level_captures, route_match, hraw, Option.bind_eq_bind, Option.bind_some, if_true,
      hsearch, Option.map_bind, Function.comp_def]
    apply Option.bind_congr
    intro found _
    cases (convert_groups found.2 : Option (List (Capture String Obj))) <;> rfl
  | cons route levels ih =>
    rw [List.mapM_cons, Option.bind_eq_bind, Option.bind_eq_some_iff] at hraws
    obtain ⟨first, hfirst, hlater⟩ := hraws
    rw [Option.bind_eq_bind, Option.bind_eq_some_iff] at hlater
    obtain ⟨later, hlevels, heq⟩ := hlater
    cases heq
    rw [List.flatten_cons, List.append_assoc] at hparts ⊢
    rw [greedy_append no_newline .stop first]
    have hsearch := search_parts no_newline hparts.left false text
    simp only [Bool.false_eq_true, if_false] at hsearch
    simp only [level_captures, route_match, hfirst, Option.bind_eq_bind, Option.bind_some,
      Bool.false_eq_true, if_false, hsearch, ih hlevels hparts.right,
      Option.bind_assoc, Option.bind_map, Function.comp_def, convert_groups_append]
    apply Option.bind_congr
    intro found _
    cases (convert_groups found.2 : Option (List (Capture String Obj))) with
    | none => simp
    | some captures =>
      simp only [Option.bind_some]
      apply Option.bind_congr
      intro later _
      cases (convert_groups later.2 : Option (List (Capture String Obj))) <;> rfl

/-- A path parameter can only be the last of such parts. -/
theorem GreedyParts.path_last {parts : List TextPart} (hparts : GreedyParts parts) :
    (∀ name, .param .K_PATH name ∉ parts) ∨
      ∃ before name, parts = before ++ [.param .K_PATH name] ∧
        ∀ other, .param .K_PATH other ∉ before := by
  induction parts with
  | nil => exact Or.inl fun _ hmem => by cases hmem
  | cons part rest ih =>
    by_cases hpath : ∃ name, part = .param .K_PATH name
    · obtain ⟨name, rfl⟩ := hpath
      right
      cases rest with
      | nil => exact ⟨[], name, rfl, by simp⟩
      | cons next later =>
        have hnever : ∀ found : Option UInt8, found.any (stops_at .K_PATH) = false := by
          intro found
          cases found <;> rfl
        unfold GreedyParts at hparts
        cases next with
        | lit text => simp [TextPart.encode, boundaries_ok, hnever] at hparts
        | param kind other => cases hparts
    · rw [not_exists] at hpath
      obtain hnone | ⟨before, name, rfl, hbefore⟩ := ih hparts.tail
      · left
        intro name hmem
        obtain heq | hrest := List.mem_cons.mp hmem
        · exact hpath name heq.symm
        · exact hnone name hrest
      · refine Or.inr ⟨part :: before, name, rfl, fun other hmem => ?_⟩
        obtain heq | hrest := List.mem_cons.mp hmem
        · exact hpath other heq.symm
        · exact hbefore other hrest

/-- Without a path parameter nothing depends on what `.` accepts. -/
theorem parts_regex_dot {parts : List TextPart} (hparts : ∀ name, .param .K_PATH name ∉ parts)
    (dot other : Char → Bool) (last : Regex (Kind × String)) :
    parts_regex dot last parts = parts_regex other last parts := by
  induction parts with
  | nil => rfl
  | cons part rest ih =>
    have hrest := ih fun name hmem => hparts name (List.mem_cons_of_mem _ hmem)
    cases part with
    | lit text => exact congrArg (Regex.seq _) hrest
    | param kind name =>
      cases kind with
      | K_PATH => exact absurd List.mem_cons_self (hparts name)
      | _ => exact congrArg (Regex.seq _) hrest

/-- What is left of a text for a path parameter has no newline. -/
def PathUnbroken (Obj : Type) (parts : List TextPart) (text : List Char) : Prop :=
  ∀ before name rest groups, parts = before ++ [.param .K_PATH name] →
    (parts_regex (fun _ => true) .empty before).greedy text = some (rest, groups) →
    (convert_groups groups : Option (List (Capture String Obj))).isSome = true → '\n' ∉ rest

/-- A path parameter at the end takes all of a text in which `.` accepts everything. -/
theorem greedy_path (dot : Char → Bool) (name : String) (rest : List Char) :
    (parts_regex dot .stop [.param .K_PATH name]).greedy rest =
      if rest ≠ [] ∧ rest.all dot = true then some ([], [((.K_PATH, name), rest)]) else none := by
  simp only [parts_regex, Regex.greedy, Kind.regex, List.all_eq_true]
  by_cases hall : ∀ c ∈ rest, dot c = true
  · rw [List.takeWhile_eq_self_iff.mpr hall, List.dropWhile_eq_nil_iff.mpr hall]
    by_cases hrest : rest = []
    · simp [hrest]
    · rw [if_neg hrest, if_pos ⟨hrest, hall⟩]
      simp
  · have hleft : rest.dropWhile dot ≠ [] := fun hnil => hall (List.dropWhile_eq_nil_iff.mp hnil)
    have hnot : ¬(rest ≠ [] ∧ ∀ c ∈ rest, dot c = true) := fun hboth => hall hboth.2
    rw [if_neg hnot]
    split
    · rfl
    · simp [hleft]

/-- The captures of all of a text, every parameter taking as much as it can. -/
def captured (Obj : Type) (dot : Char → Bool) (parts : List TextPart) (text : List Char) :
    Option (List (Capture String Obj)) :=
  ((parts_regex dot .stop parts).greedy text).bind fun found => convert_groups found.2

theorem captured_path (dot : Char → Bool) (before : List TextPart) (name : String)
    (text : List Char) :
    captured Obj dot (before ++ [.param .K_PATH name]) text =
      ((parts_regex dot .empty before).greedy text).bind fun found =>
        if found.1 ≠ [] ∧ found.1.all dot = true then
          (convert_groups found.2).map fun captures =>
            captures ++ [⟨name, String.ofList found.1, .str (String.ofList found.1)⟩]
        else none := by
  rw [captured, greedy_append, Option.bind_assoc]
  apply Option.bind_congr
  intro found _
  rw [greedy_path]
  split
  · rw [Option.map_some, Option.bind_some, convert_groups_append]
    cases (convert_groups found.2 : Option (List (Capture String Obj))) <;> rfl
  · rfl

/-- Whether `.` accepts a newline makes no difference to a text that is unbroken. -/
theorem captured_of_unbroken {parts : List TextPart} (hparts : GreedyParts parts)
    {text : List Char} (hunbroken : PathUnbroken Obj parts text) :
    captured Obj (fun _ => true) parts text = captured Obj no_newline parts text := by
  obtain hnone | ⟨before, name, rfl, hbefore⟩ := hparts.path_last
  · rw [captured, parts_regex_dot hnone _ no_newline, captured]
  · rw [captured_path, captured_path, parts_regex_dot hbefore no_newline fun _ => true]
    apply Option.bind_congr
    rintro ⟨rest, groups⟩ hfound
    cases hgroups : (convert_groups groups : Option (List (Capture String Obj))) with
    | none => simp
    | some captures =>
      have hline := hunbroken before name rest groups rfl hfound (by rw [hgroups]; rfl)
      have hall : rest.all no_newline = true := by
        rw [List.all_eq_true]
        intro c hc
        simp only [no_newline, bne_iff_ne]
        rintro rfl
        exact hline hc
      have hdot : (rest.all fun _ => true) = true := List.all_eq_true.mpr fun _ _ => rfl
      rw [hall, hdot]

/-- In a text that is broken the table captures a newline, and Django captures nothing. -/
theorem captured_of_broken {parts : List TextPart} (hparts : GreedyParts parts)
    {text : List Char} (hbroken : ¬PathUnbroken Obj parts text) :
    (captured Obj (fun _ => true) parts text).isSome = true ∧
      captured Obj no_newline parts text = none := by
  simp only [PathUnbroken, not_forall, not_not] at hbroken
  obtain ⟨before, name, rest, groups, rfl, hfound, hgroups, hnewline⟩ := hbroken
  obtain hnone | ⟨others, other, heq, hothers⟩ := hparts.path_last
  · exact absurd (by simp) (hnone name)
  · obtain ⟨rfl, hlast⟩ := List.append_inj' heq rfl
    have hrest : rest ≠ [] := List.ne_nil_of_mem hnewline
    have hnot : ¬∀ c ∈ rest, no_newline c = true := by
      intro hall
      have hc := hall _ hnewline
      simp [no_newline] at hc
    rw [captured_path, captured_path, parts_regex_dot hothers no_newline fun _ => true, hfound]
    simp [hrest, hnot, hgroups]

theorem text_components_written (route : String) (prev : Nat) (components : List Component)
    {parts : List TextPart} (hparts : text_components route prev components = some parts) :
    ∀ text, .lit text ∈ parts → text ≠ [] := by
  have hliteral : ∀ (piece : String) (text : List Char),
      .lit text ∈ text_literal piece → text ≠ [] := by
    intro piece text hmem
    unfold text_literal at hmem
    split at hmem
    · cases hmem
    · rename_i hpiece
      cases List.mem_singleton.mp hmem
      simpa using hpiece
  induction components generalizing prev parts with
  | nil =>
    cases hparts
    exact hliteral _
  | cons m rest ih =>
    simp only [text_components, Option.bind_eq_bind, Option.bind_eq_some_iff] at hparts
    obtain ⟨kind, -, later, hlater, heq⟩ := hparts
    cases heq
    intro text hmem
    rw [List.mem_append, List.mem_cons] at hmem
    obtain hfront | heq | hrest := hmem
    · exact hliteral _ text hfront
    · cases heq
    · exact ih m.stop hlater text hrest

/-- A leaf of the table: `_finalize` accepts what the routes of its includes and its own
one are split into. -/
def Chain.Built (finditer : String → List Component) (c : Chain View Obj) : Prop :=
  ∃ raws raw, (c.levels.map Level.route).mapM (parse_raw finditer) = some raws ∧
    parse_raw finditer c.route = some raw ∧ finalize (raws.flatten ++ raw) = some c.final

theorem parse_levels_eq_text (finditer : String → List Component) (routes : List String) :
    routes.mapM (parse_raw finditer) =
      (routes.mapM (text_parts finditer)).map (List.map (List.map TextPart.encode)) := by
  induction routes with
  | nil => rfl
  | cons route rest ih =>
    simp only [List.mapM_cons, ih, parse_raw_eq_text, Option.bind_eq_bind, Option.pure_def]
    cases text_parts finditer route with
    | none => rfl
    | some parts => cases rest.mapM (text_parts finditer) <;> rfl

theorem text_levels_written {finditer : String → List Component} {routes : List String}
    {raws : List (List TextPart)} (hraws : routes.mapM (text_parts finditer) = some raws) :
    ∀ text, .lit text ∈ raws.flatten → text ≠ [] := by
  induction routes generalizing raws with
  | nil =>
    rw [List.mapM_nil] at hraws
    cases hraws
    exact fun _ hmem => by cases hmem
  | cons route rest ih =>
    simp only [List.mapM_cons, Option.bind_eq_bind, Option.bind_eq_some_iff] at hraws
    obtain ⟨parts, hparts, later, hlater, heq⟩ := hraws
    cases heq
    intro text hmem
    rw [List.flatten_cons, List.mem_append] at hmem
    exact hmem.elim (text_components_written route 0 _ hparts text) (ih hlater text)

/-- What a leaf of the table captures is what the text of its parts, level by level, takes. -/
theorem Chain.Built.text {finditer : String → List Component} {c : Chain View Obj}
    (hbuilt : c.Built finditer) : ∃ raws raw,
      (c.levels.map Level.route).mapM (text_parts finditer) = some raws ∧
      text_parts finditer c.route = some raw ∧ GreedyParts (raws.flatten ++ raw) ∧
      ∀ text, capture_parts c.final (encode_chars text) =
        (captured Obj (fun _ => true) (raws.flatten ++ raw) text).map (List.map Capture.encode) := by
  obtain ⟨byte_raws, byte_raw, hlevels, hleaf, hfinal⟩ := hbuilt
  rw [parse_levels_eq_text, Option.map_eq_some_iff] at hlevels
  rw [parse_raw_eq_text, Option.map_eq_some_iff] at hleaf
  obtain ⟨raws, hraws, rfl⟩ := hlevels
  obtain ⟨raw, hraw, rfl⟩ := hleaf
  rw [← List.map_flatten, ← List.map_append] at hfinal
  have hwritten : LiteralsWritten ((raws.flatten ++ raw).map TextPart.encode) := by
    intro bytes hbytes
    obtain ⟨part, hpart, hencode⟩ := List.mem_map.mp hbytes
    cases part with
    | param kind name => cases hencode
    | lit text =>
      cases hencode
      rw [ne_eq, encode_chars_eq_nil]
      exact (List.mem_append.mp hpart).elim (text_levels_written hraws text)
        (text_components_written c.route 0 _ hraw text)
  obtain ⟨hgreedy, hcapture⟩ : _ ∧ ∀ data,
      (capture_parts c.final data : Option (List (Capture Bytes Obj))) = _ :=
    finalize_eq_some hwritten hfinal
  refine ⟨raws, raw, hraws, hraw, hgreedy, fun text => ?_⟩
  rw [hcapture, capture_parts_encode, captured, Option.map_bind]
  rfl

/-- What Django captures for a leaf of the table in the text behind the leading slash. -/
def Chain.django_captures (finditer : String → List Component) (c : Chain View Obj)
    (text : String) : Option (List (Capture String Obj)) :=
  level_captures finditer (c.levels.map Level.route) c.route text.toList

/-- The kwargs that the text behind the leading slash gives a leaf, where a path parameter
takes all that is left. -/
def Chain.text_kwargs (finditer : String → List Component) (c : Chain View Obj) (text : String) :
    Option (Kwargs Obj) := do
  let raws ← (c.levels.map Level.route).mapM (text_parts finditer)
  let raw ← text_parts finditer c.route
  let captures ← captured Obj (fun _ => true) (raws.flatten ++ raw) text.toList
  some ((assign captures .empty).update c.default_args)

/-- The table and Django's regexes agree on a leaf and a path: the same text is captured
for every parameter and converted to the same value, or both refuse the path. -/
def Chain.MatchAgrees (finditer : String → List Component) (iscoroutinefunction : View → Bool)
    (c : Chain View Obj) (text : String) : Prop :=
  capture_parts c.final (encode_utf8 text) =
      (c.django_captures finditer text).map (List.map Capture.encode) ∧
    (c.to_route iscoroutinefunction).try_match (encode_utf8 ("/" ++ text)) 1 =
      (c.django_captures finditer text).map fun captures =>
        (assign captures .empty).update c.default_args

/-- No path parameter of a leaf meets a newline: the parts before it take a text, with
values for what they capture, and leave one without a newline. -/
def Chain.PathUnbroken (finditer : String → List Component) (c : Chain View Obj)
    (text : String) : Prop :=
  ∀ raws raw, (c.levels.map Level.route).mapM (text_parts finditer) = some raws →
    text_parts finditer c.route = some raw →
    router.PathUnbroken Obj (raws.flatten ++ raw) text.toList

theorem Chain.pathUnbroken_iff {finditer : String → List Component} (c : Chain View Obj)
    {raws : List (List TextPart)} {raw : List TextPart}
    (hraws : (c.levels.map Level.route).mapM (text_parts finditer) = some raws)
    (hraw : text_parts finditer c.route = some raw) (text : String) :
    c.PathUnbroken finditer text ↔
      router.PathUnbroken Obj (raws.flatten ++ raw) text.toList := by
  constructor
  · exact fun hall => hall raws raw hraws hraw
  · intro hpath others other hothers hother
    rw [hraws] at hothers
    rw [hraw] at hother
    cases hothers
    cases hother
    exact hpath

theorem assign_encode (captures : List (Capture String Obj)) (kwargs : Kwargs Obj) :
    assign (captures.map Capture.encode) kwargs = assign captures kwargs := by
  rw [assign, List.foldl_map]
  rfl

/-- Behind the leading slash the parts of a route capture from the text. -/
theorem match_parts_slash (parts : List Part) (text : String) (kwargs : Kwargs Obj) :
    match_parts (encode_utf8 ("/" ++ text)) parts 1 kwargs =
      (capture_parts parts (encode_utf8 text)).map fun captures => assign captures kwargs := by
  have hslash : encode_utf8 ("/" ++ text) = 47 :: encode_utf8 text := by
    rw [encode_utf8, String.toList_append, List.flatMap_append]
    rfl
  rw [match_parts_eq _ _ (by rw [hslash]; exact Nat.le_add_left 1 _), hslash]
  rfl

/-- The parts of a leaf of the table store what its text gives. -/
theorem Chain.Built.text_kwargs_eq {finditer : String → List Component} {c : Chain View Obj}
    (hbuilt : c.Built finditer) (text : String) :
    c.text_kwargs finditer text =
      (match_parts (encode_utf8 ("/" ++ text)) c.final 1 .empty).map fun kw =>
        kw.update c.default_args := by
  obtain ⟨raws, raw, hraws, hraw, -, hcapture⟩ := hbuilt.text
  have htable : capture_parts c.final (encode_utf8 text) =
      (captured Obj (fun _ => true) (raws.flatten ++ raw) text.toList).map
        (List.map Capture.encode) := hcapture text.toList
  rw [match_parts_slash, htable, Option.map_map, Option.map_map, Chain.text_kwargs, hraws, hraw]
  simp only [Option.bind_eq_bind, Option.bind_some]
  cases captured Obj (fun _ => true) (raws.flatten ++ raw) text.toList with
  | none => rfl
  | some captures => simp [assign_encode]

/-- `try_match` stores what the parts of its route capture. -/
theorem try_match_eq_captures (iscoroutinefunction : View → Bool) (c : Chain View Obj)
    (text : String) :
    (c.to_route iscoroutinefunction).try_match (encode_utf8 ("/" ++ text)) 1 =
      (capture_parts c.final (encode_utf8 text)).map fun captures =>
        (assign captures .empty).update c.default_args := by
  rw [Route.try_match, match_parts_slash, Option.map_map]
  rfl

/-- The table matches a path as Django's regexes do exactly when no path parameter meets a
newline: its scan takes all of the path, and `.+` stops there. -/
theorem try_match_agrees_iff {finditer : String → List Component}
    (iscoroutinefunction : View → Bool) (c : Chain View Obj) (hbuilt : c.Built finditer)
    (text : String) :
    c.MatchAgrees finditer iscoroutinefunction text ↔ c.PathUnbroken finditer text := by
  obtain ⟨raws, raw, hraws, hraw, hparts, hcapture⟩ := hbuilt.text
  have hdjango : c.django_captures finditer text =
      captured Obj no_newline (raws.flatten ++ raw) text.toList :=
    level_captures_eq finditer _ _ hraws hraw hparts text.toList
  have htable : capture_parts c.final (encode_utf8 text) =
      (captured Obj (fun _ => true) (raws.flatten ++ raw) text.toList).map
        (List.map Capture.encode) := hcapture text.toList
  rw [c.pathUnbroken_iff hraws hraw, Chain.MatchAgrees, try_match_eq_captures, htable, hdjango]
  constructor
  · rintro ⟨hsame, -⟩
    by_contra hbroken
    obtain ⟨hsome, hnone⟩ := captured_of_broken hparts hbroken
    rw [hnone, Option.map_none, Option.map_eq_none_iff] at hsame
    rw [hsame] at hsome
    cases hsome
  · intro hpath
    rw [captured_of_unbroken hparts hpath, Option.map_map]
    refine ⟨rfl, ?_⟩
    congr 1
    funext captures
    rw [Function.comp_apply, assign_encode]

section

variable {Regex : Type} (finditer : String → List Component)

mutual

theorem leaves_entry_built {levels : List (Level Obj)} {raws : List (List Part)}
    (hraws : (levels.map Level.route).mapM (parse_raw finditer) = some raws)
    (prefix_route : String) : ∀ entry : UrlEntry View Obj Regex, ∀ c,
      some c ∈ leaves_entry finditer levels raws.flatten prefix_route entry → c.Built finditer
  | .url_pattern (.route route) callback default_args name => by
    intro c hc
    simp only [leaves_entry, List.mem_singleton] at hc
    obtain ⟨raw, hraw, hfinal⟩ := Option.bind_eq_some_iff.mp hc.symm
    obtain ⟨final, hparts, rfl⟩ := Option.map_eq_some_iff.mp hfinal
    exact ⟨raws, raw, hraws, hraw, hparts⟩
  | .url_pattern (.regex _) _ _ _ => by simp [leaves_entry]
  | .url_resolver (.route route) url_patterns default_kwargs => by
    intro c hc
    simp only [leaves_entry] at hc
    cases hraw : parse_raw finditer route with
    | none => simp [hraw] at hc
    | some raw =>
      let level : Level Obj := ⟨route, default_kwargs⟩
      have hall : ((levels ++ [level]).map Level.route).mapM (parse_raw finditer) =
          some (raws ++ [raw]) := by
        simp [level, hraws, hraw]
      have hbuilt := leaves_built hall (prefix_route ++ route) url_patterns c
      rw [List.flatten_concat] at hbuilt
      rw [hraw] at hc
      exact hbuilt hc
  | .url_resolver (.regex _) _ _ => by simp [leaves_entry]
  | .other _ => by simp [leaves_entry]

/-- Every leaf of the table is built so. -/
theorem leaves_built {levels : List (Level Obj)} {raws : List (List Part)}
    (hraws : (levels.map Level.route).mapM (parse_raw finditer) = some raws)
    (prefix_route : String) : ∀ entries : List (UrlEntry View Obj Regex), ∀ c,
      some c ∈ leaves finditer levels raws.flatten prefix_route entries → c.Built finditer
  | [] => by simp [leaves]
  | p :: rest => by
    intro c hc
    rw [leaves, List.mem_append] at hc
    obtain hentry | hrest := hc
    · exact leaves_entry_built hraws prefix_route p c hentry
    · exact leaves_built hraws prefix_route rest c hrest

end

end

/-- The component regex on `docs/` and `<path:page>`. -/
def docs_finditer (route : String) : List Component :=
  if route = "<path:page>" then [⟨0, 11, some "path", "page"⟩] else []

/-- The leaf of `path("docs/", include([path("<path:page>", view)]))`. -/
def docs_chain : Chain String Unit :=
  ⟨[⟨"docs/", .empty⟩], [.lit (ascii "docs/"), .param .K_PATH "page"], "docs/", "<path:page>",
    "view", .empty, none⟩

theorem docs_chain_built : docs_chain.Built docs_finditer :=
  ⟨[[.lit (ascii "docs/")]], [.param .K_PATH "page"], by decide +kernel, by decide +kernel,
    by decide +kernel⟩

theorem try_match_agrees_iff_docs :
    docs_chain.MatchAgrees docs_finditer (fun _ => false) "docs/a/b" ↔
      docs_chain.PathUnbroken docs_finditer "docs/a/b" :=
  try_match_agrees_iff (fun _ => false) docs_chain
    ⟨[[.lit (ascii "docs/")]], [.param .K_PATH "page"], by decide +kernel, by decide +kernel,
      by decide +kernel⟩ "docs/a/b"

/-- On `docs/a%0Ab` the table calls the view, and Django answers 404. -/
theorem path_parameter_takes_newline :
    ¬∀ (finditer : String → List Component) (c : Chain String Unit) (text : String),
      c.Built finditer → c.MatchAgrees finditer (fun _ => false) text := by
  intro hall
  obtain ⟨hsame, -⟩ := hall docs_finditer docs_chain "docs/a\nb" docs_chain_built
  revert hsame
  decide +kernel

end massless.router
