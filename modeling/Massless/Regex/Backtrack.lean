import Mathlib.Data.List.Basic

namespace regex

/-- Regular expressions with labelled groups, as far as they come without alternatives:
`many` is `[..]+`, greedy, and `stop` is the end of the text. -/
inductive Regex (L : Type) where
  | empty
  | char (accepts : Char → Bool)
  | many (accepts : Char → Bool)
  | seq (first second : Regex L)
  | group (label : L) (body : Regex L)
  | stop

/-- The texts of the groups closed so far. -/
abbrev Groups (L : Type) := List (L × List Char)

variable {L R : Type}

/-- One or more accepted characters, the longest run first; where `next` fails on what is
left, one character less is taken. -/
def many_from (accepts : Char → Bool) (next : List Char → Option R) : List Char → Option R
  | [] => none
  | c :: rest => if accepts c then (many_from accepts next rest).or (next rest) else none

/-- Backtracking: `next` is the rest of the pattern, and its failure makes an expression
try its next choice. -/
def Regex.run : Regex L → List Char → Groups L → (List Char → Groups L → Option R) → Option R
  | .empty, text, groups, next => next text groups
  | .char accepts, c :: rest, groups, next => if accepts c then next rest groups else none
  | .char _, [], _, _ => none
  | .many accepts, text, groups, next => many_from accepts (fun rest => next rest groups) text
  | .seq first second, text, groups, next =>
    first.run text groups fun rest groups => second.run rest groups next
  | .group label body, text, groups, next =>
    body.run text groups fun rest groups =>
      next rest (groups ++ [(label, text.take (text.length - rest.length))])
  | .stop, text, groups, next => if text = [] then next text groups else none

/-- The first match at the front of a text: what is left, and the groups. -/
def Regex.search (self : Regex L) (text : List Char) : Option (List Char × Groups L) :=
  self.run text [] fun rest groups => some (rest, groups)

/-- A match without backtracking: every run is taken whole, and no choice is tried again. -/
def Regex.greedy : Regex L → List Char → Option (List Char × Groups L)
  | .empty, text => some (text, [])
  | .char accepts, c :: rest => if accepts c then some (rest, []) else none
  | .char _, [] => none
  | .many accepts, text =>
    if text.takeWhile accepts = [] then none else some (text.dropWhile accepts, [])
  | .seq first second, text =>
    (first.greedy text).bind fun found =>
      (second.greedy found.1).map fun later => (later.1, found.2 ++ later.2)
  | .group label body, text =>
    (body.greedy text).map fun found =>
      (found.1, found.2 ++ [(label, text.take (text.length - found.1.length))])
  | .stop, text => if text = [] then some (text, []) else none

/-- A character for each of some classes. -/
def each : List (Char → Bool) → Regex L
  | [] => .empty
  | accepts :: rest => .seq (.char accepts) (each rest)

/-- The characters of a text, as `re.escape` gives them. -/
def escape (text : List Char) : Regex L := each (text.map fun c d => d = c)

/-- What is behind elements of some classes, one of each. -/
def front {A : Type} : List (A → Bool) → List A → Option (List A)
  | [], data => some data
  | accepts :: rest, a :: data => if accepts a then front rest data else none
  | _ :: _, [] => none

theorem run_each (classes : List (Char → Bool)) (text : List Char) (groups : Groups L)
    (next : List Char → Groups L → Option R) :
    (each classes).run text groups next = (front classes text).bind fun rest => next rest groups := by
  induction classes generalizing text with
  | nil => rfl
  | cons accepts rest ih =>
    cases text with
    | nil => rfl
    | cons c text =>
      rw [each, Regex.run, Regex.run, front]
      split
      · exact ih text
      · rfl

theorem front_eq (text data : List Char) :
    front (text.map fun c d => d = c) data =
      if text <+: data then some (data.drop text.length) else none := by
  induction text generalizing data with
  | nil => simp [front]
  | cons c text ih =>
    cases data with
    | nil => simp [front]
    | cons d data =>
      rw [List.map_cons, front, ih]
      by_cases hd : d = c
      · simp [hd, List.cons_prefix_cons]
      · simp [hd, Ne.symm hd, List.cons_prefix_cons]

theorem run_escape (literal text : List Char) (groups : Groups L)
    (next : List Char → Groups L → Option R) :
    (escape literal).run text groups next =
      if literal <+: text then next (text.drop literal.length) groups else none := by
  rw [escape, run_each, front_eq]
  split <;> rfl

/-- What some classes take is as long as they are many, and each of it is in one of them. -/
theorem front_eq_some {A : Type} {classes : List (A → Bool)} {data rest : List A}
    (hfront : front classes data = some rest) :
    ∃ taken, data = taken ++ rest ∧ taken.length = classes.length ∧
      ∀ a ∈ taken, ∃ accepts ∈ classes, accepts a = true := by
  induction classes generalizing data with
  | nil => exact ⟨[], (Option.some.inj hfront), rfl, by simp⟩
  | cons accepts later ih =>
    cases data with
    | nil => cases hfront
    | cons a data =>
      rw [front, Option.ite_none_right_eq_some] at hfront
      obtain ⟨ha, hlater⟩ := hfront
      obtain ⟨taken, rfl, hlength, htaken⟩ := ih hlater
      refine ⟨a :: taken, rfl, congrArg Nat.succ hlength, ?_⟩
      rw [List.forall_mem_cons]
      refine ⟨⟨accepts, List.mem_cons_self, ha⟩, fun b hb => ?_⟩
      obtain ⟨other, hother, hb_accepts⟩ := htaken b hb
      exact ⟨other, List.mem_cons_of_mem _ hother, hb_accepts⟩

/-- Classes match where each place of the data is in its own. -/
theorem front_places_iff {A : Type} (fallback : A) (place : Nat → A → Bool) (start count : Nat)
    (data : List A) :
    (front ((List.range' start count).map place) data).isSome = true ↔
      count ≤ data.length ∧ ∀ i < count, place (start + i) (data.getD i fallback) = true := by
  induction count generalizing start data with
  | zero => simp [front]
  | succ count ih =>
    rw [List.range'_succ, List.map_cons]
    cases data with
    | nil => simp [front]
    | cons a data =>
      rw [front, List.length_cons, Nat.add_le_add_iff_right, Nat.forall_lt_succ_left]
      simp only [Nat.add_zero, List.getD_cons_zero, List.getD_cons_succ]
      split
      · rename_i ha
        rw [ih]
        simp only [ha, true_and, Nat.add_assoc, Nat.add_comm 1]
      · rename_i ha
        simp [ha]

/-- A run is taken whole where less of it cannot do: what follows refuses a text that goes
on with the run, or has no need of one. -/
theorem many_from_eq {accepts : Char → Bool} {next : List Char → Option R}
    (hnext : ∀ c rest, accepts c = true →
      next (c :: rest) = none ∨ (next (rest.dropWhile accepts)).isSome = true)
    (text : List Char) :
    many_from accepts next text =
      if text.takeWhile accepts = [] then none else next (text.dropWhile accepts) := by
  induction text with
  | nil => rfl
  | cons c rest ih =>
    rw [many_from]
    by_cases hc : accepts c = true
    · rw [if_pos hc, ih, List.takeWhile_cons_of_pos hc, List.dropWhile_cons_of_pos hc,
        if_neg (List.cons_ne_nil _ _)]
      cases rest with
      | nil => rfl
      | cons d later =>
        by_cases hd : accepts d = true
        · rw [List.takeWhile_cons_of_pos hd, if_neg (List.cons_ne_nil _ _)]
          obtain hnone | hsome := hnext d later hd
          · rw [hnone, Option.or_none]
          · rw [List.dropWhile_cons_of_pos hd]
            exact Option.or_of_isSome hsome
        · rw [List.takeWhile_cons_of_neg hd, List.dropWhile_cons_of_neg hd, if_pos rfl,
            Option.none_or]
    · rw [if_neg hc, List.takeWhile_cons_of_neg hc, if_pos rfl]

/-- Before `next` an expression matches as it does without backtracking. -/
def Regex.Definite (self : Regex L) (next : List Char → Groups L → Option R) : Prop :=
  ∀ text groups, self.run text groups next =
    (self.greedy text).bind fun found => next found.1 (groups ++ found.2)

/-- What follows a run has no use for less of it: it refuses every text that goes on with
the run, or takes any text. -/
def Indifferent (accepts : Char → Bool) (next : List Char → Groups L → Option R) : Prop :=
  (∀ c rest groups, accepts c = true → next (c :: rest) groups = none) ∨
    ∀ text groups, (next text groups).isSome = true

theorem greedy_each (classes : List (Char → Bool)) (text : List Char) :
    (each classes : Regex L).greedy text = (front classes text).map fun rest => (rest, []) := by
  induction classes generalizing text with
  | nil => rfl
  | cons accepts rest ih =>
    cases text with
    | nil => rfl
    | cons c text =>
      rw [each, Regex.greedy, Regex.greedy, front]
      split
      · rw [Option.bind_some, ih]
        cases front rest text <;> rfl
      · rfl

theorem greedy_escape (literal text : List Char) :
    (escape literal : Regex L).greedy text =
      if literal <+: text then some (text.drop literal.length, []) else none := by
  rw [escape, greedy_each, front_eq]
  split <;> rfl

theorem definite_each (classes : List (Char → Bool)) (next : List Char → Groups L → Option R) :
    (each classes).Definite next := by
  intro text groups
  rw [run_each, greedy_each]
  cases front classes text with
  | none => rfl
  | some rest => simp

theorem definite_many {accepts : Char → Bool} {next : List Char → Groups L → Option R}
    (hnext : Indifferent accepts next) : (Regex.many accepts).Definite next := by
  intro text groups
  rw [Regex.run, Regex.greedy, many_from_eq]
  · split
    · rfl
    · simp
  · intro c rest hc
    exact hnext.imp (fun hrefuses => hrefuses c rest groups hc) fun htotal => htotal _ groups

theorem definite_seq {first second : Regex L} {next : List Char → Groups L → Option R}
    (hfirst : first.Definite fun rest groups => second.run rest groups next)
    (hsecond : second.Definite next) : (Regex.seq first second).Definite next := by
  intro text groups
  rw [Regex.run, hfirst, Regex.greedy, Option.bind_assoc]
  apply Option.bind_congr
  intro found _
  dsimp only
  rw [hsecond, Option.bind_map]
  simp only [Function.comp_def, List.append_assoc]

theorem definite_group {label : L} {body : Regex L} {next : List Char → Groups L → Option R}
    (hbody : ∀ text : List Char, body.Definite fun rest groups =>
      next rest (groups ++ [(label, text.take (text.length - rest.length))])) :
    (Regex.group label body).Definite next := by
  intro text groups
  rw [Regex.run, hbody text, Regex.greedy, Option.bind_map]
  simp only [Function.comp_def, List.append_assoc]

/-- A group does not make shorter runs useful. -/
theorem Indifferent.group {accepts : Char → Bool} {next : List Char → Groups L → Option R}
    (hnext : Indifferent accepts next) (label : L) (text : List Char) :
    Indifferent accepts fun rest groups =>
      next rest (groups ++ [(label, text.take (text.length - rest.length))]) :=
  hnext.imp (fun hrefuses c rest _ hc => hrefuses c rest _ hc) fun htotal _ _ => htotal _ _

end regex
