import Massless.Json.Value
import Massless.Python.Charset

open python

namespace json

/-- The digit of a number below 16. -/
def hex_char (n : Nat) : Char := if n < 10 then Char.ofNat (48 + n) else Char.ofNat (87 + n)

/-- A character between quotation marks. -/
def spell (c : Char) : List Char :=
  if c = '"' then ['\\', '"']
  else if c = '\\' then ['\\', '\\']
  else if c.toNat < 32 then ['\\', 'u', '0', '0', hex_char (c.toNat / 16), hex_char (c.toNat % 16)]
  else [c]

def quote (text : List Char) : List Char := '"' :: (text.flatMap spell ++ ['"'])

/-- The text up to the closing mark, and what follows it. -/
def unquote : List Char → Option (List Char × List Char)
  | '"' :: rest => some ([], rest)
  | '\\' :: 'u' :: a :: b :: c :: d :: rest => do
    let n ← hex_number a b c d
    let (text, after) ← unquote rest
    some (Char.ofNat n :: text, after)
  | '\\' :: e :: rest => do
    let c ← short_escape e
    let (text, after) ← unquote rest
    some (c :: text, after)
  | c :: rest =>
    if c = '\\' ∨ c.toNat < 32 then none
    else do
      let (text, after) ← unquote rest
      some (c :: text, after)
  | [] => none

/-- Texts with commas between them. -/
def commas : List (List Char) → List Char
  | [] => []
  | [part] => part
  | part :: other :: rest => part ++ ',' :: commas (other :: rest)

mutual

/-- A value as text, without blanks. -/
def print : Json Int → List Char
  | .null => "null".toList
  | .bool true => "true".toList
  | .bool false => "false".toList
  | .number n => (toString n).toList
  | .str text => quote text.toList
  | .arr items => '[' :: (commas (print_items items) ++ [']'])
  | .obj members => '{' :: (commas (print_members members) ++ ['}'])

def print_items : List (Json Int) → List (List Char)
  | [] => []
  | item :: rest => print item :: print_items rest

def print_members : List (String × Json Int) → List (List Char)
  | [] => []
  | (name, value) :: rest => (quote name.toList ++ ':' :: print value) :: print_members rest

end

/-- A character of a number or of a literal name. -/
def is_word (c : Char) : Bool := c.isAlphanum || c = '-'

/-- A decimal number. -/
def parse_nat (word : List Char) : Option Nat :=
  if word ≠ [] ∧ word.all Char.isDigit then some (Nat.ofDigitChars 10 word 0) else none

def parse_int : List Char → Option Int
  | '-' :: digits => (parse_nat digits).map fun n => -(n : Int)
  | digits => (parse_nat digits).map fun n => (n : Int)

/-- A literal name or a number. -/
def parse_word (word : List Char) : Option (Json Int) :=
  if word = "null".toList then some .null
  else if word = "true".toList then some (.bool true)
  else if word = "false".toList then some (.bool false)
  else (parse_int word).map .number

/-- Elements with commas between them, up to the closing mark. -/
def parse_list {A : Type} (close : Char) (element : List Char → Option (A × List Char)) :
    Nat → List Char → Option (List A × List Char)
  | 0, _ => none
  | count + 1, chars => do
    let (first, rest) ← element chars
    match rest with
    | [] => none
    | c :: rest =>
      if c = close then some ([first], rest)
      else if c = ',' then do
        let (later, rest) ← parse_list close element count rest
        some (first :: later, rest)
      else none

/-- The contents of a container: nothing, or elements. -/
def parse_container {A : Type} (close : Char) (element : List Char → Option (A × List Char))
    (chars : List Char) : Option (List A × List Char) :=
  if chars.head? = some close then some ([], chars.tail)
  else parse_list close element chars.length chars

/-- A name, a colon and a value. -/
def parse_member {A : Type} (element : List Char → Option (A × List Char)) :
    List Char → Option ((String × A) × List Char)
  | '"' :: chars => do
    let (name, rest) ← unquote chars
    match rest with
    | ':' :: rest => do
      let (value, rest) ← element rest
      some ((String.ofList name, value), rest)
    | _ => none
  | _ => none

/-- The value at the start of a text, and what follows it; every level of nesting takes
some fuel. -/
def parse : Nat → List Char → Option (Json Int × List Char)
  | 0, _ => none
  | fuel + 1, chars =>
    match chars with
    | [] => none
    | c :: rest =>
      if c = '"' then
        (unquote rest).map fun found => (.str (String.ofList found.1), found.2)
      else if c = '[' then
        (parse_container ']' (parse fuel) rest).map fun found => (.arr found.1, found.2)
      else if c = '{' then
        (parse_container '}' (parse_member (parse fuel)) rest).map fun found =>
          (.obj found.1, found.2)
      else
        (parse_word ((c :: rest).takeWhile is_word)).map fun value =>
          (value, (c :: rest).dropWhile is_word)

/-- A text that is one value. -/
def parse_text (chars : List Char) : Option (Json Int) := do
  let (value, rest) ← parse (chars.length + 1) chars
  if rest = [] then some value else none

/-- JSON with whole numbers, in UTF-8. -/
def text_codec : Codec Int where
  encode value := encode_chars (print value)
  decode data := (decode_utf8 data).bind fun text => parse_text text.toList

theorem hex_digit_hex_char : ∀ n < 16, hex_digit (hex_char n) = some n := by decide

theorem unquote_spell (c : Char) (rest : List Char) :
    unquote (spell c ++ rest) = (unquote rest).map fun found => (c :: found.1, found.2) := by
  unfold spell
  split
  · rename_i hquote
    subst hquote
    cases hrest : unquote rest <;> simp [unquote, short_escape, hrest]
  · split
    · rename_i hslash
      subst hslash
      cases hrest : unquote rest <;> simp [unquote, short_escape, hrest]
    · split
      · rename_i hcontrol
        have hzero : hex_digit '0' = some 0 := by decide
        have hhigh := hex_digit_hex_char (c.toNat / 16) (by omega)
        have hlow := hex_digit_hex_char (c.toNat % 16) (by omega)
        have hsum : (((0 * 16 + 0) * 16 + c.toNat / 16) * 16 + c.toNat % 16) = c.toNat := by omega
        have hnumber : hex_number '0' '0' (hex_char (c.toNat / 16)) (hex_char (c.toNat % 16)) =
            some c.toNat := by
          simp only [hex_number, hzero, hhigh, hlow, Option.bind_eq_bind, Option.bind_some, hsum]
        cases hrest : unquote rest <;> simp [unquote, hnumber, hrest, Char.ofNat_toNat]
      · rename_i hquote hslash hcontrol
        have hplain : unquote (c :: rest) = if c = '\\' ∨ c.toNat < 32 then none
            else (unquote rest).bind fun found => some (c :: found.1, found.2) := by
          rw [unquote]
          · rfl
          · exact hquote
          · exact fun _ _ _ _ _ heq => absurd heq hslash
          · exact fun _ _ heq => absurd heq hslash
        rw [List.singleton_append, hplain, if_neg (by tauto)]
        cases unquote rest <;> rfl

theorem unquote_quoted (text rest : List Char) :
    unquote (text.flatMap spell ++ '"' :: rest) = some (text, rest) := by
  induction text with
  | nil => rfl
  | cons c later ih =>
    rw [List.flatMap_cons, List.append_assoc, unquote_spell, ih]
    rfl

/-- What is unquoted was a spelling and its closing mark. -/
theorem unquote_spells {chars text rest : List Char} (hunquote : unquote chars = some (text, rest)) :
    ∃ spelled, chars = spelled ++ '"' :: rest ∧ Spells spelled text := by
  induction chars using unquote.induct generalizing text with
  | case1 after =>
    simp only [unquote, Option.some.injEq, Prod.mk.injEq] at hunquote
    obtain ⟨rfl, rfl⟩ := hunquote
    exact ⟨[], rfl, .nil⟩
  | case2 a b c d after ih =>
    simp only [unquote, Option.bind_eq_bind, Option.bind_eq_some_iff] at hunquote
    obtain ⟨n, hn, ⟨later, left⟩, hlater, heq⟩ := hunquote
    simp only [Option.some.injEq, Prod.mk.injEq] at heq
    obtain ⟨rfl, rfl⟩ := heq
    obtain ⟨spelled, rfl, hspells⟩ := ih hlater
    exact ⟨_, rfl, .unicode a b c d n spelled later hn hspells⟩
  | case3 e after hnot ih =>
    rw [unquote] at hunquote
    · simp only [Option.bind_eq_bind, Option.bind_eq_some_iff] at hunquote
      obtain ⟨c, hc, ⟨later, left⟩, hlater, heq⟩ := hunquote
      simp only [Option.some.injEq, Prod.mk.injEq] at heq
      obtain ⟨rfl, rfl⟩ := heq
      obtain ⟨spelled, rfl, hspells⟩ := ih hlater
      exact ⟨_, rfl, .short e c spelled later hc hspells⟩
    · exact hnot
  | case4 c after hquote hunicode hshort hbad =>
    rw [unquote, if_pos hbad] at hunquote
    · cases hunquote
    · exact hquote
    · exact hunicode
    · exact hshort
  | case5 c after hquote hunicode hshort hplain ih =>
    rw [unquote, if_neg hplain] at hunquote
    · simp only [Option.bind_eq_bind, Option.bind_eq_some_iff] at hunquote
      obtain ⟨⟨later, left⟩, hlater, heq⟩ := hunquote
      simp only [Option.some.injEq, Prod.mk.injEq] at heq
      obtain ⟨rfl, rfl⟩ := heq
      obtain ⟨spelled, rfl, hspells⟩ := ih hlater
      refine ⟨c :: spelled, rfl, .plain c spelled later ⟨?_, ?_, ?_⟩ hspells⟩
      · exact hquote
      · exact fun heq => hplain (.inl heq)
      · exact Nat.le_of_not_lt fun hlt => hplain (.inr hlt)
    · exact hquote
    · exact hunicode
    · exact hshort
  | case6 => cases hunquote

/-- No character of a word comes next. -/
def Ends (rest : List Char) : Prop := ∀ c ∈ rest.head?, is_word c = false

theorem ends_cons {c : Char} (rest : List Char) (hc : is_word c = false) : Ends (c :: rest) := by
  intro first hfirst
  rw [List.head?_cons, Option.mem_some] at hfirst
  exact hfirst ▸ hc

/-- A word that stands for a value is read to its end. -/
theorem parse_of_word {word rest : List Char} {value : Json Int} (fuel : Nat) (hne : word ≠ [])
    (hword : word.all is_word = true) (hends : Ends rest)
    (hvalue : parse_word word = some value) :
    parse (fuel + 1) (word ++ rest) = some (value, rest) := by
  rw [List.all_eq_true] at hword
  have hsplit : (word ++ rest).takeWhile is_word = word ∧ (word ++ rest).dropWhile is_word = rest := by
    rw [List.takeWhile_append_of_pos hword, List.dropWhile_append_of_pos hword]
    cases rest with
    | nil => simp
    | cons c later =>
      have hc := hends c rfl
      simp [hc]
  obtain ⟨c, later, rfl⟩ := List.exists_cons_of_ne_nil hne
  have hc := hword c List.mem_cons_self
  have hmark : ∀ mark, is_word mark = false → c ≠ mark := by
    rintro mark hmark rfl
    rw [hmark] at hc
    cases hc
  rw [List.cons_append] at hsplit ⊢
  rw [parse, hsplit.1, hsplit.2]
  simp only [hmark '"' (by decide), hmark '[' (by decide), hmark '{' (by decide), if_false, hvalue,
    Option.map_some]

theorem parse_word_nat (n : Nat) :
    (∀ c ∈ Nat.toDigits 10 n, is_word c = true) ∧ Nat.toDigits 10 n ≠ [] ∧
      parse_nat (Nat.toDigits 10 n) = some n := by
  have hdigits : ∀ c ∈ Nat.toDigits 10 n, c.isDigit = true := fun c hc =>
    Nat.isDigit_of_mem_toDigits (by decide) (by decide) hc
  refine ⟨fun c hc => ?_, Nat.toDigits_ne_nil, ?_⟩
  · simp [is_word, Char.isAlphanum, hdigits c hc]
  · rw [parse_nat, if_pos ⟨Nat.toDigits_ne_nil, List.all_eq_true.mpr hdigits⟩,
      Nat.ofDigitChars_ten_toDigits]

theorem parse_word_int (n : Int) :
    (∀ c ∈ (toString n).toList, is_word c = true) ∧ (toString n).toList ≠ [] ∧
      parse_word (toString n).toList = some (.number n) := by
  have hword : ∀ word, parse_int word = some n → (∀ name ∈ ["null".toList, "true".toList,
      "false".toList], parse_int name = none) → parse_word word = some (.number n) := by
    intro word hint hnames
    simp only [List.forall_mem_cons, List.not_mem_nil, false_implies, implies_true, and_true] at hnames
    have hother : ∀ name, parse_int name = none → word ≠ name := by
      rintro name hname rfl
      rw [hname] at hint
      cases hint
    rw [parse_word, if_neg (hother _ hnames.1), if_neg (hother _ hnames.2.1),
      if_neg (hother _ hnames.2.2), hint, Option.map_some]
  have hnames : ∀ name ∈ ["null".toList, "true".toList, "false".toList], parse_int name = none := by
    decide
  cases n with
  | ofNat n =>
    obtain ⟨hchars, hne, hparse⟩ := parse_word_nat n
    have htext : (toString (Int.ofNat n)).toList = Nat.toDigits 10 n := Nat.toList_repr
    have hint : parse_int (Nat.toDigits 10 n) = some (Int.ofNat n) := by
      rw [parse_int]
      · rw [hparse]
        rfl
      · intro digits hminus
        have hdigit : ('-' : Char).isDigit = true :=
          Nat.isDigit_of_mem_toDigits (by decide) (by decide) (hminus ▸ List.mem_cons_self)
        exact absurd hdigit (by decide)
    rw [htext]
    exact ⟨hchars, hne, hword _ hint hnames⟩
  | negSucc n =>
    obtain ⟨hchars, hne, hparse⟩ := parse_word_nat (n + 1)
    have htext : (toString (Int.negSucc n)).toList = '-' :: Nat.toDigits 10 (n + 1) := by
      have hrepr : toString (Int.negSucc n) = "-" ++ (n + 1).repr := rfl
      rw [hrepr, String.toList_append, Nat.toList_repr]
      rfl
    have hint : parse_int ('-' :: Nat.toDigits 10 (n + 1)) = some (Int.negSucc n) := by
      rw [parse_int, hparse]
      rfl
    rw [htext]
    refine ⟨?_, List.cons_ne_nil _ _, hword _ hint hnames⟩
    rw [List.forall_mem_cons]
    exact ⟨by decide, hchars⟩

/-- A list of elements is read to its closing mark. -/
theorem parse_list_commas {A : Type} {close : Char} (hclose : close ≠ ',')
    {element : List Char → Option (A × List Char)} {write : A → List Char} (rest : List Char)
    (items : List A) (count : Nat) (hne : items ≠ []) (hcount : items.length ≤ count)
    (helement : ∀ item ∈ items, ∀ c rest, c = ',' ∨ c = close →
      element (write item ++ c :: rest) = some (item, c :: rest)) :
    parse_list close element count (commas (items.map write) ++ close :: rest) =
      some (items, rest) := by
  induction items generalizing count with
  | nil => exact absurd rfl hne
  | cons item later ih =>
    rw [List.forall_mem_cons] at helement
    obtain ⟨count, rfl⟩ : ∃ fewer, count = fewer + 1 := ⟨count - 1, by
      rw [List.length_cons] at hcount
      omega⟩
    cases later with
    | nil =>
      have hitem := helement.1 close rest (.inr rfl)
      simp [parse_list, commas, hitem]
    | cons other later =>
      have hitem := helement.1 ',' (commas ((other :: later).map write) ++ close :: rest) (.inl rfl)
      have hlater := ih count (List.cons_ne_nil _ _) (Nat.le_of_succ_le_succ hcount) helement.2
      rw [List.map_cons, List.map_cons, commas, ← List.map_cons, List.append_assoc,
        List.cons_append, parse_list, hitem]
      simp only [Option.bind_eq_bind, Option.bind_some, hclose.symm, if_false, if_true, hlater]

theorem length_le_commas {parts : List (List Char)} (hparts : ∀ part ∈ parts, part ≠ []) :
    parts.length ≤ (commas parts).length ∧ ∀ part ∈ parts, part.length ≤ (commas parts).length := by
  induction parts with
  | nil => simp
  | cons part later ih =>
    rw [List.forall_mem_cons] at hparts
    obtain ⟨hcount, hlater⟩ := ih hparts.2
    have hpart := List.length_pos_iff.mpr hparts.1
    cases later with
    | nil =>
      simp only [commas, List.length_singleton, List.mem_singleton, forall_eq]
      omega
    | cons other later =>
      simp only [commas, List.length_append, List.length_cons] at hcount hlater ⊢
      constructor
      · omega
      · intro found hfound
        rcases List.mem_cons.mp hfound with rfl | hfound
        · omega
        · have hle := hlater found hfound
          omega

/-- A container is read to its closing mark. -/
theorem parse_container_commas {A : Type} {close : Char} (hclose : close ≠ ',')
    {element : List Char → Option (A × List Char)} {write : A → List Char} (rest : List Char)
    (items : List A) (hne : ∀ item ∈ items, write item ≠ [] ∧ (write item).head? ≠ some close)
    (helement : ∀ item ∈ items, ∀ c rest, c = ',' ∨ c = close →
      element (write item ++ c :: rest) = some (item, c :: rest)) :
    parse_container close element (commas (items.map write) ++ close :: rest) =
      some (items, rest) := by
  cases items with
  | nil => simp [parse_container, commas]
  | cons item later =>
    have hitem := hne item List.mem_cons_self
    obtain ⟨c, written, hwritten⟩ := List.exists_cons_of_ne_nil hitem.1
    have hhead : (commas ((item :: later).map write) ++ close :: rest).head? ≠ some close := by
      have hfirst : (commas ((item :: later).map write)).head? = some c := by
        cases later <;> simp [commas, hwritten]
      rw [List.head?_append, hfirst, Option.some_or]
      rw [hwritten] at hitem
      exact hitem.2
    have hparts : ∀ part ∈ (item :: later).map write, part ≠ [] := by
      intro part hpart
      obtain ⟨found, hfound, rfl⟩ := List.mem_map.mp hpart
      exact (hne found hfound).1
    have hlength := (length_le_commas hparts).1
    rw [parse_container, if_neg hhead]
    apply parse_list_commas hclose rest _ _ (List.cons_ne_nil _ _) _ helement
    rw [List.length_map] at hlength
    rw [List.length_append]
    omega

theorem print_items_eq (items : List (Json Int)) : print_items items = items.map print := by
  induction items with
  | nil => rfl
  | cons item rest ih => rw [print_items, ih, List.map_cons]

def print_member (part : String × Json Int) : List Char :=
  quote part.1.toList ++ ':' :: print part.2

theorem print_members_eq (members : List (String × Json Int)) :
    print_members members = members.map print_member := by
  induction members with
  | nil => rfl
  | cons part rest ih => rw [print_members, ih, List.map_cons, print_member]

/-- A printed value is not empty, and starts with no closing mark. -/
theorem print_start (value : Json Int) :
    print value ≠ [] ∧ (print value).head? ≠ some ']' ∧ (print value).head? ≠ some '}' := by
  cases value with
  | number n =>
    obtain ⟨hchars, hne, -⟩ := parse_word_int n
    obtain ⟨c, rest, hword⟩ := List.exists_cons_of_ne_nil hne
    have hc := hchars c (hword ▸ List.mem_cons_self)
    rw [print, hword]
    refine ⟨List.cons_ne_nil _ _, ?_, ?_⟩
    · rintro ⟨⟩
      exact absurd hc (by decide)
    · rintro ⟨⟩
      exact absurd hc (by decide)
  | bool value => cases value <;> decide
  | null => decide
  | _ => simp [print, quote]

theorem print_member_start (part : String × Json Int) :
    print_member part ≠ [] ∧ (print_member part).head? ≠ some '}' := by
  simp [print_member, quote]

/-- A printed member is read back when its value is. -/
theorem parse_member_print {element : List Char → Option (Json Int × List Char)}
    (part : String × Json Int) (rest : List Char)
    (helement : element (print part.2 ++ rest) = some (part.2, rest)) :
    parse_member element (print_member part ++ rest) = some (part, rest) := by
  have hname := unquote_quoted part.1.toList (':' :: (print part.2 ++ rest))
  simp only [print_member, quote, List.cons_append, List.append_assoc, List.nil_append,
    parse_member, hname, Option.bind_eq_bind, Option.bind_some, helement, String.ofList_toList]

/-- Between the parts of a container no word goes on. -/
theorem ends_between {close c : Char} (rest : List Char) (hclose : is_word close = false)
    (hc : c = ',' ∨ c = close) : Ends (c :: rest) := by
  obtain rfl | rfl := hc
  · exact ends_cons rest (by decide)
  · exact ends_cons rest hclose

/-- A printed value is read back, whatever follows it. -/
theorem parse_print (value : Json Int) : ∀ fuel, (print value).length ≤ fuel → ∀ rest, Ends rest →
    parse fuel (print value ++ rest) = some (value, rest) := by
  have hpositive : ∀ {value : Json Int} {fuel : Nat}, (print value).length ≤ fuel →
      ∃ fewer, fuel = fewer + 1 := by
    intro value fuel hfuel
    have hlength := List.length_pos_iff.mpr (print_start value).1
    exact ⟨fuel - 1, by omega⟩
  induction value using Json.parts_induction with
  | null =>
    intro fuel hfuel rest hends
    obtain ⟨fuel, rfl⟩ := hpositive hfuel
    exact parse_of_word fuel (by decide) (by decide) hends (by rfl)
  | bool value =>
    intro fuel hfuel rest hends
    obtain ⟨fuel, rfl⟩ := hpositive hfuel
    cases value with
    | true => exact parse_of_word fuel (by decide) (by decide) hends (by rfl)
    | false => exact parse_of_word fuel (by decide) (by decide) hends (by rfl)
  | number n =>
    intro fuel hfuel rest hends
    obtain ⟨fuel, rfl⟩ := hpositive hfuel
    obtain ⟨hchars, hne, hparse⟩ := parse_word_int n
    exact parse_of_word fuel hne (List.all_eq_true.mpr hchars) hends hparse
  | str text =>
    intro fuel hfuel rest hends
    obtain ⟨fuel, rfl⟩ := hpositive hfuel
    have hquoted := unquote_quoted text.toList rest
    simp only [print, quote, List.cons_append, List.append_assoc, List.nil_append, parse, if_true,
      hquoted, Option.map_some, String.ofList_toList]
  | arr items ih =>
    intro fuel hfuel rest hends
    obtain ⟨fuel, rfl⟩ := hpositive hfuel
    rw [print, print_items_eq, List.length_cons, List.length_append] at hfuel
    have hstart : ∀ item ∈ items, print item ≠ [] ∧ (print item).head? ≠ some ']' :=
      fun item _ => ⟨(print_start item).1, (print_start item).2.1⟩
    have hparts : ∀ part ∈ items.map print, part ≠ [] :=
      List.forall_mem_map.mpr fun item hitem => (hstart item hitem).1
    have hlength := (length_le_commas hparts).2
    have hcontainer := parse_container_commas (by decide) rest items hstart
      fun item hitem c later hc => ih item hitem fuel
        (by have hle := hlength _ (List.mem_map_of_mem hitem); omega) _
        (ends_between later (by decide) hc)
    simp only [print, print_items_eq, List.cons_append, List.append_assoc, List.nil_append, parse,
      hcontainer]
    rfl
  | obj members ih =>
    intro fuel hfuel rest hends
    obtain ⟨fuel, rfl⟩ := hpositive hfuel
    rw [print, print_members_eq, List.length_cons, List.length_append] at hfuel
    have hparts : ∀ part ∈ members.map print_member, part ≠ [] :=
      List.forall_mem_map.mpr fun part _ => (print_member_start part).1
    have hlength := (length_le_commas hparts).2
    have hcontainer := parse_container_commas (by decide) rest members
      (fun part _ => print_member_start part)
      fun part hpart c later hc => parse_member_print part _ (ih part hpart fuel
        (by
          have hle := hlength _ (List.mem_map_of_mem hpart)
          rw [print_member, List.length_append, List.length_cons] at hle
          omega) _ (ends_between later (by decide) hc))
    simp only [print, print_members_eq, List.cons_append, List.append_assoc, List.nil_append, parse,
      hcontainer]
    rfl

theorem text_codec_round_trip (value : Json Int) :
    text_codec.decode (text_codec.encode value) = some value := by
  have hparse := parse_print value ((print value).length + 1) (Nat.le_succ _) []
    (fun c hc => by cases hc)
  rw [List.append_nil] at hparse
  simp only [text_codec, decode_encode_chars, Option.bind_some, String.toList_ofList, parse_text,
    hparse, Option.bind_eq_bind, if_true]

theorem parse_word_not_str (word : List Char) (text : String) :
    parse_word word ≠ some (.str text) := by
  intro hword
  rw [parse_word] at hword
  split at hword
  · cases hword
  · split at hword
    · cases hword
    · split at hword
      · cases hword
      · obtain ⟨n, -, heq⟩ := Option.map_eq_some_iff.mp hword
        cases heq

/-- Only a quoted text is read as a string. -/
theorem parse_str {fuel : Nat} {chars rest : List Char} {text : String}
    (hparse : parse fuel chars = some (.str text, rest)) :
    ∃ spelled, chars = '"' :: (spelled ++ '"' :: rest) ∧ Spells spelled text.toList := by
  cases fuel with
  | zero => cases hparse
  | succ fuel =>
    cases chars with
    | nil => cases hparse
    | cons c later =>
      rw [parse] at hparse
      split at hparse
      · rename_i hmark
        obtain ⟨⟨found, after⟩, hfound, heq⟩ := Option.map_eq_some_iff.mp hparse
        simp only [Prod.mk.injEq, Json.str.injEq] at heq
        obtain ⟨rfl, rfl⟩ := heq
        obtain ⟨spelled, rfl, hspells⟩ := unquote_spells hfound
        refine ⟨spelled, by rw [hmark], ?_⟩
        rwa [String.toList_ofList]
      · split at hparse
        · obtain ⟨found, -, heq⟩ := Option.map_eq_some_iff.mp hparse
          cases heq
        · split at hparse
          · obtain ⟨found, -, heq⟩ := Option.map_eq_some_iff.mp hparse
            cases heq
          · obtain ⟨found, hword, heq⟩ := Option.map_eq_some_iff.mp hparse
            obtain ⟨rfl, -⟩ := Prod.mk.inj heq
            exact absurd hword (parse_word_not_str _ text)

theorem text_codec_strings_quoted : text_codec.StringsQuoted := by
  intro data text hdecode
  obtain ⟨source, hsource, hparse⟩ := Option.bind_eq_some_iff.mp hdecode
  have hdata := (decode_utf8_iff data source).mp hsource
  simp only [parse_text, Option.bind_eq_bind, Option.bind_eq_some_iff] at hparse
  obtain ⟨⟨value, rest⟩, hvalue, hend⟩ := hparse
  obtain ⟨rfl, hsame⟩ := Option.ite_none_right_eq_some.mp hend
  cases hsame
  obtain ⟨spelled, hchars, hspells⟩ := parse_str hvalue
  exact ⟨source.toList, hdata, [], spelled, [], hchars, hspells⟩

end json
