import Massless.Python.Bytes

open python

namespace massless.router

/-- The parameter kinds of the table; literal parts are a constructor of `Part`. -/
inductive Kind where
  | K_INT
  | K_STR
  | K_SLUG
  | K_UUID
  | K_PATH
  deriving DecidableEq, Repr

/-- `_KIND`: the built-in converters the table can represent. -/
def KIND : String → Option Kind
  | "int" => some .K_INT
  | "str" => some .K_STR
  | "slug" => some .K_SLUG
  | "uuid" => some .K_UUID
  | "path" => some .K_PATH
  | _ => none

/-- One `(kind, literal, name)` triple: a literal has bytes and no name, a
parameter has a name and no bytes. -/
inductive Part where
  | lit (bytes : Bytes)
  | param (kind : Kind) (name : String)
  deriving DecidableEq, Repr

/-- One match of Django's `_PATH_PARAMETER_COMPONENT_RE` in a route: its span
and its two groups. -/
structure Component where
  start : Nat
  stop : Nat
  converter : Option String
  parameter : String
  deriving DecidableEq, Repr

/-- The part for a stretch of literal text; empty literals are dropped. -/
def literal_part (text : String) : List Part :=
  if text.isEmpty then [] else [.lit (encode_utf8 text)]

/-- The loop of `_parse_raw` from the position `prev`. -/
def parse_components (route : String) (prev : Nat) : List Component → Option (List Part)
  | [] => some (literal_part (slice route prev route.length))
  | m :: rest => do
    let kind ← KIND (m.converter.getD "str")
    let parts ← parse_components route m.stop rest
    some (literal_part (slice route prev m.start) ++ .param kind m.parameter :: parts)

/-- `_parse_raw`, with the regex matcher `finditer` as a parameter: `none` for
a route with an unknown converter. -/
def parse_raw (finditer : String → List Component) (route : String) : Option (List Part) :=
  parse_components route 0 (finditer route)

/-- One step of the merging loop of `_finalize`. -/
def merge_part (merged : List Part) (part : Part) : List Part :=
  match part, merged.getLast? with
  | .lit second, some (.lit first) => merged.dropLast ++ [.lit (first ++ second)]
  | _, _ => merged ++ [part]

def is_digit (c : UInt8) : Bool := 48 ≤ c && c ≤ 57

/-- `_is_slug` -/
def is_slug (c : UInt8) : Bool :=
  (48 ≤ c && c ≤ 57) || (65 ≤ c && c ≤ 90) || (97 ≤ c && c ≤ 122) || c == 45 || c == 95

/-- `_is_lower_hex` -/
def is_lower_hex (c : UInt8) : Bool := (48 ≤ c && c ≤ 57) || (97 ≤ c && c ≤ 102)

/-- The greedy scan of a parameter of this kind stops at a literal starting
with `c`. A uuid takes a fixed number of bytes, so any literal may follow. -/
def stops_at (kind : Kind) (c : UInt8) : Bool :=
  match kind with
  | .K_INT => !is_digit c
  | .K_STR => c == 47
  | .K_SLUG => !is_slug c
  | .K_UUID => true
  | .K_PATH => false

/-- The boundary checks of `_finalize` over the merged parts. -/
def boundaries_ok : List Part → Bool
  | [] => true
  | .lit _ :: rest => boundaries_ok rest
  | [.param _ _] => true
  | .param _ _ :: .param _ _ :: _ => false
  | .param kind _ :: .lit bytes :: rest =>
    (bytes.head?.any (stops_at kind)) && boundaries_ok rest

/-- `_finalize`: merge adjacent literals, and refuse a route whose greedy scan
could differ from regex backtracking. -/
def finalize (parts : List Part) : Option (List Part) :=
  let merged := parts.foldl merge_part []
  if boundaries_ok merged then some merged else none

end massless.router
