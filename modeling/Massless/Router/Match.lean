import Massless.Python.Dict
import Massless.Router.Parts

open python

namespace massless.router

/-- A value handed to a view by keyword. The first three come from converters;
`obj` is any other object, as a default kwarg may hold. -/
inductive Value (Obj : Type) where
  | int (value : Nat)
  | str (value : String)
  | uuid (int : Nat)
  | obj (object : Obj)
  deriving DecidableEq, Repr

abbrev Kwargs (Obj : Type) := Dict String (Value Obj)

/-- `_match_uuid`: 36 bytes from `s` on in the lower-case 8-4-4-4-12 form. -/
def match_uuid (path : Bytes) (s plen : Nat) : Bool :=
  if s + 36 > plen then false
  else (List.range 36).all fun i =>
    if i = 8 ∨ i = 13 ∨ i = 18 ∨ i = 23 then path.getD (s + i) 0 == 45
    else is_lower_hex (path.getD (s + i) 0)

/-- How many bytes from `cur` on satisfy `accept`: the scanning loop
`while cur < plen and accept(buf[cur])`. -/
def scan (accept : UInt8 → Bool) (path : Bytes) (cur : Nat) : Nat :=
  ((path.drop cur).takeWhile accept).length

/-- Where a parameter of this kind that starts at `cur` ends, or `none` where
`try_match` gives up. -/
def param_end (kind : Kind) (path : Bytes) (cur : Nat) : Option Nat :=
  let plen := path.length
  let stop := match kind with
    | .K_INT => some (cur + scan is_digit path cur)
    | .K_STR => some (cur + scan (fun c => c != 47) path cur)
    | .K_SLUG => some (cur + scan is_slug path cur)
    | .K_PATH => some plen
    | .K_UUID => if match_uuid path cur plen then some (cur + 36) else none
  match stop with
  | none => none
  | some stop => if stop = cur then none else some stop

/-- `int(digits)`, which refuses more digits than `sys.get_int_max_str_digits()`. -/
def int_of_digits (digits : Bytes) : Option Nat :=
  if digits.length > 4300 then none
  else some (digits.foldl (fun n c => 10 * n + (c.toNat - 48)) 0)

/-- The 128-bit integer of a UUID text, its hyphens skipped. -/
def uuid_int (text : Bytes) : Nat :=
  (text.filter (fun c => c != 45)).foldl
    (fun n c => 16 * n + if is_digit c then c.toNat - 48 else c.toNat - 87) 0

/-- The conversion of captured bytes; `none` where the source catches an error. -/
def convert {Obj : Type} (kind : Kind) (val : Bytes) : Option (Value Obj) :=
  match kind with
  | .K_INT => (int_of_digits val).map .int
  | .K_UUID => some (.uuid (uuid_int val))
  | .K_STR | .K_SLUG | .K_PATH => (decode_utf8 val).map .str

structure Route (View Obj : Type) where
  parts : List Part
  callback : View
  is_async : Bool
  default_args : Kwargs Obj
  route_str : String
  name : Option String

/-- The loop of `Route.try_match` over the remaining parts, ending with the
final `cur != plen` test. -/
def match_parts {Obj : Type} (path : Bytes) : List Part → Nat → Kwargs Obj → Option (Kwargs Obj)
  | [], cur, kwargs => if cur = path.length then some kwargs else none
  | .lit bytes :: rest, cur, kwargs =>
    if bytes.isPrefixOf (path.drop cur) then match_parts path rest (cur + bytes.length) kwargs
    else none
  | .param kind name :: rest, cur, kwargs => do
    let stop ← param_end kind path cur
    let value ← convert kind ((path.drop cur).take (stop - cur))
    match_parts path rest stop (kwargs.set name value)

/-- `Route.try_match(path, off, len(path))` -/
def Route.try_match {View Obj : Type} (self : Route View Obj) (path : Bytes) (off : Nat) :
    Option (Kwargs Obj) :=
  (match_parts path self.parts off .empty).map fun kwargs => kwargs.update self.default_args

/-- The tuple `Router.match` returns. -/
structure Match (View Obj : Type) where
  callback : View
  args : List (Value Obj)
  kwargs : Kwargs Obj
  route_str : String
  is_async : Bool

/-- The loop of `Router.match`; an opaque entry is `none`. -/
def match_entries {View Obj : Type} (path : Bytes) :
    List (Option (Route View Obj)) → Option (Match View Obj)
  | [] => none
  | none :: _ => none
  | some r :: rest =>
    match r.try_match path 1 with
    | some kw => some ⟨r.callback, [], kw, r.route_str, r.is_async⟩
    | none => match_entries path rest

structure Router (View Obj : Type) where
  entries : List (Option (Route View Obj))

/-- `Router.match` -/
def Router.match {View Obj : Type} (self : Router View Obj) (path : Bytes) :
    Option (Match View Obj) :=
  if path.head? = some 47 then match_entries path self.entries else none

end massless.router
