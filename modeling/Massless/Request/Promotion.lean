import Massless.Request.Wsgi

open python

namespace massless.request

variable {Obj : Type}

namespace MasslessRequest

/-- `MasslessRequest.__init__`, `none` where reading the core raises. The slot
`_core` never changes, so it is not kept in the instance. -/
def new (urllib : Urllib) (core : RequestCore) : Option (Attrs Obj) := do
  let method ← core.method_str
  let path ← core.path_str urllib
  let dict : Dict String (Val Obj) := Dict.empty
    |>.set "path_params" (.py .none)
    |>.set "method" (.py (.str method))
    |>.set "path" (.py (.str path))
    |>.set "path_info" (.py (.str path))
    |>.set "_is_django" (.py (.bool false))
    |>.set "auth" (.py .none)
    |>.set "_user" (.py .none)
  some ⟨dict, 0⟩

/-- `self._is_django` -/
def is_django : Py (Attrs Obj) Bool := Py.gets fun self =>
  match self.dict.get? "_is_django" with
  | some (.py (.bool latch)) => latch
  | _ => false

/-- The body of `GET` and `COOKIES`: a new value is kept in a private slot. -/
def cached_in (slot : String) (func : Py (Attrs Obj) (PyVal Obj)) : Py (Attrs Obj) (Val Obj) := do
  match ← Instance.get_item slot with
  | none | some (.py .none) =>
    let cached ← func
    Instance.set_item slot (.py cached)
    pure (.py cached)
  | some cached => pure cached

def GET (django : Django Obj) (ensure_promoted : Py (Attrs Obj) Unit) :
    Py (Attrs Obj) (Val Obj) := do
  ensure_promoted
  cached_in "_get_cache" (GET_func django)

/-- The deleter of `GET`. -/
def del_GET : Py (Attrs Obj) Unit := Instance.pop_item "_get_cache"

/-- The setter of `encoding`. -/
def set_encoding (django : Django Obj) (ensure_promoted : Py (Attrs Obj) Unit)
    (value : PyVal Obj) : Py (Attrs Obj) Unit := do
  ensure_promoted
  encoding_fset (GET django ensure_promoted) del_GET value

/-- `_promote`. The latch is set first, so `_ensure_promoted` returns at once in
the properties that the constructor goes through. -/
def promote (django : Django Obj) (urllib : Urllib) (core : RequestCore) :
    Py (Attrs Obj) Unit := do
  Instance.set_item "_is_django" (.py (.bool true))
  match ← Instance.get_item "method" with
  | some (.py method) =>
    wsgi_init django (set_encoding django (pure ())) method (core.environ_vars urllib) core.body
  | _ => Py.raise (.AttributeError "method")

/-- `_ensure_promoted` -/
def ensure_promoted (django : Django Obj) (urllib : Urllib) (core : RequestCore) :
    Py (Attrs Obj) Unit := do
  if ← is_django then pure () else promote django urllib core

/-- Properties without a setter. -/
def read_only : List String := ["GET", "POST", "COOKIES", "FILES", "body", "headers", "scheme"]

/-- `request.<name> = value` -/
def set_attr (django : Django Obj) (urllib : Urllib) (core : RequestCore) (name : String)
    (value : PyVal Obj) : Py (Attrs Obj) Unit :=
  if name = "user" then Instance.set_item "_user" (.py value)
  else if name = "encoding" then set_encoding django (ensure_promoted django urllib core) value
  else if name ∈ read_only then Py.raise (.AttributeError name)
  else if name = "upload_handlers" then do
    match ← Instance.get_item "_files" with
    | some _ => Py.raise (.AttributeError name)
    | none => Instance.set_item "_upload_handlers" (.py value)
  else Instance.set_item name (.py value)

end MasslessRequest

namespace WSGIRequest

/-- `cached_property`: the value sits in the instance dictionary under the name
of the property, where reads find it first. -/
def cached_property (name : String) (func : Py (Attrs Obj) (PyVal Obj)) :
    Py (Attrs Obj) (Val Obj) := do
  match ← Instance.get_item name with
  | some cached => pure cached
  | none =>
    let cached ← func
    Instance.set_item name (.py cached)
    pure (.py cached)

def GET (django : Django Obj) : Py (Attrs Obj) (Val Obj) := cached_property "GET" (GET_func django)

def del_GET : Py (Attrs Obj) Unit := Instance.pop_item "GET"

def set_encoding (django : Django Obj) (value : PyVal Obj) : Py (Attrs Obj) Unit :=
  encoding_fset (GET django) del_GET value

/-- A stock request built up front from the environ of an untouched request. -/
def build (django : Django Obj) (urllib : Urllib) (core : RequestCore) (method : String) :
    Except Exc Unit × Attrs Obj :=
  wsgi_init django (set_encoding django) (.str method) (core.environ_vars urllib) core.body
    ⟨.empty, 0⟩

end WSGIRequest

end massless.request
