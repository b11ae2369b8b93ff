import Massless.Python.Effect
import Massless.Request.Core

open python

namespace massless.request

/-- A value that code outside the constructor can hold: a constant or an object
that exists already, told apart by its identity. -/
inductive PyVal (Obj : Type) where
  | none
  | bool (value : Bool)
  | str (value : String)
  | object (id : Nat) (content : Obj)
  deriving DecidableEq, Repr

/-- A value of an instance attribute. The other constructors are the objects
that `WSGIRequest.__init__` makes afresh: the environ dictionary, the parsed
content-type parameters and the body stream, with the encodings under which the
form loader has run on it so far. -/
inductive Val (Obj : Type) where
  | py (value : PyVal Obj)
  | environ (request_method : PyVal Obj) (vars : Dict String String) (wsgi_input : Bytes)
  | content_params (params : Dict String String)
  | stream (body : Bytes) (loads : List (PyVal Obj))

/-- The attributes of a request instance. -/
abbrev Attrs (Obj : Type) := Instance (Val Obj)

/-- What `_load_post_and_files` did: it sets `_post`, and may raise with or
without setting it. -/
inductive Load (Obj : Type) where
  | loaded (post : Obj)
  | failed (post : Option Obj) (error : String)

/-- What the request classes call in Django and in the standard library. The
decoders are given the environ variables, and the form loader of a `POST` also
the body and the encodings of this and all earlier loads, the latest first.
Their errors are exception classes other than `AttributeError`. A `QueryDict` of
nothing only has its encoding. -/
structure Django (Obj : Type) where
  get_script_name : Dict String String → String
  get_path_info : Dict String String → String
  str_upper : String → String
  parse_header_parameters : String → String × Dict String String
  codecs_lookup : String → Bool
  query_dict : Dict String String → PyVal Obj → Except String Obj
  empty_query_dict : PyVal Obj → Obj
  parse_cookie : Dict String String → Except String Obj
  load_post : Dict String String → Bytes → List (PyVal Obj) → Load Obj

variable {Obj : Type}

/-- The environ a request was built from, as its attribute `environ` holds it. -/
def environ_vars : Py (Attrs Obj) (Dict String String) := do
  match ← Instance.get_item "environ" with
  | some (.environ _ vars _) => pure vars
  | _ => Py.raise (.AttributeError "environ")

/-- `self._encoding`, which the class defines as `None`. -/
def encoding_value : Py (Attrs Obj) (PyVal Obj) := do
  match ← Instance.get_item "_encoding" with
  | some (.py value) => pure value
  | _ => pure .none

/-- `WSGIRequest.GET.func(self)`: a new `QueryDict` under the current encoding. -/
def GET_func (django : Django Obj) : Py (Attrs Obj) (PyVal Obj) := do
  let vars ← environ_vars
  let encoding ← encoding_value
  let content ← Py.lift ((django.query_dict vars encoding).mapError .other)
  let id ← Instance.fresh
  pure (.object id content)

/-- `WSGIRequest.COOKIES.func(self)`: the parsed cookies, as a new object. -/
def COOKIES_func (django : Django Obj) : Py (Attrs Obj) (PyVal Obj) := do
  let vars ← environ_vars
  let content ← Py.lift ((django.parse_cookie vars).mapError .other)
  let id ← Instance.fresh
  pure (.object id content)

/-- `self._post = post`, for a new object. -/
def set_new_post (post : Obj) : Py (Attrs Obj) Unit := do
  let id ← Instance.fresh
  Instance.set_item "_post" (.py (.object id post))

/-- `self.method == "POST"` -/
def is_post : Option (Val Obj) → Bool
  | some (.py (.str method)) => method = "POST"
  | _ => false

/-- The form of a `POST`, out of the stream. -/
def load_form (django : Django Obj) : Py (Attrs Obj) Unit := do
  match ← Instance.get_item "_read_started" with
  | none => Py.raise (.AttributeError "_read_started")
  | some _ =>
    let vars ← environ_vars
    let encoding ← encoding_value
    match ← Instance.get_item "_stream" with
    | some (.stream body loads) =>
      Instance.set_item "_stream" (.stream body (encoding :: loads))
      match django.load_post vars body (encoding :: loads) with
      | .loaded post => set_new_post post
      | .failed post error =>
        match post with
        | some post => set_new_post post
        | none => pure ()
        Py.raise (.other error)
    | _ => Py.raise (.AttributeError "_stream")

/-- `_load_post_and_files`: no other method has a form. -/
def load_post_and_files (django : Django Obj) : Py (Attrs Obj) Unit := do
  let method ← Instance.get_item "method"
  if is_post method then load_form django
  else do
    let encoding ← encoding_value
    set_new_post (django.empty_query_dict encoding)

/-- `WSGIRequest._get_post` -/
def get_post (django : Django Obj) : Py (Attrs Obj) (Val Obj) := do
  match ← Instance.get_item "_post" with
  | some post => pure post
  | none =>
    load_post_and_files django
    match ← Instance.get_item "_post" with
    | some post => pure post
    | none => Py.raise (.AttributeError "_post")

/-- `HttpRequest.encoding.fset`, through the `GET` property and its deleter of
the class at hand. -/
def encoding_fset {A : Type} (GET : Py (Attrs Obj) A) (del_GET : Py (Attrs Obj) Unit)
    (value : PyVal Obj) : Py (Attrs Obj) Unit := do
  Instance.set_item "_encoding" (.py value)
  if ← Py.hasattr GET then del_GET
  match ← Instance.get_item "_post" with
  | some _ => Instance.pop_item "_post"
  | none => pure ()

/-- `self.method = environ["REQUEST_METHOD"].upper()` -/
def upper_method (django : Django Obj) (request_method : PyVal Obj) :
    Except Exc (PyVal Obj) :=
  match request_method with
  | .str method => .ok (.str (django.str_upper method))
  | _ => .error (.AttributeError "upper")

/-- The path info of an environ: an empty one is read as `/`. -/
def Django.path_info (django : Django Obj) (vars : Dict String String) : String :=
  if django.get_path_info vars = "" then "/" else django.get_path_info vars

/-- `script_name.rstrip("/")` -/
def rstrip_slash (text : String) : String :=
  String.ofList (text.toList.reverse.dropWhile (· = '/')).reverse

/-- `path_info.replace("/", "", 1)` -/
def drop_first_slash : List Char → List Char
  | [] => []
  | c :: rest => if c = '/' then rest else c :: drop_first_slash rest

def Django.full_path (django : Django Obj) (vars : Dict String String) : String :=
  rstrip_slash (django.get_script_name vars) ++ "/" ++
    String.ofList (drop_first_slash (django.path_info vars).toList)

/-- `META`: the same dictionary with the two entries the constructor stores. -/
def Django.meta_vars (django : Django Obj) (vars : Dict String String) : Dict String String :=
  (vars.set "PATH_INFO" (django.path_info vars)).set "SCRIPT_NAME" (django.get_script_name vars)

/-- The content type header parsed into its type and parameters. -/
def Django.content_type (django : Django Obj) (vars : Dict String String) :
    String × Dict String String :=
  django.parse_header_parameters ((vars.get? "CONTENT_TYPE").getD "")

/-- The charset the constructor assigns to `self.encoding`: one that the content
type names and Python has a codec for. -/
def Django.charset (django : Django Obj) (vars : Dict String String) : Option String :=
  ((django.content_type vars).2.get? "charset").filter django.codecs_lookup

/-- `WSGIRequest.__init__(environ)`, with the `encoding` setter of the class
that runs it. -/
def wsgi_init (django : Django Obj) (set_encoding : PyVal Obj → Py (Attrs Obj) Unit)
    (request_method : PyVal Obj) (vars : Dict String String) (body : Bytes) :
    Py (Attrs Obj) Unit := do
  let environ := Val.environ request_method (django.meta_vars vars) body
  Instance.set_item "environ" environ
  Instance.set_item "path_info" (.py (.str (django.path_info vars)))
  Instance.set_item "path" (.py (.str (django.full_path vars)))
  Instance.set_item "META" environ
  let method ← Py.lift (upper_method django request_method)
  Instance.set_item "method" (.py method)
  Instance.set_item "content_type" (.py (.str (django.content_type vars).1))
  Instance.set_item "content_params" (.content_params (django.content_type vars).2)
  match django.charset vars with
  | some charset => set_encoding (.str charset)
  | none => pure ()
  Instance.set_item "_stream" (.stream body [])
  Instance.set_item "_read_started" (.py (.bool false))
  Instance.set_item "resolver_match" (.py .none)

end massless.request
