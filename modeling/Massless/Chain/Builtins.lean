import Massless.Chain.Build
import Massless.Python.Placed

open python
open massless.chain

namespace massless.middleware

/-- The classes that have a native re-implementation. -/
inductive Registered where
  | XFrameOptionsMiddleware
  | SecurityMiddleware
  | ConditionalGetMiddleware
  | CommonMiddleware
  | GZipMiddleware
  | SessionMiddleware
  | AuthenticationMiddleware
  | MessageMiddleware
  | CsrfViewMiddleware
  deriving DecidableEq

def REGISTRY : List (String × Registered) := [
  ("django.middleware.clickjacking.XFrameOptionsMiddleware", .XFrameOptionsMiddleware),
  ("django.middleware.security.SecurityMiddleware", .SecurityMiddleware),
  ("django.middleware.http.ConditionalGetMiddleware", .ConditionalGetMiddleware),
  ("django.middleware.common.CommonMiddleware", .CommonMiddleware),
  ("django.middleware.gzip.GZipMiddleware", .GZipMiddleware),
  ("django.contrib.sessions.middleware.SessionMiddleware", .SessionMiddleware),
  ("django.contrib.auth.middleware.AuthenticationMiddleware", .AuthenticationMiddleware),
  ("django.contrib.messages.middleware.MessageMiddleware", .MessageMiddleware),
  ("django.middleware.csrf.CsrfViewMiddleware", .CsrfViewMiddleware)]

/-- The hooks of a class on `MiddlewareMixin`, where it has them. A substitute runs the same
bodies on the event loop. -/
structure ClassHooks (W Req R Args : Type) where
  process_request : Option (Req → Placed W (Returned R))
  process_view : Option (Req × Hit W Req R Args → Placed W (Returned R))
  process_response : Option (Req → Returned R → Placed W (Returned R))

variable {W Req R Args : Type}

/-- `process_request`, or `None` where the class lacks it. -/
def ClassHooks.on_request (self : ClassHooks W Req R Args) (request : Req) :
    Placed W (Returned R) :=
  match self.process_request with
  | some process_request => process_request request
  | none => pure .none

/-- `process_response`, or the response as it is. -/
def ClassHooks.on_response (self : ClassHooks W Req R Args) (request : Req)
    (response : Returned R) : Placed W (Returned R) :=
  match self.process_response with
  | some process_response => process_response request response
  | none => pure response

/-- What the session of a request says of itself, with no call of its back end. -/
structure SessionFlags where
  accessed : Bool
  modified : Bool
  empty : Bool

/-- The session settings, the store and the cookie calls of `SessionMiddleware`. The methods
with an `a` in front are the asynchronous API of the store. -/
structure Sessions (W Req R : Type) where
  SESSION_SAVE_EVERY_REQUEST : Bool
  process_request : Req → Placed W Unit
  flags : Req → Placed W SessionFlags
  in_cookies : Req → Placed W Bool
  get_expire_at_browser_close : Req → Placed W Bool
  aget_expire_at_browser_close : Req → Py W Bool
  get_expiry_age : Req → Placed W Nat
  aget_expiry_age : Req → Py W Nat
  save : Req → Placed W Unit
  asave : Req → Py W Unit
  http_date : Nat → Placed W String
  status_code : Returned R → Placed W Nat
  delete_cookie : Returned R → Placed W Unit
  set_cookie : Req → Returned R → Option (Nat × String) → Placed W Unit
  patch_vary_headers : Returned R → Placed W Unit

def is_attribute_error : Exc → Bool
  | .AttributeError _ => true
  | .other _ => false

namespace Sessions

variable (self : Sessions W Req R)

/-- The age of the session cookie, which is none for a cookie that ends with the browser. -/
def max_age (request : Req) : Placed W (Option (Nat × String)) := do
  let at_browser_close ← (self.get_expire_at_browser_close request).awaited
    (self.aget_expire_at_browser_close request)
  if at_browser_close then pure none
  else do
    let max_age ← (self.get_expiry_age request).awaited (self.aget_expiry_age request)
    let expires ← self.http_date max_age
    pure (some (max_age, expires))

/-- The save of the session, where a deleted session interrupts the request. -/
def save_session (request : Req) : Placed W Unit :=
  Placed.try_except (· = .other "UpdateError") ((self.save request).awaited (self.asave request))
    fun _ => Placed.raise (.other "SessionInterrupted")

/-- The branch for a session that is kept: whether the response varies with the cookie. -/
def keep_session (request : Req) (response : Returned R) (flags : SessionFlags) : Placed W Bool :=
  if (flags.modified || self.SESSION_SAVE_EVERY_REQUEST) && !flags.empty then do
    let age ← self.max_age request
    let status_code ← self.status_code response
    if status_code < 500 then do
      self.save_session request
      self.set_cookie request response age
      pure true
    else pure flags.accessed
  else pure flags.accessed

/-- `_aprocess_response` on the event loop, and the inherited `process_response` in a thread. -/
def aprocess_response (request : Req) (response : Returned R) : Placed W (Returned R) := do
  let flags ← Placed.try_except is_attribute_error
    (do
      let flags ← self.flags request
      pure (some flags))
    fun _ => pure none
  match flags with
  | none => pure response
  | some flags => do
    let in_cookies ← self.in_cookies request
    let need_vary_cookie ←
      if in_cookies && flags.empty then do
        self.delete_cookie response
        pure true
      else self.keep_session request response flags
    if need_vary_cookie then self.patch_vary_headers response else pure ()
    pure response

end Sessions

/-- A message storage. `update` tells whether messages are left over, and a storage may have an
asynchronous one. -/
structure Storage (W R : Type) where
  is_cookie_storage : Bool
  update : Returned R → Placed W Bool
  aupdate : Option (Returned R → Py W Bool)

/-- `storage.update(response)` as `MessageMiddleware` calls it: inline for cookies only. -/
def Storage.store (self : Storage W R) (response : Returned R) : Placed W Bool :=
  match self.aupdate with
  | some method => (self.update response).awaited (method response)
  | none =>
    if self.is_cookie_storage then self.update response
    else (self.update response).sync_to_async

/-- What `MessageMiddleware` works with: `request._messages` is absent or a storage. -/
structure Messages (W Req R : Type) where
  DEBUG : Bool
  process_request : Req → Placed W Unit
  storage : Req → Placed W (Option (Storage W R))

/-- `_aprocess_response` on the event loop, and the inherited `process_response` in a thread. -/
def Messages.aprocess_response (self : Messages W Req R) (request : Req) (response : Returned R) :
    Placed W (Returned R) := do
  let storage ← self.storage request
  match storage with
  | none => pure response
  | some storage => do
    let unstored_messages ← storage.store response
    if unstored_messages && self.DEBUG then Placed.raise (.other "ValueError")
    else pure response

/-- The registered classes under some settings. -/
structure Builtins (W Req R Args : Type) where
  xframe_process_response : Req → Returned R → Placed W (Returned R)
  security_process_request : Req → Placed W (Returned R)
  security_process_response : Req → Returned R → Placed W (Returned R)
  conditional_get_process_response : Req → Returned R → Placed W (Returned R)
  common_process_request : Req → Placed W (Returned R)
  common_process_response : Req → Returned R → Placed W (Returned R)
  gzip_process_response : Req → Returned R → Placed W (Returned R)
  sessions : Sessions W Req R
  authentication_process_request : Req → Placed W (Returned R)
  messages : Messages W Req R
  csrf_process_request : Req → Placed W (Returned R)
  csrf_process_view : Req × Hit W Req R Args → Placed W (Returned R)
  csrf_process_response : Req → Returned R → Placed W (Returned R)

/-- A hook that returns `None`. -/
def returning_none (hook : Req → Placed W Unit) (request : Req) : Placed W (Returned R) := do
  hook request
  pure .none

/-- The hooks of a registered class. -/
def Builtins.hooks (self : Builtins W Req R Args) : Registered → ClassHooks W Req R Args
  | .XFrameOptionsMiddleware => ⟨none, none, some self.xframe_process_response⟩
  | .SecurityMiddleware =>
    ⟨some self.security_process_request, none, some self.security_process_response⟩
  | .ConditionalGetMiddleware => ⟨none, none, some self.conditional_get_process_response⟩
  | .CommonMiddleware =>
    ⟨some self.common_process_request, none, some self.common_process_response⟩
  | .GZipMiddleware => ⟨none, none, some self.gzip_process_response⟩
  | .SessionMiddleware =>
    ⟨some (returning_none self.sessions.process_request), none,
      some self.sessions.aprocess_response⟩
  | .AuthenticationMiddleware => ⟨some self.authentication_process_request, none, none⟩
  | .MessageMiddleware =>
    ⟨some (returning_none self.messages.process_request), none,
      some self.messages.aprocess_response⟩
  | .CsrfViewMiddleware =>
    ⟨some self.csrf_process_request, some self.csrf_process_view, some self.csrf_process_response⟩

/-- `response or m` -/
def or_else (m : Py W (Returned R)) (response : Returned R) : Py W (Returned R) :=
  if response.truthy then pure response else m

/-- `MiddlewareMixin`: both modes run the hooks in a worker thread. -/
def stock_middleware (path : String) (hooks : ClassHooks W Req R Args) :
    Middleware W Req R Args where
  path := path
  sync_capable := true
  async_capable := true
  factory := .makes_instance
  call := fun _ get_response request => do
    let response ← (hooks.on_request request).in_thread
    let response ← or_else (get_response request) response
    (hooks.on_response request response).in_thread
  aprocess_view := none
  process_view := hooks.process_view.map fun process_view =>
    ⟨false, fun a => (process_view a).in_thread⟩
  aprocess_template_response := none
  process_template_response := none
  process_exception := none

/-- `_FastMiddleware`: the hooks run on the event loop. Only `CsrfViewMiddleware` has a
`process_view`, which its `aprocess_view` calls. -/
def fast_middleware (path : String) (hooks : ClassHooks W Req R Args) :
    Middleware W Req R Args where
  path := path
  sync_capable := false
  async_capable := true
  factory := .makes_instance
  call := fun _ get_response request => do
    let response ← (hooks.on_request request).on_loop
    let response ← if_none (get_response request) response
    (hooks.on_response request response).on_loop
  aprocess_view := hooks.process_view.map fun process_view a => (process_view a).on_loop
  process_view := none
  aprocess_template_response := none
  process_template_response := none
  process_exception := none

/-- The substitutes of `SessionMiddleware` and `MessageMiddleware`, with a `__call__` of their
own. -/
def stateful_middleware (path : String) (process_request : Req → Placed W Unit)
    (aprocess_response : Req → Returned R → Placed W (Returned R)) : Middleware W Req R Args where
  path := path
  sync_capable := false
  async_capable := true
  factory := .makes_instance
  call := fun _ get_response request => do
    (process_request request).on_loop
    let response ← get_response request
    (aprocess_response request response).on_loop
  aprocess_view := none
  process_view := none
  aprocess_template_response := none
  process_template_response := none
  process_exception := none

namespace Builtins

variable (self : Builtins W Req R Args)

/-- A stock class. -/
def stock (path : String) (name : Registered) : Middleware W Req R Args :=
  stock_middleware path (self.hooks name)

/-- Its re-implementation. -/
def fast (path : String) (name : Registered) : Middleware W Req R Args :=
  match name with
  | .SessionMiddleware =>
    stateful_middleware path self.sessions.process_request self.sessions.aprocess_response
  | .MessageMiddleware =>
    stateful_middleware path self.messages.process_request self.messages.aprocess_response
  | name => fast_middleware path (self.hooks name)

end Builtins

/-- The middleware classes that can be imported: the registered ones and any others. -/
structure Site (W Req R Args : Type) where
  builtins : Builtins W Req R Args
  other : String → Middleware W Req R Args

namespace Site

variable (site : Site W Req R Args)

def import_string (middleware_path : String) : Middleware W Req R Args :=
  match REGISTRY.lookup middleware_path with
  | some name => site.builtins.stock middleware_path name
  | none => site.other middleware_path

/-- The class that the build loop takes for a path. -/
def load (fast_mw : Bool) (middleware_path : String) : Middleware W Req R Args :=
  match if fast_mw then REGISTRY.lookup middleware_path else none with
  | some name => site.builtins.fast middleware_path name
  | none => site.import_string middleware_path

/-- `MasslessChain.run` on the chain built from `MIDDLEWARE`. -/
def run (fast_mw : Bool) (MIDDLEWARE : List String) (django : Django W Req R Args) (request : Req) :
    Py W R := do
  let chain ← Py.lift (django.build (MIDDLEWARE.map (site.load fast_mw)))
  django.run chain request

end Site

end massless.middleware
