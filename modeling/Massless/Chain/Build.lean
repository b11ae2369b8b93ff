import Massless.Python.Callable

open python

namespace massless.chain

/-- A resolved request: the view, and what it is called with besides the request. -/
structure Hit (W Req R Args : Type) where
  callback : Callable W (Req × Args) R
  args : Args

/-- What a middleware factory does. -/
inductive Factory where
  | makes_instance
  | raises_not_used
  | returns_none
  deriving DecidableEq

/-- A middleware class. `call` is the code of an instance of either mode around `get_response`,
and a hook is `none` where the class lacks it. A native hook, with an `a` in front, is a
coroutine function. -/
structure Middleware (W Req R Args : Type) where
  path : String
  sync_capable : Bool
  async_capable : Bool
  factory : Factory
  call : Bool → (Req → Py W (Returned R)) → Req → Py W (Returned R)
  aprocess_view : Option (Req × Hit W Req R Args → Py W (Returned R))
  process_view : Option (Callable W (Req × Hit W Req R Args) R)
  aprocess_template_response : Option (Req × R → Py W (Returned R))
  process_template_response : Option (Callable W (Req × R) R)
  process_exception : Option (Callable W (Req × Exc) R)

/-- What the chain calls in Django and in the handler. `catches` tells an `Exception` from
another `BaseException`, and `render` is the method of a response that has one. -/
structure Django (W Req R Args : Type) where
  catches : Exc → Bool
  response_for_exception : Req → Exc → Py W R
  set_urlconf : Py W Unit
  resolve_request : Req → Py W (Hit W Req R Args)
  make_view_atomic : Callable W (Req × Args) R → Except Exc (Callable W (Req × Args) R)
  render : R → Option (Callable W Unit R)
  close_with : Req → R → Py W Unit
  status_code : R → Nat
  log_response : Req → R → Py W Unit

variable {W Req R Args : Type}

/-- A middleware instance with the `get_response` it was given. It is a coroutine function
exactly when it was built in async mode. -/
structure Layer (W Req R Args : Type) where
  middleware : Middleware W Req R Args
  is_async : Bool
  get_response : Callable W Req R

/-- The instance as the callable that a request is handed to. -/
def Layer.callable (self : Layer W Req R Args) : Callable W Req R :=
  ⟨self.is_async, self.middleware.call self.is_async (self.get_response.invoke self.is_async)⟩

/-- `middleware(get_response)`: a class with both modes takes that of `get_response`. -/
def Middleware.instantiate (self : Middleware W Req R Args) (get_response : Callable W Req R) :
    Layer W Req R Args :=
  ⟨self, if self.sync_capable && self.async_capable then get_response.is_async
    else self.async_capable, get_response⟩

/-- `handler.check_response` -/
def check_response : Returned R → Except Exc R
  | .none => .error (.other "ValueError")
  | .coroutine => .error (.other "ValueError")
  | .value response => .ok response

/-- `if response is None: response = m` -/
def if_none (m : Py W (Returned R)) : Returned R → Py W (Returned R)
  | .none => m
  | response => pure response

/-- The check for a coroutine behind the rendering. -/
def refuse_coroutine : Returned R → Py W (Returned R)
  | .coroutine => Py.raise (.other "RuntimeError")
  | response => pure response

/-- The three hook lists of the chain. -/
structure Hooks (W Req R Args : Type) where
  view : List (Callable W (Req × Hit W Req R Args) R)
  template_response : List (Callable W (Req × R) R)
  exception : List (Callable W (Req × Exc) R)

/-- What the build loop holds. -/
structure Built (W Req R Args : Type) where
  hooks : Hooks W Req R Args
  layers : List (Layer W Req R Args)
  composed : Callable W Req R
  handler_is_async : Bool

structure MasslessChain (W Req R Args : Type) where
  hooks : Hooks W Req R Args
  layers : List (Layer W Req R Args)
  middleware_chain : Callable W Req R

/-- The loop over the view hooks, which ends with the first response. -/
def run_view_hooks {A : Type} (a : A) : List (Callable W A R) → Returned R → Py W (Returned R)
  | [], response => pure response
  | middleware_method :: rest, _ => do
    let response ← middleware_method.await a
    if response.truthy then pure response else run_view_hooks a rest response

/-- `_process_exception_by_middleware` -/
def process_exception_by_middleware {A : Type} (a : A) :
    List (Callable W A R) → Py W (Returned R)
  | [] => pure .none
  | middleware_method :: rest => do
    let response ← middleware_method.call a
    if response.truthy then pure response else process_exception_by_middleware a rest

/-- The loop over the template-response hooks, each checked for a response. -/
def run_template_hooks (request : Req) : List (Callable W (Req × R) R) → R → Py W R
  | [], response => pure response
  | middleware_method :: rest, response => do
    let returned ← middleware_method.await (request, response)
    let response ← Py.lift (check_response returned)
    run_template_hooks request rest response

/-- A call on the event loop: what is no coroutine function goes through a thread. -/
def await_adapted {A : Type} (method : Callable W A R) (a : A) : Py W (Returned R) :=
  if method.is_async then method.await a
  else do
    let wrapped ← Py.lift method.sync_to_async
    wrapped.await a

/-- Whether the middleware is built in async mode. -/
def middleware_is_async (handler_is_async : Bool) (middleware : Middleware W Req R Args) : Bool :=
  if !handler_is_async && middleware.sync_capable then false else middleware.async_capable

/-- The view hook of an instance is put in front of the list. -/
def add_view_hook (view : List (Callable W (Req × Hit W Req R Args) R))
    (middleware : Middleware W Req R Args) :
    Except Exc (List (Callable W (Req × Hit W Req R Args) R)) :=
  match middleware.aprocess_view, middleware.process_view with
  | some method, _ => .ok (⟨true, method⟩ :: view)
  | none, some method =>
    (Callable.adapt_method_mode true method method.is_async).map fun adapted => adapted :: view
  | none, none => .ok view

/-- The template-response hook goes behind the others. -/
def add_template_hook (template_response : List (Callable W (Req × R) R))
    (middleware : Middleware W Req R Args) : Except Exc (List (Callable W (Req × R) R)) :=
  match middleware.aprocess_template_response, middleware.process_template_response with
  | some method, _ => .ok (template_response ++ [⟨true, method⟩])
  | none, some method =>
    (Callable.adapt_method_mode true method method.is_async).map fun adapted =>
      template_response ++ [adapted]
  | none, none => .ok template_response

/-- So does the exception hook, which is always called from synchronous code. -/
def add_exception_hook (exception : List (Callable W (Req × Exc) R))
    (middleware : Middleware W Req R Args) : Except Exc (List (Callable W (Req × Exc) R)) :=
  match middleware.process_exception with
  | some method =>
    (Callable.adapt_method_mode false method method.is_async).map fun adapted =>
      exception ++ [adapted]
  | none => .ok exception

def add_hooks (hooks : Hooks W Req R Args) (middleware : Middleware W Req R Args) :
    Except Exc (Hooks W Req R Args) := do
  let view ← add_view_hook hooks.view middleware
  let template_response ← add_template_hook hooks.template_response middleware
  let exception ← add_exception_hook hooks.exception middleware
  pure ⟨view, template_response, exception⟩

namespace Django

variable (django : Django W Req R Args)

/-- `convert_exception_to_response(get_response)`, in the mode of `get_response`. -/
def convert_exception_to_response (get_response : Callable W Req R) : Callable W Req R :=
  ⟨get_response.is_async, fun request =>
    Py.try_except django.catches (get_response.invoke get_response.is_async request) fun exc => do
      let response ← django.response_for_exception request exc
      pure (.value response)⟩

/-- The `except Exception as e` around the view and around rendering. -/
def through_exception_hooks (hooks : Hooks W Req R Args) (request : Req)
    (m : Py W (Returned R)) : Py W (Returned R) :=
  Py.try_except django.catches m fun e => do
    let response ← process_exception_by_middleware (request, e) hooks.exception
    if_none (Py.raise e) response

/-- The call of the view. -/
def call_view (hooks : Hooks W Req R Args) (request : Req) (hit : Hit W Req R Args) :
    Py W (Returned R) := do
  let wrapped_callback ← Py.lift (django.make_view_atomic hit.callback)
  django.through_exception_hooks hooks request (await_adapted wrapped_callback (request, hit.args))

/-- The call of `response.render`. -/
def call_render (response : R) : Py W (Returned R) :=
  match django.render response with
  | some render => await_adapted render ()
  | none => Py.raise (.AttributeError "render")

/-- The template-response hooks and the rendering, for a response that is rendered late. -/
def render_late (hooks : Hooks W Req R Args) (request : Req) (response : R) :
    Py W (Returned R) :=
  match django.render response with
  | none => pure (.value response)
  | some _ => do
    let response ← run_template_hooks request hooks.template_response response
    django.through_exception_hooks hooks request (django.call_render response)

/-- `MasslessChain._run_view` -/
def run_view (hooks : Hooks W Req R Args) (request : Req) : Py W (Returned R) := do
  let hit ← django.resolve_request request
  let response ← run_view_hooks (request, hit) hooks.view .none
  let response ← if_none (django.call_view hooks request hit) response
  let response ← Py.lift (check_response response)
  let response ← django.render_late hooks request response
  refuse_coroutine response

/-- A turn of the build loop. -/
def build_step (built : Built W Req R Args) (middleware : Middleware W Req R Args) :
    Except Exc (Built W Req R Args) :=
  if !middleware.sync_capable && !middleware.async_capable then .error (.other "RuntimeError")
  else do
    let is_async := middleware_is_async built.handler_is_async middleware
    let adapted_handler ←
      Callable.adapt_method_mode is_async built.composed built.handler_is_async
    match middleware.factory with
    | .raises_not_used => pure built
    | .returns_none => .error (.other "ImproperlyConfigured")
    | .makes_instance => do
      let mw_instance := middleware.instantiate adapted_handler
      let hooks ← add_hooks built.hooks middleware
      pure ⟨hooks, built.layers ++ [mw_instance],
        django.convert_exception_to_response mw_instance.callable, is_async⟩

/-- The build loop around a `_run_view` with the given hook lists. -/
def build_loop (run_time : Hooks W Req R Args) (middleware : List (Middleware W Req R Args)) :
    Except Exc (Built W Req R Args) :=
  middleware.reverse.foldlM django.build_step
    ⟨⟨[], [], []⟩, [], django.convert_exception_to_response ⟨true, django.run_view run_time⟩, true⟩

/-- `MasslessChain._build`. `_run_view` is called when the loop has filled the lists of the
chain, and it reads them then. -/
def build (middleware : List (Middleware W Req R Args)) :
    Except Exc (MasslessChain W Req R Args) := do
  let filled ← django.build_loop ⟨[], [], []⟩ middleware
  let built ← django.build_loop filled.hooks middleware
  let middleware_chain ← Callable.adapt_method_mode true built.composed built.handler_is_async
  pure ⟨built.hooks, built.layers, middleware_chain⟩

/-- `request.close` is registered on the response, and an error response is logged. -/
def finish_response (request : Req) : Returned R → Py W R
  | .value response => do
    django.close_with request response
    if 400 ≤ django.status_code response then django.log_response request response else pure ()
    pure response
  | _ => Py.raise (.AttributeError "_resource_closers")

/-- `MasslessChain.run` -/
def run (chain : MasslessChain W Req R Args) (request : Req) : Py W R := do
  django.set_urlconf
  let response ← chain.middleware_chain.await request
  django.finish_response request response

end Django

end massless.chain
