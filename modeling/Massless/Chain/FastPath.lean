import Massless.Chain.Onion
import Massless.Python.Simulation
import Massless.Router.Urlconf
import Massless.Router.Walk

open python
open massless.router
open massless.handler (UrlState Request)
open massless.chain (Hit check_response refuse_coroutine)

namespace massless.fast_path

/-- What code of the application can reach: the URLconf of the thread and of the request,
the other attributes of the request, and all other state. -/
structure Site (Urlconf Attrs World : Type) extends UrlState Urlconf World where
  attrs : Attrs

/-- The positional and keyword arguments of a view. -/
abbrev CallArgs (Obj : Type) := List (Value Obj) × Kwargs Obj

abbrev View (Urlconf Attrs World Obj R : Type) :=
  Callable (Site Urlconf Attrs World) (Request × CallArgs Obj) R

/-- What is observed of the work on a request. -/
inductive Event (Obj R : Type) where
  | viewed (request : Request) (args : CallArgs Obj)
  | converted (request : Request) (exc : Exc)
  | closing (request : Request) (response : R)
  | logged (request : Request) (response : R)

structure State (Urlconf Attrs World Obj R : Type) where
  site : Site Urlconf Attrs World
  events : List (Event Obj R)

/-- A site without middleware and without `ATOMIC_REQUESTS`: its URLconf, and what the handler
calls in Django and in the application. `render` is the method of a response that has one,
and `catches` tells an `Exception` from another `BaseException`. -/
structure App (Urlconf Attrs World Obj Regex R : Type) where
  root_urlconf : Urlconf
  finditer : String → List Component
  url_patterns : List (UrlEntry (View Urlconf Attrs World Obj R) Obj Regex)
  pool_lifecycle : Bool
  request_started : Py World Unit
  set_resolver_match : Match (View Urlconf Attrs World Obj R) Obj → Attrs → Attrs
  django_resolve_request : Request →
    Py (Site Urlconf Attrs World) (View Urlconf Attrs World Obj R × CallArgs Obj)
  catches : Exc → Bool
  response_for_exception : Request → Exc → Py (Site Urlconf Attrs World) R
  render : R → Option (Callable (Site Urlconf Attrs World) Unit R)
  close_with : Request → R → Py (Site Urlconf Attrs World) Unit
  status_code : R → Nat
  log_response : Request → R → Py (Site Urlconf Attrs World) Unit

variable {Urlconf Attrs World Obj Regex R : Type}

/-- Code of the application. -/
def user {A : Type} (code : Py (Site Urlconf Attrs World) A) :
    Py (State Urlconf Attrs World Obj R) A :=
  fun s => ((code s.site).1, { s with site := (code s.site).2 })

def record (event : Event Obj R) : Py (State Urlconf Attrs World Obj R) Unit :=
  Py.modify fun s => { s with events := s.events ++ [event] }

def set_urlconf (urlconf : Urlconf) : Py (State Urlconf Attrs World Obj R) Unit :=
  user <| Py.modify fun site => { site with thread_local := some urlconf }

/-- `get_urlconf(default)` -/
def get_urlconf (default : Urlconf) : Py (State Urlconf Attrs World Obj R) Urlconf :=
  Py.gets fun s => s.site.thread_local.getD default

/-- `getattr(request, "urlconf", None)` is not falsy. -/
def has_urlconf : Py (State Urlconf Attrs World Obj R) Bool :=
  Py.gets fun s => (s.site.attr.getD none).isSome

/-- A function of the application as it is called here. -/
def lifted {A : Type} (method : Callable (Site Urlconf Attrs World) A R) :
    Callable (State Urlconf Attrs World Obj R) A R :=
  ⟨method.is_async, fun a => user (method.body a)⟩

/-- A view, whose calls are observed. -/
def observed (callback : View Urlconf Attrs World Obj R) :
    Callable (State Urlconf Attrs World Obj R) (Request × CallArgs Obj) R :=
  ⟨callback.is_async, fun a => do
    record (.viewed a.1 a.2)
    user (callback.body a)⟩

/-- The call of a function on the event loop, through a thread unless it is a coroutine
function by the flag. -/
def await_or_thread {A S : Type} (is_async : Bool) (method : Callable S A R) (a : A) :
    Py S (Returned R) :=
  if is_async then method.await a
  else do
    let wrapped ← Py.lift method.sync_to_async
    wrapped.await a

namespace App

variable (app : App Urlconf Attrs World Obj Regex R)

/-- `Router.match` on the encoded path. -/
def router_match (request : Request) : Option (Match (View Urlconf Attrs World Obj R) Obj) :=
  (build_router app.finditer Callable.is_async app.url_patterns).match (encode_utf8 request)

/-- `request.resolver_match = …`, where the lazy match reads as the eager one. -/
def set_match (m : Match (View Urlconf Attrs World Obj R) Obj) :
    Py (State Urlconf Attrs World Obj R) Unit :=
  user <| Py.modify fun site => { site with attrs := app.set_resolver_match m site.attrs }

def response_for (request : Request) (exc : Exc) : Py (State Urlconf Attrs World Obj R) R := do
  record (.converted request exc)
  user (app.response_for_exception request exc)

/-- `response._resource_closers.append(request.close)` -/
def append_closer (request : Request) (response : R) :
    Py (State Urlconf Attrs World Obj R) Unit := do
  user (app.close_with request response)
  record (.closing request response)

def log (request : Request) (response : R) : Py (State Urlconf Attrs World Obj R) Unit := do
  record (.logged request response)
  user (app.log_response request response)

/-- `MasslessHandler.resolve_request` -/
def resolve_request [DecidableEq Urlconf] (request : Request) :
    Py (State Urlconf Attrs World Obj R)
      (Hit (State Urlconf Attrs World Obj R) Request R (CallArgs Obj)) := do
  let override ← has_urlconf
  let active ← get_urlconf app.root_urlconf
  let rmatch := if override = false ∧ active = app.root_urlconf then app.router_match request else none
  match rmatch with
  | some m => do
    app.set_match m
    pure ⟨observed m.callback, m.args, m.kwargs⟩
  | none => do
    let (callback, args) ← user (app.django_resolve_request request)
    pure ⟨observed callback, args⟩

/-- What the chain calls. Without `ATOMIC_REQUESTS`, `make_view_atomic` hands the view back. -/
def django [DecidableEq Urlconf] :
    chain.Django (State Urlconf Attrs World Obj R) Request R (CallArgs Obj) where
  catches := app.catches
  response_for_exception := app.response_for
  set_urlconf := set_urlconf app.root_urlconf
  resolve_request := app.resolve_request
  make_view_atomic := .ok
  render := fun response => (app.render response).map lifted
  close_with := app.append_closer
  status_code := app.status_code
  log_response := app.log

/-- `MasslessChain.run`, with the chain that is built from an empty `MIDDLEWARE`. -/
def chain_run [DecidableEq Urlconf] (request : Request) : Py (State Urlconf Attrs World Obj R) R := do
  let chain ← Py.lift (app.django.build [])
  app.django.run chain request

/-- The rendering of a response that is rendered late. -/
def render_response (response : R) : Py (State Urlconf Attrs World Obj R) (Returned R) :=
  match app.render response with
  | none => pure (.value response)
  | some render => await_or_thread render.is_async (lifted render) ()

/-- `MasslessHandler._fast_dispatch` -/
def fast_dispatch (request : Request) (m : Match (View Urlconf Attrs World Obj R) Obj) :
    Py (State Urlconf Attrs World Obj R) R := do
  app.set_match m
  let response ← Py.try_except app.catches
    (do
      let response ←
        await_or_thread m.is_async (observed m.callback) (request, m.args, m.kwargs)
      let response ← Py.lift (check_response response)
      let response ← app.render_response response
      refuse_coroutine response)
    fun exc => do
      let response ← app.response_for request exc
      pure (.value response)
  match response with
  | .value response => do
    app.append_closer request response
    if 400 ≤ app.status_code response then app.log request response else pure ()
    pure response
  | _ => Py.raise (.AttributeError "_resource_closers")

/-- `MasslessHandler.handle`, where the fast path is on. -/
def handle [DecidableEq Urlconf] (request : Request) : Py (State Urlconf Attrs World Obj R) R := do
  let override ← has_urlconf
  let active ← get_urlconf app.root_urlconf
  if override = false ∧ active = app.root_urlconf then do
    set_urlconf app.root_urlconf
    match app.router_match request with
    | some m => app.fast_dispatch request m
    | none => app.chain_run request
  else app.chain_run request

/-- The `request_started` signal, which is skipped in pool mode. -/
def start : Py (State Urlconf Attrs World Obj R) Unit := fun s =>
  if app.pool_lifecycle then (.ok (), s)
  else
    let (outcome, world) := app.request_started s.site.world
    (outcome, { s with site := { s.site with world := world } })

/-- `dispatch` up to the response, where the fast path is on. Its block has no `set_urlconf`. -/
def dispatch [DecidableEq Urlconf] (request : Request) : Py (State Urlconf Attrs World Obj R) R := do
  let attr ← Py.gets fun s => s.site.attr
  let active ← get_urlconf app.root_urlconf
  let rmatch := if attr.isNone ∧ active = app.root_urlconf then app.router_match request else none
  match rmatch with
  | some m => do
    app.set_match m
    app.start
    let dj_resp ← Py.try_except app.catches
      (do
        let dj_resp ←
          await_or_thread m.is_async (observed m.callback) (request, m.args, m.kwargs)
        let dj_resp ← Py.lift (check_response dj_resp)
        let dj_resp ← app.render_response dj_resp
        refuse_coroutine dj_resp)
      fun exc => do
        let dj_resp ← app.response_for request exc
        pure (.value dj_resp)
    match dj_resp with
    | .value dj_resp => do
      app.append_closer request dj_resp
      if 400 ≤ app.status_code dj_resp then app.log request dj_resp else pure ()
      pure dj_resp
    | _ => Py.raise (.AttributeError "_resource_closers")
  | none => do
    app.start
    app.handle request

def rendering (response : R) : Py (State Urlconf Attrs World Obj R) (Returned R) :=
  match app.render response with
  | none => pure (.value response)
  | some render => user (render.body ())

/-- The view, the check of its response and the rendering. -/
def viewing (request : Request) (m : Match (View Urlconf Attrs World Obj R) Obj) :
    Py (State Urlconf Attrs World Obj R) (Returned R) := do
  let response ← (observed m.callback).body (request, m.args, m.kwargs)
  let response ← Py.lift (check_response response)
  let response ← app.rendering response
  refuse_coroutine response

/-- What every copy makes of a matched request: with the answer to what is raised. -/
def answer (request : Request) (m : Match (View Urlconf Attrs World Obj R) Obj) :
    Py (State Urlconf Attrs World Obj R) (Returned R) :=
  Py.try_except app.catches (app.viewing request m) fun exc => do
    let response ← app.response_for request exc
    pure (.value response)

/-- The closer and the log. -/
def finish (request : Request) : Returned R → Py (State Urlconf Attrs World Obj R) R
  | .value response => do
    app.append_closer request response
    if 400 ≤ app.status_code response then app.log request response else pure ()
    pure response
  | _ => Py.raise (.AttributeError "_resource_closers")

end App

/-- The flag that the table holds is that of the view. -/
theorem match_is_async {View Obj : Type} {iscoroutinefunction : View → Bool}
    {entries : List (Option (Route View Obj))}
    (hmodes : ∀ r, some r ∈ entries → r.is_async = iscoroutinefunction r.callback)
    {path : Bytes} {m : Match View Obj} (hmatch : match_entries path entries = some m) :
    m.is_async = iscoroutinefunction m.callback := by
  induction entries with
  | nil => cases hmatch
  | cons entry rest ih =>
    cases entry with
    | none => cases hmatch
    | some r =>
      rw [match_entries] at hmatch
      cases htry : r.try_match path 1 with
      | some kw =>
        rw [htry] at hmatch
        cases hmatch
        exact hmodes r List.mem_cons_self
      | none =>
        rw [htry] at hmatch
        exact ih (fun r hr => hmodes r (List.mem_cons_of_mem _ hr)) hmatch

section
variable {View Regex : Type} {finditer : String → List Component} {iscoroutinefunction : View → Bool}

mutual

theorem walk_entry_is_async (prefix_parts : List Part) (prefix_route : String) :
    ∀ entry : UrlEntry View Obj Regex, ∀ r : Route View Obj,
      some r ∈ walk_entry finditer iscoroutinefunction prefix_parts prefix_route entry →
        r.is_async = iscoroutinefunction r.callback
  | .url_pattern (.route route) callback default_args name => by
    intro r hr
    rw [walk_entry] at hr
    cases hraw : parse_raw finditer route with
    | none => simp [hraw] at hr
    | some raw =>
      cases hfinal : finalize (prefix_parts ++ raw) with
      | none => simp [hraw, hfinal] at hr
      | some final =>
        simp only [hraw, hfinal, List.mem_singleton, Option.some.injEq] at hr
        rw [hr]
        rfl
  | .url_pattern (.regex _) _ _ _ => by simp [walk_entry]
  | .url_resolver (.route route) url_patterns _ => by
    intro r hr
    rw [walk_entry] at hr
    cases hraw : parse_raw finditer route with
    | none => simp [hraw] at hr
    | some raw =>
      rw [hraw] at hr
      exact walk_is_async (prefix_parts ++ raw) (prefix_route ++ route) url_patterns r hr
  | .url_resolver (.regex _) _ _ => by simp [walk_entry]
  | .other _ => by simp [walk_entry]

theorem walk_is_async (prefix_parts : List Part) (prefix_route : String) :
    ∀ entries : List (UrlEntry View Obj Regex), ∀ r : Route View Obj,
      some r ∈ walk finditer iscoroutinefunction prefix_parts prefix_route entries →
        r.is_async = iscoroutinefunction r.callback
  | [] => by simp [walk]
  | p :: rest => by
    intro r hr
    rw [walk, List.mem_append] at hr
    obtain hentry | hrest := hr
    · exact walk_entry_is_async prefix_parts prefix_route p r hentry
    · exact walk_is_async prefix_parts prefix_route rest r hrest

end

end

namespace App

variable (app : App Urlconf Attrs World Obj Regex R)

theorem router_match_is_async {request : Request}
    {m : Match (View Urlconf Attrs World Obj R) Obj} (hmatch : app.router_match request = some m) :
    m.is_async = m.callback.is_async := by
  unfold router_match Router.match at hmatch
  split at hmatch
  · exact match_is_async (walk_is_async [] "" app.url_patterns) hmatch
  · cases hmatch

theorem render_response_eq (response : R) :
    app.render_response response = app.rendering response := by
  unfold render_response rendering
  cases app.render response with
  | none => rfl
  | some render => exact chain.await_adapted_eq (lifted render) ()

theorem view_eq {request : Request} {m : Match (View Urlconf Attrs World Obj R) Obj}
    (hmode : m.is_async = m.callback.is_async) :
    (await_or_thread m.is_async (observed m.callback) (request, m.args, m.kwargs) :
      Py (State Urlconf Attrs World Obj R) _) =
      (observed m.callback).body (request, m.args, m.kwargs) := by
  rw [hmode]
  exact chain.await_adapted_eq (observed m.callback) _

theorem fast_dispatch_eq {request : Request} {m : Match (View Urlconf Attrs World Obj R) Obj}
    (hmode : m.is_async = m.callback.is_async) :
    app.fast_dispatch request m = (do
      app.set_match m
      let response ← app.answer request m
      app.finish request response) := by
  unfold fast_dispatch
  simp only [view_eq hmode, render_response_eq]
  rfl

/-- The block inlined in `dispatch`. -/
theorem dispatch_eq [DecidableEq Urlconf] {request : Request}
    {m : Match (View Urlconf Attrs World Obj R) Obj} (hmatch : app.router_match request = some m)
    {s : State Urlconf Attrs World Obj R} (hattr : s.site.attr = none)
    (hactive : s.site.thread_local.getD app.root_urlconf = app.root_urlconf) :
    app.dispatch request s = (do
      app.set_match m
      app.start
      let response ← app.answer request m
      app.finish request response) s := by
  unfold dispatch
  simp only [get_urlconf, Py.bind_run, Py.gets_run, hattr, hactive, hmatch, Option.isNone_none,
    and_self, if_true]
  simp only [view_eq (app.router_match_is_async hmatch), render_response_eq]
  rfl

/-- A state whose thread has `ROOT_URLCONF` set. -/
def rooted (s : State Urlconf Attrs World Obj R) : State Urlconf Attrs World Obj R :=
  { s with site := { s.site with thread_local := some app.root_urlconf } }

theorem handle_eq [DecidableEq Urlconf] {request : Request}
    {m : Match (View Urlconf Attrs World Obj R) Obj} (hmatch : app.router_match request = some m)
    {s : State Urlconf Attrs World Obj R} (hattr : s.site.attr = none)
    (hactive : s.site.thread_local.getD app.root_urlconf = app.root_urlconf) :
    app.handle request s = (do
      app.set_match m
      let response ← app.answer request m
      app.finish request response) (app.rooted s) := by
  rw [← app.fast_dispatch_eq (app.router_match_is_async hmatch)]
  unfold handle
  simp only [has_urlconf, get_urlconf, Py.bind_run, Py.gets_run, hattr, hactive, hmatch,
    Option.getD_none, Option.isSome_none, and_self, if_true]
  rfl

/-- Without exception hooks, what is raised goes on. -/
theorem handled_nil {W Req R Args : Type} (django : chain.Django W Req R Args) (request : Req)
    (m : Py W (Returned R)) : django.handled [] request m = m := by
  funext s
  simp only [chain.Django.handled, Py.try_except_run]
  rcases m s with ⟨e | response, t⟩
  · simp only
    split
    · rfl
    · rfl
  · rfl

theorem rendered_nil [DecidableEq Urlconf] (request : Request) (response : R) :
    app.django.rendered [] request response = app.rendering response := by
  unfold chain.Django.rendered rendering
  have hrender : app.django.render response = (app.render response).map lifted := rfl
  cases hlate : app.render response with
  | none =>
    rw [hrender, hlate]
    rfl
  | some render =>
    rw [hrender, hlate]
    simp only [Option.map_some, handled_nil]
    change app.django.rendering response = _
    rw [chain.Django.rendering, hrender, hlate]
    rfl

theorem chain_run_eq [DecidableEq Urlconf] {request : Request}
    {m : Match (View Urlconf Attrs World Obj R) Obj} (hmatch : app.router_match request = some m)
    {s : State Urlconf Attrs World Obj R} (hattr : s.site.attr = none) :
    app.chain_run request s = (do
      app.set_match m
      let response ← app.answer request m
      app.finish request response) (app.rooted s) := by
  let t := (app.set_match m (app.rooted s)).2
  have hresolve : app.django.resolve_request request (app.rooted s) =
      (.ok ⟨observed m.callback, m.args, m.kwargs⟩, t) := by
    change app.resolve_request request (app.rooted s) = _
    unfold resolve_request
    have hrooted : (app.rooted s).site.attr = none := hattr
    have hactive : (app.rooted s).site.thread_local = some app.root_urlconf := rfl
    simp only [has_urlconf, get_urlconf, Py.bind_run, Py.gets_run, hrooted, hactive, hmatch,
      Option.getD_none, Option.getD_some, Option.isSome_none, and_self, if_true]
    rfl
  have hcore : app.django.core [] request (app.rooted s) = app.viewing request m t := by
    have hatomic : app.django.make_view_atomic (observed m.callback) = .ok (observed m.callback) :=
      rfl
    unfold chain.Django.core viewing
    rw [Py.bind_run, hresolve]
    simp only [List.filterMap_nil, chain.first_response, Py.bind_run, Py.pure_run, chain.if_none,
      chain.Django.viewed, Py.lift_run, hatomic, handled_nil, rendered_nil]
  have hrun : app.chain_run request s = (do
      let response ← app.django.respond (app.django.core []) request
      app.django.finish_response request response) (app.rooted s) := by
    rw [← app.django.run_view_eq_core []]
    rfl
  have hrespond : app.django.respond (app.django.core []) request (app.rooted s) =
      app.answer request m t := by
    rw [chain.Django.respond, Py.try_except_run, hcore]
    rfl
  rw [hrun, Py.bind_run, hrespond]
  rfl

end App

end massless.fast_path
