import Massless.Python.Effect
import Massless.Router.Walk
import Massless.Router.Resolver

open python
open massless.router

namespace massless.handler

/-- What user code can reach: the URLconf of the thread, which Django keeps in a
thread-local, `request.urlconf`, which is absent or a value that may be falsy, and all
other state. -/
structure UrlState (Urlconf World : Type) where
  thread_local : Option Urlconf
  attr : Option (Option Urlconf)
  world : World

/-- What is observed of a request: the URLconf active where the chain or a fast-path view
starts, and the view, args and kwargs selected. -/
inductive Seen (View Obj Urlconf : Type) where
  | started (active : Urlconf)
  | selected (choice : ResolverMatch View Obj)

structure State (View Obj Urlconf World : Type) where
  url : UrlState Urlconf World
  seen : List (Seen View Obj Urlconf)

/-- A request, as far as its URL goes. -/
abbrev Request := String

/-- What a worker is started with: the settings that its handler reads, and the code of the
application, which is the URLconfs, what `_run_view` and the two copies of the fast path do
once a view is selected, the middleware, error conversion, signal receivers and resource
closers. -/
structure App (View Obj Regex Urlconf World Reply : Type) where
  ROOT_URLCONF : Urlconf
  /-- The layers that `MIDDLEWARE` lists, outermost first; `none` raises `MiddlewareNotUsed`. -/
  MIDDLEWARE : List (Option
    (Py (State View Obj Urlconf World) Reply → Py (State View Obj Urlconf World) Reply))
  /-- `ATOMIC_REQUESTS` of each database connection. -/
  ATOMIC_REQUESTS : List Bool
  MASSLESS_POOL_LIFECYCLE : Bool
  /-- `get_resolver(urlconf).url_patterns`, which imports the module. -/
  url_patterns : Urlconf → Except Exc (List (UrlEntry View Obj Regex))
  django : Django View Obj Regex
  iscoroutinefunction : View → Bool
  run_view : ResolverMatch View Obj → Py (UrlState Urlconf World) Reply
  inlined_view : Match View Obj → Py (UrlState Urlconf World) Reply
  fast_dispatch : Match View Obj → Py (UrlState Urlconf World) Reply
  response_for_exception : Exc → Py (UrlState Urlconf World) Reply
  finish_chain : Reply → Py (UrlState Urlconf World) Unit
  request_started : Py World Unit
  fold : Reply → Except Exc Unit
  close : Reply → Py (UrlState Urlconf World) Unit

/-- `get_resolver(urlconf).resolve(path)` -/
def App.resolve {View Obj Regex Urlconf World Reply : Type}
    (app : App View Obj Regex Urlconf World Reply) (urlconf : Urlconf) (path : String) :
    Except Exc (ResolverMatch View Obj) := do
  let url_patterns ← app.url_patterns urlconf
  match app.django.resolve_root url_patterns path with
  | some choice => pure choice
  | none => throw (.other "Resolver404")

/-- A worker's `MasslessHandler`, next to what it was started with. -/
structure Handler (View Obj Regex Urlconf World Reply : Type) where
  app : App View Obj Regex Urlconf World Reply
  router : Option (Router View Obj)
  router_urlconf : Option Urlconf
  fast_ok : Bool
  pool_lifecycle : Bool

/-- `MasslessHandler.__init__`. An error while the router is built leaves it off. -/
def Handler.new {View Obj Regex Urlconf World Reply : Type}
    (app : App View Obj Regex Urlconf World Reply) :
    Handler View Obj Regex Urlconf World Reply :=
  let router := (app.url_patterns app.ROOT_URLCONF).toOption.map
    (build_router app.django.finditer app.iscoroutinefunction)
  { app, router
    router_urlconf := router.map fun _ => app.ROOT_URLCONF
    fast_ok := router.isSome && app.MIDDLEWARE.isEmpty && !app.ATOMIC_REQUESTS.any id
    pool_lifecycle := app.MASSLESS_POOL_LIFECYCLE }

section
variable {View Obj Regex Urlconf World Reply : Type}

/-- Code of the application. -/
def user {A : Type} (code : Py (UrlState Urlconf World) A) : Py (State View Obj Urlconf World) A :=
  fun s => ((code s.url).1, { s with url := (code s.url).2 })

def see (entry : Seen View Obj Urlconf) : Py (State View Obj Urlconf World) Unit :=
  Py.modify fun s => { s with seen := s.seen ++ [entry] }

/-- `set_urlconf`, where a falsy value unsets the thread-local. -/
def set_urlconf (urlconf : Option Urlconf) : Py (State View Obj Urlconf World) Unit :=
  Py.modify fun s => { s with url := { s.url with thread_local := urlconf } }

/-- `get_urlconf(default)` -/
def get_urlconf (default : Urlconf) : Py (State View Obj Urlconf World) Urlconf :=
  Py.gets fun s => s.url.thread_local.getD default

/-- `getattr(request, "urlconf", None)` is not falsy. -/
def has_urlconf : Py (State View Obj Urlconf World) Bool :=
  Py.gets fun s => (s.url.attr.getD none).isSome

namespace Handler

variable [DecidableEq Urlconf] (self : Handler View Obj Regex Urlconf World Reply)

/-- `Router.match` on the encoded path, if there is a router. -/
def router_match (request : Request) : Option (Match View Obj) :=
  self.router.bind fun router => router.match (encode_utf8 request)

/-- Django's `BaseHandler.resolve_request`. -/
def django_resolve_request (request : Request) :
    Py (State View Obj Urlconf World) (ResolverMatch View Obj) := do
  let attr ← Py.gets fun s => s.url.attr
  let urlconf ← match attr with
    | some urlconf => do
      set_urlconf urlconf
      pure (urlconf.getD self.app.ROOT_URLCONF)
    | none => pure self.app.ROOT_URLCONF
  let choice ← Py.lift (self.app.resolve urlconf request)
  see (.selected choice)
  pure choice

/-- `MasslessHandler.resolve_request` -/
def resolve_request (request : Request) :
    Py (State View Obj Urlconf World) (ResolverMatch View Obj) := do
  let override ← has_urlconf
  let active ← get_urlconf self.app.ROOT_URLCONF
  if self.router.isSome ∧ override = false ∧ some active = self.router_urlconf then
    match self.router_match request with
    | some m => do
      see (.selected ⟨m.callback, m.args, m.kwargs⟩)
      pure ⟨m.callback, m.args, m.kwargs⟩
    | none => self.django_resolve_request request
  else self.django_resolve_request request

/-- `convert_exception_to_response` -/
def convert (inner : Py (State View Obj Urlconf World) Reply) :
    Py (State View Obj Urlconf World) Reply := fun s =>
  match inner s with
  | (.ok reply, t) => (.ok reply, t)
  | (.error e, t) => user (self.app.response_for_exception e) t

/-- `MasslessChain._run_view` -/
def chain_run_view (request : Request) : Py (State View Obj Urlconf World) Reply := do
  let choice ← self.resolve_request request
  user (self.app.run_view choice)

/-- What `MasslessChain._build` composes around `_run_view`. -/
def middleware_chain (request : Request) : Py (State View Obj Urlconf World) Reply :=
  self.app.MIDDLEWARE.foldr (fun layer composed => layer.elim composed fun mw =>
    self.convert (mw composed)) (self.convert (self.chain_run_view request))

/-- `MasslessChain.run` -/
def chain_run (request : Request) : Py (State View Obj Urlconf World) Reply := do
  set_urlconf (some self.app.ROOT_URLCONF)
  let active ← get_urlconf self.app.ROOT_URLCONF
  see (.started active)
  let reply ← self.middleware_chain request
  user (self.app.finish_chain reply)
  pure reply

/-- `MasslessHandler.handle` -/
def handle (request : Request) : Py (State View Obj Urlconf World) Reply := do
  if self.fast_ok then
    let override ← has_urlconf
    let active ← get_urlconf self.app.ROOT_URLCONF
    if override = false ∧ some active = self.router_urlconf then
      set_urlconf (some self.app.ROOT_URLCONF)
      match self.router_match request with
      | some m => do
        let active ← get_urlconf self.app.ROOT_URLCONF
        see (.started active)
        see (.selected ⟨m.callback, m.args, m.kwargs⟩)
        user (self.app.fast_dispatch m)
      | none => self.chain_run request
    else self.chain_run request
  else self.chain_run request

/-- The `request_started` signal, which is skipped in pool mode. -/
def start : Py (State View Obj Urlconf World) Unit := fun s =>
  if self.pool_lifecycle then (.ok (), s)
  else
    let (outcome, world) := self.app.request_started s.url.world
    (outcome, { s with url := { s.url with world := world } })

/-- `dispatch` up to the response. -/
def dispatch (request : Request) : Py (State View Obj Urlconf World) Reply := do
  let attr ← Py.gets fun s => s.url.attr
  let active ← get_urlconf self.app.ROOT_URLCONF
  let rmatch :=
    if self.fast_ok ∧ attr.isNone ∧ some active = self.router_urlconf then self.router_match request
    else none
  match rmatch with
  | some m => do
    self.start
    let active ← get_urlconf self.app.ROOT_URLCONF
    see (.started active)
    see (.selected ⟨m.callback, m.args, m.kwargs⟩)
    user (self.app.inlined_view m)
  | none => do
    self.start
    self.handle request

/-- Teardown: closers run in both modes, and the receiver of `request_finished` resets the
URLconf of the thread where that signal is sent. -/
def teardown (reply : Reply) : Py (State View Obj Urlconf World) Unit := do
  user (self.app.close reply)
  if self.pool_lifecycle then pure () else set_urlconf none

/-- One request of a worker: a new request object has no `urlconf`. -/
def serve (request : Request) (url : UrlState Urlconf World) : State View Obj Urlconf World :=
  ((do
    let reply ← self.dispatch request
    Py.lift (self.app.fold reply)
    self.teardown reply) ⟨{ url with attr := none }, []⟩).2

/-- The state of a worker after some requests. -/
def after (history : List Request) (url : UrlState Urlconf World) : UrlState Urlconf World :=
  history.foldl (fun url request => (self.serve request url).url) url

end Handler

/-- A worker that has served nothing yet. -/
def fresh (world : World) : UrlState Urlconf World := ⟨none, none, world⟩

/-- Calls that add nothing to what is observed. -/
def Silent {A : Type} (call : Py (State View Obj Urlconf World) A) : Prop :=
  ∀ s, (call s).2.seen = s.seen

namespace Silent

theorem pure {A : Type} (a : A) : Silent (Pure.pure a : Py (State View Obj Urlconf World) A) :=
  fun _ => rfl

/-- A silent continuation leaves what was seen. -/
theorem seen_bind {A B : Type} (call : Py (State View Obj Urlconf World) A)
    {next : A → Py (State View Obj Urlconf World) B} (hnext : ∀ a, Silent (next a))
    (s : State View Obj Urlconf World) : ((call >>= next) s).2.seen = (call s).2.seen := by
  rw [Py.bind_run]
  rcases call s with ⟨e | a, t⟩
  · rfl
  · exact hnext a t

theorem bind {A B : Type} {call : Py (State View Obj Urlconf World) A}
    {next : A → Py (State View Obj Urlconf World) B} (hcall : Silent call)
    (hnext : ∀ a, Silent (next a)) : Silent (call >>= next) := fun s =>
  (seen_bind call hnext s).trans (hcall s)

theorem lift {A : Type} (outcome : Except Exc A) :
    Silent (Py.lift outcome : Py (State View Obj Urlconf World) A) := fun _ => rfl

theorem user {A : Type} (code : Py (UrlState Urlconf World) A) :
    Silent (user code : Py (State View Obj Urlconf World) A) := fun _ => rfl

theorem set_urlconf (urlconf : Option Urlconf) :
    Silent (set_urlconf urlconf : Py (State View Obj Urlconf World) Unit) := fun _ => rfl

end Silent

namespace Handler

variable (self : Handler View Obj Regex Urlconf World Reply)

/-- The router of a handler is built for `ROOT_URLCONF`, and its fast path is on only with a
router and without middleware. -/
structure Built (handler : Handler View Obj Regex Urlconf World Reply) : Prop where
  for_root : handler.router.isSome → handler.router_urlconf = some handler.app.ROOT_URLCONF
  fast_ok : handler.fast_ok = true → handler.router.isSome ∧ handler.app.MIDDLEWARE = []

theorem built_new (app : App View Obj Regex Urlconf World Reply) : (new app).Built := by
  refine ⟨fun hrouter => ?_, fun hfast => ?_⟩
  · obtain ⟨router, hsome⟩ := Option.isSome_iff_exists.mp hrouter
    change (Option.map _ _).map _ = _
    rw [show Option.map _ _ = some router from hsome]
    rfl
  · simp only [new, Bool.and_eq_true, List.isEmpty_iff] at hfast
    exact ⟨hfast.1.1, hfast.1.2⟩

theorem isSome_of_router_match {request : Request} {m : Match View Obj}
    (hmatch : self.router_match request = some m) : self.router.isSome := by
  rw [router_match] at hmatch
  obtain ⟨router, hrouter, -⟩ := Option.bind_eq_some_iff.mp hmatch
  rw [hrouter]
  rfl

theorem start_silent : Silent self.start := by
  intro s
  unfold start
  split <;> rfl

theorem teardown_silent (reply : Reply) : Silent (self.teardown reply) := by
  unfold teardown
  apply Silent.bind (Silent.user _)
  intro _
  split
  · exact Silent.pure ()
  · exact Silent.set_urlconf none

theorem start_keeps (s : State View Obj Urlconf World) :
    (self.start s).2.url.attr = s.url.attr ∧
      (self.start s).2.url.thread_local = s.url.thread_local := by
  unfold start
  split <;> exact ⟨rfl, rfl⟩

theorem convert_seen (inner : Py (State View Obj Urlconf World) Reply)
    (s : State View Obj Urlconf World) : (self.convert inner s).2.seen = (inner s).2.seen := by
  unfold convert
  rcases inner s with ⟨_ | _, t⟩ <;> rfl

variable [DecidableEq Urlconf]

/-- What is seen of a request is what `dispatch` lets see. -/
theorem serve_seen (request : Request) (url : UrlState Urlconf World) :
    (self.serve request url).seen = (self.dispatch request ⟨{ url with attr := none }, []⟩).2.seen := by
  unfold serve
  exact Silent.seen_bind _ (fun reply =>
    Silent.bind (Silent.lift _) fun _ => self.teardown_silent reply) _

/-- The chain starts from `ROOT_URLCONF`, whatever was active before. -/
theorem chain_run_forgets (request : Request) (s : State View Obj Urlconf World)
    (urlconf : Option Urlconf) :
    self.chain_run request { s with url := { s.url with thread_local := urlconf } } =
      self.chain_run request s := rfl

theorem handle_eq_chain_run {request : Request}
    (hmiss : self.fast_ok = false ∨ self.router_match request = none)
    (s : State View Obj Urlconf World) : self.handle request s = self.chain_run request s := by
  unfold handle
  by_cases hfast : self.fast_ok = true
  · have hmatch : self.router_match request = none := by simpa [hfast] using hmiss
    rw [if_pos hfast, Py.bind_run]
    simp only [has_urlconf, get_urlconf, Py.gets_run, Py.bind_run, hmatch]
    split
    · exact self.chain_run_forgets request s (some self.app.ROOT_URLCONF)
    · rfl
  · rw [if_neg hfast]

/-- Without a match of the table the signal and the chain are all there is. -/
theorem dispatch_eq_chain {request : Request}
    (hmiss : self.fast_ok = false ∨ self.router_match request = none)
    (s : State View Obj Urlconf World) :
    self.dispatch request s = (do
      self.start
      self.chain_run request) s := by
  have hmatch : ∀ p : Prop, ∀ [Decidable p],
      (if self.fast_ok = true ∧ p then self.router_match request else none) = none := by
    intro p _
    split
    · rename_i hfast
      simpa [hfast.1] using hmiss
    · rfl
  simp only [dispatch, get_urlconf, Py.bind_run, Py.gets_run, hmatch]
  rcases self.start s with ⟨_ | _, t⟩
  · rfl
  · exact self.handle_eq_chain_run hmiss t

/-- A match of the table, seen by the view it selects. -/
def fast_seen (m : Match View Obj) : List (Seen View Obj Urlconf) :=
  [.started self.app.ROOT_URLCONF, .selected ⟨m.callback, m.args, m.kwargs⟩]

theorem resolve_request_of_match {request : Request} {m : Match View Obj}
    (hroot : self.router_urlconf = some self.app.ROOT_URLCONF)
    (hmatch : self.router_match request = some m) {s : State View Obj Urlconf World}
    (hattr : s.url.attr = none) (hactive : s.url.thread_local = some self.app.ROOT_URLCONF) :
    self.resolve_request request s = (.ok ⟨m.callback, m.args, m.kwargs⟩,
      { s with seen := s.seen ++ [.selected ⟨m.callback, m.args, m.kwargs⟩] }) := by
  have hsome := self.isSome_of_router_match hmatch
  simp only [resolve_request, has_urlconf, get_urlconf, Py.bind_run, Py.gets_run, hattr, hactive,
    hsome, hroot, hmatch, Option.getD_none, Option.getD_some, Option.isSome_none, and_self, if_true]
  rfl

/-- The chain without middleware selects what the table has. -/
theorem chain_run_seen {request : Request} {m : Match View Obj} (hbuilt : self.Built)
    (hbare : self.app.MIDDLEWARE = []) (hmatch : self.router_match request = some m)
    {s : State View Obj Urlconf World} (hattr : s.url.attr = none) :
    (self.chain_run request s).2.seen = s.seen ++ self.fast_seen m := by
  let t : State View Obj Urlconf World :=
    ⟨{ s.url with thread_local := some self.app.ROOT_URLCONF },
      s.seen ++ [.started self.app.ROOT_URLCONF]⟩
  have hresolve := self.resolve_request_of_match
    (hbuilt.for_root (self.isSome_of_router_match hmatch)) hmatch
    (show t.url.attr = none from hattr) rfl
  have hview : (self.chain_run_view request t).2.seen = s.seen ++ self.fast_seen m := by
    rw [chain_run_view, Silent.seen_bind _ (fun _ => Silent.user _), hresolve]
    exact List.append_assoc _ _ _
  have hchain : self.chain_run request s = (do
      let reply ← self.convert (self.chain_run_view request)
      user (self.app.finish_chain reply)
      pure reply) t := by
    rw [chain_run, middleware_chain, hbare]
    rfl
  rw [hchain, Silent.seen_bind _ (fun _ => Silent.bind (Silent.user _) fun _ => Silent.pure _),
    convert_seen, hview]

/-- A request that the table has a match for is seen with that match, on the fast path and
on the chain alike. -/
theorem dispatch_seen_of_match {request : Request} {m : Match View Obj} (hbuilt : self.Built)
    (hfast : self.fast_ok = true) (hmatch : self.router_match request = some m)
    {s : State View Obj Urlconf World} (hattr : s.url.attr = none) :
    (self.dispatch request s).2.seen =
      match (self.start s).1 with
      | .ok _ => s.seen ++ self.fast_seen m
      | .error _ => s.seen := by
  obtain ⟨hrouter, hbare⟩ := hbuilt.fast_ok hfast
  have hroot := hbuilt.for_root hrouter
  have hsilent := self.start_silent s
  obtain ⟨hkept_attr, hkept⟩ := self.start_keeps s
  simp only [dispatch, get_urlconf, Py.bind_run, Py.gets_run, hfast, hattr, hroot, hmatch,
    Option.isNone_none, true_and, Option.some.injEq]
  by_cases hactive : s.url.thread_local.getD self.app.ROOT_URLCONF = self.app.ROOT_URLCONF
  · rw [if_pos hactive]
    simp only [Py.bind_run, Py.gets_run]
    rcases hstart : self.start s with ⟨_ | _, t⟩
    · rwa [hstart] at hsilent
    · rw [hstart] at hsilent hkept
      have hview := Silent.user (self.app.inlined_view m)
        (⟨t.url, t.seen ++ [.started (t.url.thread_local.getD self.app.ROOT_URLCONF)] ++
          [.selected ⟨m.callback, m.args, m.kwargs⟩]⟩ : State View Obj Urlconf World)
      refine hview.trans ?_
      rw [hkept, hactive, hsilent, List.append_assoc]
      rfl
  · rw [if_neg hactive]
    simp only [Py.bind_run]
    rcases hstart : self.start s with ⟨_ | _, t⟩
    · rwa [hstart] at hsilent
    · rw [hstart] at hsilent hkept hkept_attr
      have hchain : self.handle request t = self.chain_run request t := by
        have hother : ¬t.url.thread_local.getD self.app.ROOT_URLCONF = self.app.ROOT_URLCONF := by
          rwa [hkept]
        unfold handle
        rw [if_pos hfast, Py.bind_run]
        simp only [has_urlconf, get_urlconf, Py.gets_run, Py.bind_run, hroot, Option.some.injEq,
          hother, and_false, if_false]
      dsimp only
      rw [hchain, self.chain_run_seen hbuilt hbare hmatch (hkept_attr.trans hattr), hsilent]

/-- What is seen of a request does not depend on the URLconf that earlier ones left. -/
theorem dispatch_seen_forgets (hbuilt : self.Built) (request : Request) {s : State View Obj Urlconf World}
    (hattr : s.url.attr = none) (urlconf : Option Urlconf) :
    (self.dispatch request { s with url := { s.url with thread_local := urlconf } }).2.seen =
      (self.dispatch request s).2.seen := by
  have hstart : ∀ t : State View Obj Urlconf World,
      self.start { t with url := { t.url with thread_local := urlconf } } =
        ((self.start t).1, { (self.start t).2 with
          url := { (self.start t).2.url with thread_local := urlconf } }) := by
    intro t
    unfold start
    split <;> rfl
  by_cases hmiss : self.fast_ok = false ∨ self.router_match request = none
  · rw [self.dispatch_eq_chain hmiss, self.dispatch_eq_chain hmiss, Py.bind_run, Py.bind_run, hstart]
    rcases self.start s with ⟨_ | _, t⟩
    · rfl
    · exact congrArg (fun run => run.2.seen) (self.chain_run_forgets request t urlconf)
  · rw [not_or, Bool.not_eq_false] at hmiss
    obtain ⟨m, hmatch⟩ := Option.ne_none_iff_exists'.mp hmiss.2
    have hother := self.dispatch_seen_of_match hbuilt hmiss.1 hmatch
      (s := { s with url := { s.url with thread_local := urlconf } }) hattr
    rw [hother, self.dispatch_seen_of_match hbuilt hmiss.1 hmatch hattr, hstart]

/-- The choice of a URLconf does not leak: after any requests, the next one is seen as on a
fresh worker. -/
theorem urlconf_does_not_leak (app : App View Obj Regex Urlconf World Reply)
    (history : List Request) (request : Request) (world : World) :
    let url := (new app).after history (fresh world)
    ((new app).serve request url).seen = ((new app).serve request (fresh url.world)).seen := by
  intro url
  rw [serve_seen, serve_seen]
  exact ((new app).dispatch_seen_forgets (built_new app) request
    (s := ⟨{ url with attr := none }, []⟩) rfl none).symm

/-- Two routes in pool mode, the view of one of which leaves another URLconf behind. -/
def leaving_app : App String Unit Empty String Unit Unit where
  ROOT_URLCONF := "root"
  MIDDLEWARE := []
  ATOMIC_REQUESTS := [false]
  MASSLESS_POOL_LIFECYCLE := true
  url_patterns _ := .ok [.url_pattern (.route "leave") "leave" .empty none,
    .url_pattern (.route "page") "page" .empty none]
  django := ⟨fun _ => [], fun _ route path => if path = route then some ("", .empty) else none,
    fun regex _ => regex.elim, fun _ _ => none⟩
  iscoroutinefunction _ := true
  run_view _ := pure ()
  inlined_view m :=
    if m.callback = "leave" then Py.modify fun url => { url with thread_local := some "other" }
    else pure ()
  fast_dispatch _ := pure ()
  response_for_exception _ := pure ()
  finish_chain _ := pure ()
  request_started := pure ()
  fold _ := .ok ()
  close _ := pure ()

theorem urlconf_does_not_leak_leaving :
    (new leaving_app).fast_ok = true ∧
      ((new leaving_app).after ["/leave"] (fresh ())).thread_local = some "other" ∧
      ((new leaving_app).serve "/page" ((new leaving_app).after ["/leave"] (fresh ()))).seen =
        [.started "root", .selected ⟨"page", [], .empty⟩] :=
  ⟨rfl, rfl, (urlconf_does_not_leak leaving_app ["/leave"] "/page" ()).trans rfl⟩

end Handler

end

end massless.handler
