import Massless.Chain.Lawful
import Massless.Chain.Onion

open python
open massless.chain

namespace massless.middleware

variable {W Req R Args : Type}

/-- The class lets the request pass to the code inside, from some state. -/
def ClassHooks.Passes (self : ClassHooks W Req R Args) (request : Req) : Prop :=
  ∃ s, ((self.on_request request).in_thread s).1 = .ok .none

/-- No hook of the class that a call comes to is refused. `inner` is what the code inside
answers, and `inside` tells from which states it comes to no refused hook itself. -/
structure ClassHooks.CallSafe (hooks : ClassHooks W Req R Args) (inner : Answer W Req R)
    (inside : W → Prop) (request : Req) (s : W) : Prop where
  asked : (hooks.on_request request).SafeAt s
  handed : ∀ t, (hooks.on_request request).in_thread s = (.ok .none, t) → inside t
  passed : ∀ t response u, (hooks.on_request request).in_thread s = (.ok .none, t) →
    inner request t = (.ok response, u) → (hooks.on_response request response).SafeAt u
  answered : ∀ response t, (hooks.on_request request).in_thread s = (.ok response, t) →
    response.truthy = true → (hooks.on_response request response).SafeAt t

/-- No hook that the class can come to for a request is refused: the hook for responses comes
after the other one let the request pass or answered it itself, and the view hook of a class comes
only behind that. -/
structure ClassHooks.LoopSafe (hooks : ClassHooks W Req R Args) (request : Req) : Prop where
  asked : ∀ s, (hooks.on_request request).SafeAt s
  passed : hooks.Passes request → ∀ response s, (hooks.on_response request response).SafeAt s
  answered : ∀ s response t, (hooks.on_request request).in_thread s = (.ok response, t) →
    response.truthy = true → (hooks.on_response request response).SafeAt t
  view : hooks.Passes request → ∀ process_view, hooks.process_view = some process_view →
    ∀ hit s, (process_view (request, hit)).SafeAt s

theorem ClassHooks.LoopSafe.call_safe {hooks : ClassHooks W Req R Args} {request : Req}
    (hsafe : hooks.LoopSafe request) (inner : Answer W Req R) {inside : W → Prop}
    (hinside : hooks.Passes request → ∀ t, inside t) (s : W) :
    hooks.CallSafe inner inside request s where
  asked := hsafe.asked s
  handed := fun t hpasses => hinside ⟨s, by rw [hpasses]⟩ t
  passed := fun _ response u hpasses _ => hsafe.passed ⟨s, by rw [hpasses]⟩ response u
  answered := hsafe.answered s

theorem or_else_eq (m : Py W (Returned R)) : or_else m = if_none m := by
  funext response
  cases response <;> rfl

/-- The two calls do the same where no hook is refused and the code inside does the same. -/
theorem calls_agree {hooks : ClassHooks W Req R Args} (hportable : hooks.Portable)
    {fast stock : Answer W Req R} {inside : W → Prop} {request : Req} {s : W}
    (hsafe : hooks.CallSafe stock inside request s)
    (hinner : ∀ t, inside t → fast request t = stock request t) (path : String)
    (fast_mode stock_mode : Bool) :
    (fast_middleware path hooks).call fast_mode fast request s =
      (stock_middleware path hooks).call stock_mode stock request s := by
  simp only [fast_middleware, stock_middleware, or_else_eq, Py.bind_run,
    (hportable.request request).same hsafe.asked]
  rcases hrequest : (hooks.on_request request).in_thread s with ⟨e | response, t⟩
  · rfl
  · have hanswered (htruthy : response.truthy = true) :=
      (hportable.response request response).same (hsafe.answered response t hrequest htruthy)
    cases response with
    | none =>
      simp only [if_none]
      rw [hinner t (hsafe.handed t hrequest)]
      rcases hrun : stock request t with ⟨e | response, u⟩
      · rfl
      · exact (hportable.response request response).same (hsafe.passed t response u hrequest hrun)
    | coroutine => exact hanswered rfl
    | value response => exact hanswered rfl

/-- Behind a hook that lets the request pass, a substitute asks the code inside. -/
theorem fast_call_passes {hooks : ClassHooks W Req R Args} {request : Req} {s t : W}
    (hpasses : (hooks.on_request request).on_loop s = (.ok .none, t)) (path : String)
    (is_async : Bool) (get_response : Answer W Req R) :
    (fast_middleware path hooks).call is_async get_response request s =
      (get_response request >>= fun response => (hooks.on_response request response).on_loop) t := by
  simp only [fast_middleware, Py.bind_run, hpasses]
  rfl

theorem fast_view_hook (path : String) (hooks : ClassHooks W Req R Args) :
    (fast_middleware path hooks).view_hook =
      hooks.process_view.map fun process_view a => (process_view a).on_loop := by
  cases hview : hooks.process_view <;> simp [Middleware.view_hook, fast_middleware, hview]

theorem stock_view_hook (path : String) (hooks : ClassHooks W Req R Args) :
    (stock_middleware path hooks).view_hook =
      hooks.process_view.map fun process_view a => (process_view a).in_thread := by
  cases hview : hooks.process_view <;> simp [Middleware.view_hook, stock_middleware, hview]

/-- A substitute with its own `__call__` is one of the generic kind. -/
theorem stateful_middleware_eq (path : String) (process_request : Req → Placed W Unit)
    (aprocess_response : Req → Returned R → Placed W (Returned R)) :
    stateful_middleware path process_request aprocess_response =
      (fast_middleware path ⟨some (returning_none process_request), none, some aprocess_response⟩ :
        Middleware W Req R Args) := by
  have hcall : (stateful_middleware path process_request aprocess_response :
      Middleware W Req R Args).call = (fast_middleware path
        ⟨some (returning_none process_request), none, some aprocess_response⟩ :
          Middleware W Req R Args).call := by
    funext is_async get_response request s
    simp only [stateful_middleware, fast_middleware, ClassHooks.on_request, returning_none,
      ClassHooks.on_response, Placed.bind_on_loop, Placed.pure_on_loop, Py.bind_run, Py.pure_run]
    rcases (process_request request).on_loop s with ⟨e | _, t⟩
    · rfl
    · rfl
  exact congrArg (fun call => Middleware.mk path false true .makes_instance call none none none none
    none) hcall

theorem Builtins.fast_eq (builtins : Builtins W Req R Args) (path : String) (name : Registered) :
    builtins.fast path name = fast_middleware path (builtins.hooks name) := by
  cases name with
  | SessionMiddleware => exact stateful_middleware_eq path _ _
  | MessageMiddleware => exact stateful_middleware_eq path _ _
  | _ => rfl

namespace Site

variable (site : Site W Req R Args) {path : String} {name : Registered}

theorem load_registered (hname : REGISTRY.lookup path = some name) :
    site.load true path = fast_middleware path (site.builtins.hooks name) ∧
      site.load false path = stock_middleware path (site.builtins.hooks name) := by
  constructor
  · simp only [load, if_true, hname, Builtins.fast_eq]
  · simp only [load, import_string, hname, Builtins.stock]
    rfl

theorem load_other (hname : REGISTRY.lookup path = none) (fast_mw : Bool) :
    site.load fast_mw path = site.other path := by
  cases fast_mw <;> simp [load, import_string, hname]

/-- The paths whose classes make a layer. -/
def kept (MIDDLEWARE : List String) : List String :=
  MIDDLEWARE.filter fun path => (site.load false path).used

/-- An other middleware that is built in another mode because a substitute has one mode only does
the same in both. -/
def Steady : List String → Prop
  | [] => True
  | path :: rest => Steady rest ∧ (REGISTRY.lookup path = none →
      mode ((path :: rest).map (site.load true)) = mode ((path :: rest).map (site.load false)) ∨
        (site.other path).call true = (site.other path).call false)

/-- So it is called alike on both lists. -/
theorem steady_call {rest : List String} (hsteady : site.Steady (path :: rest))
    (hname : REGISTRY.lookup path = none) :
    (site.load true path).call (mode (site.load true path :: rest.map (site.load true))) =
      (site.load false path).call (mode (site.load false path :: rest.map (site.load false))) := by
  obtain hmode | hcall := hsteady.2 hname
  · simp only [List.map_cons, site.load_other hname] at hmode ⊢
    rw [hmode]
  · have hblind (is_async : Bool) : (site.other path).call is_async =
        (site.other path).call true := by
      cases is_async with
      | false => exact hcall.symm
      | true => rfl
    rw [site.load_other hname, site.load_other hname, hblind, hblind (mode (_ :: rest.map _))]

theorem load_flags (path : String) : (site.load true path).used = (site.load false path).used ∧
    (site.load true path).refusal = (site.load false path).refusal := by
  cases hname : REGISTRY.lookup path with
  | some name =>
    rw [(site.load_registered hname).1, (site.load_registered hname).2]
    exact ⟨rfl, rfl⟩
  | none =>
    rw [site.load_other hname, site.load_other hname]
    exact ⟨rfl, rfl⟩

theorem refused_eq (MIDDLEWARE : List String) :
    refused (MIDDLEWARE.map (site.load true)) = refused (MIDDLEWARE.map (site.load false)) := by
  induction MIDDLEWARE with
  | nil => rfl
  | cons path rest ih =>
    rw [List.map_cons, List.map_cons, refused, refused, ih, (site.load_flags path).2]

theorem used_eq (MIDDLEWARE : List String) (fast_mw : Bool) :
    (MIDDLEWARE.map (site.load fast_mw)).filter Middleware.used =
      (site.kept MIDDLEWARE).map (site.load fast_mw) := by
  have hused : Middleware.used ∘ site.load fast_mw = fun path => (site.load false path).used := by
    funext path
    cases fast_mw with
    | false => rfl
    | true => exact (site.load_flags path).1
  rw [List.filter_map, hused]
  rfl

/-- No view hook of a registered class that the request comes to is refused. -/
def ViewSafe : List String → Req × Hit W Req R Args → W → Prop
  | [], _, _ => True
  | path :: rest, a, s =>
    (∀ name, REGISTRY.lookup path = some name → ∀ process_view,
      (site.builtins.hooks name).process_view = some process_view → (process_view a).SafeAt s) ∧
    ((site.load false path).view_hook = none → ViewSafe rest a s) ∧
    ∀ hook, (site.load false path).view_hook = some hook → ∀ response t,
      hook a s = (.ok response, t) → response.truthy = false → ViewSafe rest a t

/-- The request comes to no refused view hook. -/
def CoreSafe (django : Django W Req R Args) (paths : List String) (request : Req) (s : W) : Prop :=
  ∀ hit t, django.resolve_request request s = (.ok hit, t) → site.ViewSafe paths (request, hit) t

/-- On its way through the stock classes the request comes to no hook that is refused on the event
loop. `core` is what they are around, and `core_safe` tells from where it is safe. An other
middleware may hand on what it likes, as long as what it makes of the request depends on the code
inside only for what is safe there. -/
def SafeFrom (django : Django W Req R Args) (core : Answer W Req R)
    (core_safe : Req → W → Prop) : List String → Req → W → Prop
  | [], request, s => core_safe request s
  | path :: rest, request, s =>
    (∀ name, REGISTRY.lookup path = some name →
      (site.builtins.hooks name).CallSafe (django.onion core (rest.map (site.load false)))
        (SafeFrom django core core_safe rest request) request s) ∧
    (REGISTRY.lookup path = none → ∀ is_async get_response,
      (∀ r t, SafeFrom django core core_safe rest r t →
        get_response r t = django.onion core (rest.map (site.load false)) r t) →
      (site.other path).call is_async get_response request s =
        (site.other path).call is_async (django.onion core (rest.map (site.load false))) request s)

/-- The run of a request with the stock classes comes to no hook that is refused on the event
loop. -/
def SafeRun (django : Django W Req R Args) (MIDDLEWARE : List String) (request : Req) (s : W) :
    Prop :=
  ∀ t, django.set_urlconf s = (.ok (), t) →
    site.SafeFrom django (django.core ((site.kept MIDDLEWARE).map (site.load false)))
      (site.CoreSafe django (site.kept MIDDLEWARE)) (site.kept MIDDLEWARE) request t

theorem respond_congr (django : Django W Req R Args) {fast stock : Answer W Req R} {request : Req}
    {s : W} (hsame : fast request s = stock request s) :
    django.respond fast request s = django.respond stock request s := by
  simp only [Django.respond, Py.try_except_run, hsame]

/-- The hooks of the class at the path, if it is registered, are the same in both places but for
refused calls. -/
def Portable (path : String) : Prop :=
  ∀ name, REGISTRY.lookup path = some name → (site.builtins.hooks name).Portable

/-- Around cores that do the same where the request is safe, both lists make the same of it. -/
theorem onions_agree (django : Django W Req R Args) {fast stock : Answer W Req R}
    {core_safe : Req → W → Prop}
    (hcore : ∀ request s, core_safe request s → fast request s = stock request s)
    {paths : List String} (hportable : ∀ path ∈ paths, site.Portable path)
    (hsteady : site.Steady paths) {request : Req} {s : W}
    (hsafe : site.SafeFrom django stock core_safe paths request s) :
    django.onion fast (paths.map (site.load true)) request s =
      django.onion stock (paths.map (site.load false)) request s := by
  induction paths generalizing request s with
  | nil => exact respond_congr django (hcore request s hsafe)
  | cons path rest ih =>
    have hrest (r : Req) (t : W) (hinside : site.SafeFrom django stock core_safe rest r t) :
        django.onion fast (rest.map (site.load true)) r t =
          django.onion stock (rest.map (site.load false)) r t :=
      ih (fun path hpath => hportable path (List.mem_cons_of_mem _ hpath)) hsteady.1 hinside
    simp only [List.map_cons, Django.onion]
    apply respond_congr
    cases hname : REGISTRY.lookup path with
    | some name =>
      rw [(site.load_registered hname).1, (site.load_registered hname).2]
      exact calls_agree (hportable path List.mem_cons_self name hname) (hsafe.1 name hname)
        (fun t => hrest request t) path _ _
    | none =>
      rw [site.steady_call hsteady hname, site.load_other hname]
      exact hsafe.2 hname _ _ hrest

/-- A registered class has no other hooks than these, and an other one is loaded as it is. -/
theorem late_hooks (path : String) :
    (site.load true path).template_hook = (site.load false path).template_hook ∧
      (site.load true path).exception_hook = (site.load false path).exception_hook := by
  cases hname : REGISTRY.lookup path with
  | some name =>
    rw [(site.load_registered hname).1, (site.load_registered hname).2]
    exact ⟨rfl, rfl⟩
  | none =>
    rw [site.load_other hname, site.load_other hname]
    exact ⟨rfl, rfl⟩

theorem template_hooks_eq (paths : List String) :
    (paths.map (site.load true)).reverse.filterMap Middleware.template_hook =
      (paths.map (site.load false)).reverse.filterMap Middleware.template_hook := by
  rw [← List.map_reverse, ← List.map_reverse, List.filterMap_map, List.filterMap_map]
  exact List.filterMap_congr fun path _ => (site.late_hooks path).1

theorem exception_hooks_eq (paths : List String) :
    (paths.map (site.load true)).reverse.filterMap Middleware.exception_hook =
      (paths.map (site.load false)).reverse.filterMap Middleware.exception_hook := by
  rw [← List.map_reverse, ← List.map_reverse, List.filterMap_map, List.filterMap_map]
  exact List.filterMap_congr fun path _ => (site.late_hooks path).2

/-- A view hook does the same in both places where it is not refused. -/
theorem view_hook_cases {path : String} (hportable : site.Portable path) :
    ((site.load true path).view_hook = none ∧ (site.load false path).view_hook = none) ∨
      ∃ fast stock, (site.load true path).view_hook = some fast ∧
        (site.load false path).view_hook = some stock ∧ ∀ a s,
          (∀ name, REGISTRY.lookup path = some name → ∀ process_view,
            (site.builtins.hooks name).process_view = some process_view →
              (process_view a).SafeAt s) → fast a s = stock a s := by
  cases hname : REGISTRY.lookup path with
  | some name =>
    rw [(site.load_registered hname).1, (site.load_registered hname).2, fast_view_hook,
      stock_view_hook]
    cases hview : (site.builtins.hooks name).process_view with
    | none => exact Or.inl ⟨rfl, rfl⟩
    | some process_view =>
      refine Or.inr ⟨_, _, rfl, rfl, fun a s hsafe => ?_⟩
      exact ((hportable name hname).view process_view hview a).same (hsafe name rfl process_view hview)
  | none =>
    rw [site.load_other hname, site.load_other hname]
    cases hview : (site.other path).view_hook with
    | none => exact Or.inl ⟨rfl, rfl⟩
    | some hook => exact Or.inr ⟨hook, hook, rfl, rfl, fun _ _ _ => rfl⟩

theorem view_hooks_agree {paths : List String} (hportable : ∀ path ∈ paths, site.Portable path)
    {a : Req × Hit W Req R Args} {s : W} (hsafe : site.ViewSafe paths a s) :
    first_response a ((paths.map (site.load true)).filterMap Middleware.view_hook) s =
      first_response a ((paths.map (site.load false)).filterMap Middleware.view_hook) s := by
  induction paths generalizing s with
  | nil => rfl
  | cons path rest ih =>
    rw [List.forall_mem_cons] at hportable
    obtain ⟨hregistered, hnone, hsome⟩ := hsafe
    obtain ⟨hfast, hstock⟩ | ⟨fast, stock, hfast, hstock, hsame⟩ :=
      site.view_hook_cases hportable.1
    · rw [List.map_cons, List.map_cons, List.filterMap_cons_none hfast,
        List.filterMap_cons_none hstock, ih hportable.2 (hnone hstock)]
    · rw [List.map_cons, List.map_cons, List.filterMap_cons_some hfast,
        List.filterMap_cons_some hstock]
      simp only [first_response, Py.bind_run, hsame a s hregistered]
      rcases hrun : stock a s with ⟨e | response, t⟩
      · rfl
      · dsimp only
        by_cases htruthy : response.truthy = true
        · rw [if_pos htruthy, if_pos htruthy]
        · rw [if_neg htruthy, if_neg htruthy]
          exact ih hportable.2 (hsome stock hstock response t hrun (Bool.eq_false_iff.mpr htruthy))

/-- Where the request comes to no refused view hook, the cores do the same. -/
theorem cores_agree (django : Django W Req R Args) {paths : List String}
    (hportable : ∀ path ∈ paths, site.Portable path) {request : Req} {s : W}
    (hsafe : site.CoreSafe django paths request s) :
    django.core (paths.map (site.load true)) request s =
      django.core (paths.map (site.load false)) request s := by
  unfold Django.core Django.viewed Django.rendered Django.handled
  rw [site.template_hooks_eq, site.exception_hooks_eq, Py.bind_run, Py.bind_run]
  rcases hresolve : django.resolve_request request s with ⟨e | hit, t⟩
  · rfl
  · simp only [Py.bind_run, site.view_hooks_agree hportable (hsafe hit t hresolve)]

/-- With substitutes a request that comes to no refused hook is answered as without. -/
theorem run_agrees (django : Django W Req R Args) {MIDDLEWARE : List String}
    (hportable : ∀ path ∈ MIDDLEWARE, site.Portable path)
    (hsteady : site.Steady (site.kept MIDDLEWARE)) {request : Req} {s : W}
    (hsafe : site.SafeRun django MIDDLEWARE request s) :
    site.run true MIDDLEWARE django request s = site.run false MIDDLEWARE django request s := by
  unfold run
  rw [run_build, run_build, site.refused_eq, site.used_eq, site.used_eq]
  cases refused (MIDDLEWARE.map (site.load false)) with
  | some e => rfl
  | none =>
    simp only [Py.bind_run]
    rcases hset : django.set_urlconf s with ⟨e | ⟨⟩, t⟩
    · rfl
    · have hkept : ∀ path ∈ site.kept MIDDLEWARE, site.Portable path := fun path hpath =>
        hportable path (List.mem_of_mem_filter hpath)
      simp only [site.onions_agree django (fun _ _ hcore => site.cores_agree django hkept hcore)
        hkept hsteady (hsafe t hset)]

/-- The registered class at the path lets the request pass from some state, if there is one. -/
def Passable (path : String) (request : Req) : Prop :=
  ∀ name, REGISTRY.lookup path = some name → (site.builtins.hooks name).Passes request

/-- The class at the path, if it is registered, can be substituted for a request. -/
def Safe (path : String) (request : Req) : Prop :=
  ∀ name, REGISTRY.lookup path = some name → (site.builtins.hooks name).LoopSafe request

theorem viewSafe_of_safe {paths : List String} {request : Req}
    (hsafe : ∀ path ∈ paths, site.Safe path request)
    (hpassable : ∀ path ∈ paths, site.Passable path request) (hit : Hit W Req R Args) (s : W) :
    site.ViewSafe paths (request, hit) s := by
  induction paths generalizing s with
  | nil => trivial
  | cons path rest ih =>
    rw [List.forall_mem_cons] at hsafe hpassable
    have hrest (t : W) := ih hsafe.2 hpassable.2 t
    refine ⟨fun name hname process_view hview => ?_, fun _ => hrest s, fun _ _ _ t _ _ => hrest t⟩
    exact (hsafe.1 name hname).view (hpassable.1 name hname) process_view hview hit s

/-- What an other middleware makes of a request depends on the code inside for that request
only. -/
def HandsOn (path : String) (request : Req) : Prop :=
  REGISTRY.lookup path = none → ∀ is_async get_response inner,
    get_response request = inner request →
      (site.other path).call is_async get_response request =
        (site.other path).call is_async inner request

/-- Classes that can be substituted for the request make it safe from every state. -/
theorem safeFrom_of_safe {django : Django W Req R Args} {core : Answer W Req R}
    {core_safe : Req → W → Prop} {request : Req} {paths : List String}
    (hsafe : ∀ path ∈ paths, site.Safe path request)
    (hhands : ∀ path ∈ paths, site.HandsOn path request)
    (hcore : (∀ path ∈ paths, site.Passable path request) → ∀ s, core_safe request s) (s : W) :
    site.SafeFrom django core core_safe paths request s := by
  induction paths generalizing s with
  | nil => exact hcore (List.forall_mem_nil _) s
  | cons path rest ih =>
    have hrest (hpassable : site.Passable path request) (t : W) :
        site.SafeFrom django core core_safe rest request t := by
      refine ih (fun path hpath => hsafe path (List.mem_cons_of_mem _ hpath))
        (fun path hpath => hhands path (List.mem_cons_of_mem _ hpath)) (fun hpassables => ?_) t
      exact hcore (List.forall_mem_cons.2 ⟨hpassable, hpassables⟩)
    refine ⟨fun name hname => ?_, fun hname is_async get_response hsame => ?_⟩
    · refine (hsafe path List.mem_cons_self name hname).call_safe _ (fun hpasses => hrest ?_) s
      intro name' hname'
      rw [hname] at hname'
      cases hname'
      exact hpasses
    · have hpassable : site.Passable path request := by
        intro name hregistered
        rw [hname] at hregistered
        cases hregistered
      exact congrFun (hhands path List.mem_cons_self hname is_async get_response _
        (funext fun t => hsame request t (hrest hpassable t))) s

/-- With substitutes that are safe for the request the chain does what it does without. -/
theorem run_agrees_of_safe {MIDDLEWARE : List String}
    (hportable : ∀ path ∈ MIDDLEWARE, site.Portable path) {request : Req}
    (hsafe : ∀ path ∈ MIDDLEWARE, site.Safe path request)
    (hhands : ∀ path ∈ MIDDLEWARE, site.HandsOn path request)
    (hsteady : site.Steady (site.kept MIDDLEWARE)) (django : Django W Req R Args) :
    site.run true MIDDLEWARE django request = site.run false MIDDLEWARE django request := by
  have hkept : ∀ path ∈ site.kept MIDDLEWARE, path ∈ MIDDLEWARE := fun path hpath =>
    List.mem_of_mem_filter hpath
  funext s
  refine site.run_agrees django hportable hsteady fun t _ => ?_
  refine site.safeFrom_of_safe (fun path hpath => hsafe path (hkept path hpath))
    (fun path hpath => hhands path (hkept path hpath)) (fun hpassable u hit v _ => ?_) t
  exact site.viewSafe_of_safe (fun path hpath => hsafe path (hkept path hpath)) hpassable hit v

end Site

end massless.middleware
