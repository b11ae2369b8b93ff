import Massless.Chain.Build
import Mathlib.Data.List.Chain

open python

namespace massless.chain

variable {W Req R Args : Type}

/-- Some code around a request: what a request is answered with. -/
abbrev Answer (W Req R : Type) := Req → Py W (Returned R)

/-- The first hook that responds, in the order of the list. -/
def first_response {A : Type} (a : A) : List (A → Py W (Returned R)) → Py W (Returned R)
  | [] => pure .none
  | hook :: rest => do
    let response ← hook a
    if response.truthy then pure response else first_response a rest

/-- A response handed from hook to hook. -/
def hand_on (request : Req) : List (Req × R → Py W (Returned R)) → R → Py W R
  | [], response => pure response
  | hook :: rest, response => do
    let returned ← hook (request, response)
    let response ← Py.lift (check_response returned)
    hand_on request rest response

/-- The mode of the outermost layer: in sync mode a layer stays sync where it can, and the core
is async. -/
def mode : List (Middleware W Req R Args) → Bool
  | [] => true
  | middleware :: rest => middleware_is_async (mode rest) middleware

namespace Middleware

/-- The entry makes a layer. -/
def used (self : Middleware W Req R Args) : Bool := self.factory = .makes_instance

/-- A class that Django admits: it has a mode, and its factory returns something. -/
def Admitted (self : Middleware W Req R Args) : Prop :=
  (self.sync_capable = true ∨ self.async_capable = true) ∧ self.factory ≠ .returns_none

def view_hook (self : Middleware W Req R Args) :
    Option (Req × Hit W Req R Args → Py W (Returned R)) :=
  self.aprocess_view.or (self.process_view.map Callable.body)

def template_hook (self : Middleware W Req R Args) : Option (Req × R → Py W (Returned R)) :=
  self.aprocess_template_response.or (self.process_template_response.map Callable.body)

def exception_hook (self : Middleware W Req R Args) : Option (Req × Exc → Py W (Returned R)) :=
  self.process_exception.map Callable.body

end Middleware

namespace Django

variable (django : Django W Req R Args)

/-- Code with its exceptions turned into responses. -/
def respond (answer : Answer W Req R) : Answer W Req R := fun request =>
  Py.try_except django.catches (answer request) fun exc => do
    let response ← django.response_for_exception request exc
    pure (.value response)

/-- The onion: the first middleware is the outermost, every layer is around the ones behind
it in the list, and what a layer raises is a response to the layer around it. -/
def onion (view : Answer W Req R) : List (Middleware W Req R Args) → Answer W Req R
  | [] => django.respond view
  | middleware :: rest =>
    django.respond (middleware.call (mode (middleware :: rest)) (onion view rest))

/-- The exception hooks, from the last middleware to the first, for what `m` raises. -/
def handled (layers : List (Middleware W Req R Args)) (request : Req)
    (m : Py W (Returned R)) : Py W (Returned R) :=
  Py.try_except django.catches m fun e => do
    let response ← first_response (request, e) (layers.reverse.filterMap Middleware.exception_hook)
    if_none (Py.raise e) response

/-- The call of the view. -/
def viewed (layers : List (Middleware W Req R Args)) (request : Req) (hit : Hit W Req R Args) :
    Py W (Returned R) := do
  let callback ← Py.lift (django.make_view_atomic hit.callback)
  django.handled layers request (callback.body (request, hit.args))

/-- The call of `response.render`. -/
def rendering (response : R) : Py W (Returned R) :=
  match django.render response with
  | some render => render.body ()
  | none => Py.raise (.AttributeError "render")

/-- The rendering of what the template-response hooks, from the last middleware to the
first, make of a response that is rendered late. -/
def rendered (layers : List (Middleware W Req R Args)) (request : Req) (response : R) :
    Py W (Returned R) :=
  match django.render response with
  | none => pure (.value response)
  | some _ => do
    let response ← hand_on request (layers.reverse.filterMap Middleware.template_hook) response
    django.handled layers request (django.rendering response)

/-- The core of the onion: the view hooks, from the first middleware to the last, the view
where none of them responds, and the rendering. -/
def core (layers : List (Middleware W Req R Args)) : Answer W Req R := fun request => do
  let hit ← django.resolve_request request
  let response ← first_response (request, hit) (layers.filterMap Middleware.view_hook)
  let response ← if_none (django.viewed layers request hit) response
  let response ← Py.lift (check_response response)
  let response ← django.rendered layers request response
  refuse_coroutine response

end Django

/-- The hook lists of the chain for the entries that make layers. -/
def hooks_of (layers : List (Middleware W Req R Args)) : Hooks W Req R Args where
  view := (layers.filterMap Middleware.view_hook).map (Callable.mk true)
  template_response := (layers.reverse.filterMap Middleware.template_hook).map (Callable.mk true)
  exception := (layers.reverse.filterMap Middleware.exception_hook).map (Callable.mk false)

theorem await_adapted_eq {A : Type} (method : Callable W A R) (a : A) :
    await_adapted method a = method.body a := by
  obtain ⟨mode, body⟩ := method
  cases mode <;> rfl

theorem run_view_hooks_eq {A : Type} (a : A) (hooks : List (A → Py W (Returned R))) :
    run_view_hooks a (hooks.map (Callable.mk true)) .none = first_response a hooks := by
  induction hooks with
  | nil => rfl
  | cons hook rest ih =>
    apply congrArg (hook a >>= ·)
    funext response
    cases response with
    | none => exact ih
    | coroutine => rfl
    | value response => rfl

theorem process_exception_eq {A : Type} (a : A) (hooks : List (A → Py W (Returned R))) :
    process_exception_by_middleware a (hooks.map (Callable.mk false)) = first_response a hooks := by
  induction hooks with
  | nil => rfl
  | cons hook rest ih =>
    apply congrArg (hook a >>= ·)
    funext response
    rw [ih]

theorem run_template_hooks_eq (request : Req) (hooks : List (Req × R → Py W (Returned R)))
    (response : R) :
    run_template_hooks request (hooks.map (Callable.mk true)) response =
      hand_on request hooks response := by
  induction hooks generalizing response with
  | nil => rfl
  | cons hook rest ih =>
    apply congrArg (hook (request, response) >>= ·)
    funext returned
    apply congrArg (Py.lift (check_response returned) >>= ·)
    funext response
    exact ih response

namespace Django

variable (django : Django W Req R Args)

theorem through_exception_hooks_eq (layers : List (Middleware W Req R Args)) (request : Req)
    (m : Py W (Returned R)) :
    django.through_exception_hooks (hooks_of layers) request m =
      django.handled layers request m := by
  unfold through_exception_hooks handled
  simp only [hooks_of, process_exception_eq]

theorem call_view_eq (layers : List (Middleware W Req R Args)) (request : Req)
    (hit : Hit W Req R Args) :
    django.call_view (hooks_of layers) request hit = django.viewed layers request hit := by
  unfold call_view viewed
  simp only [through_exception_hooks_eq, await_adapted_eq]

theorem call_render_eq (response : R) : django.call_render response = django.rendering response := by
  unfold call_render rendering
  cases django.render response with
  | none => rfl
  | some render => exact await_adapted_eq render ()

theorem render_late_eq (layers : List (Middleware W Req R Args)) (request : Req) (response : R) :
    django.render_late (hooks_of layers) request response =
      django.rendered layers request response := by
  unfold render_late rendered
  cases django.render response with
  | none => rfl
  | some render =>
    simp only [through_exception_hooks_eq, call_render_eq]
    simp only [hooks_of, run_template_hooks_eq]

/-- With these hook lists the view is run as in the core of the onion. -/
theorem run_view_eq_core (layers : List (Middleware W Req R Args)) :
    django.run_view (hooks_of layers) = django.core layers := by
  funext request
  unfold run_view core
  simp only [call_view_eq, render_late_eq]
  simp only [hooks_of, run_view_hooks_eq]

theorem convert_eq_respond (get_response : Callable W Req R) :
    django.convert_exception_to_response get_response =
      ⟨get_response.is_async, django.respond get_response.body⟩ := by
  rw [convert_exception_to_response, Callable.invoke_self]
  rfl

/-- What a layer raises is a response outside of it, unless the conversion itself raises. -/
theorem respond_contained (answer : Answer W Req R) (request : Req) (s : W) {e : Exc}
    (hraises : (django.respond answer request s).1 = .error e) :
    django.catches e = false ∨
      ∃ exc t, (django.response_for_exception request exc t).1 = .error e := by
  simp only [respond, Py.try_except_run] at hraises
  cases hanswer : answer request s with
  | mk outcome t =>
    rw [hanswer] at hraises
    cases outcome with
    | ok response => cases hraises
    | error exc =>
      simp only at hraises
      split at hraises
      · right
        refine ⟨exc, t, ?_⟩
        rw [Py.bind_run] at hraises
        cases hconvert : django.response_for_exception request exc t with
        | mk converted u =>
          rw [hconvert] at hraises
          cases converted with
          | ok response => cases hraises
          | error raised =>
            cases hraises
            rfl
      · rename_i hpasses
        cases hraises
        exact Or.inl (by simpa using hpasses)

end Django

/-- What the build loop has made of some entries: a callable that does what the onion of
their layers does, the hooks of these layers, and layers that each hold a `get_response` of
their own mode. -/
structure Realizes (django : Django W Req R Args) (view : Answer W Req R)
    (used : List (Middleware W Req R Args)) (built : Built W Req R Args) : Prop where
  hooks : built.hooks = hooks_of used
  handler_is_async : built.handler_is_async = mode used
  composed : built.composed = ⟨mode used, django.onion view used⟩
  layers : built.layers.map Layer.middleware = used.reverse
  modes : ∀ layer ∈ built.layers, layer.get_response.is_async = layer.is_async ∧
    (if layer.is_async then layer.middleware.async_capable else layer.middleware.sync_capable) =
      true
  responds : ∀ layer ∈ built.layers, ∃ answer, layer.get_response.body = django.respond answer
  joined : built.layers.IsChain fun inner outer => outer.get_response =
    ⟨outer.is_async, (django.convert_exception_to_response inner.callable).body⟩
  outermost : ∀ layer ∈ built.layers.getLast?,
    built.composed = django.convert_exception_to_response layer.callable

namespace Django

variable (django : Django W Req R Args)

theorem onion_responds (view : Answer W Req R) (used : List (Middleware W Req R Args)) :
    ∃ answer, django.onion view used = django.respond answer := by
  cases used with
  | nil => exact ⟨view, rfl⟩
  | cons middleware rest => exact ⟨_, rfl⟩

end Django

/-- Adapting the hooks of a middleware puts them where the hooks of its layer are. -/
theorem add_hooks_eq (used : List (Middleware W Req R Args)) (middleware : Middleware W Req R Args) :
    add_hooks (hooks_of used) middleware = .ok (hooks_of (middleware :: used)) := by
  have hview : add_view_hook (hooks_of used).view middleware =
      .ok (hooks_of (middleware :: used)).view := by
    cases hnative : middleware.aprocess_view <;> cases hsync : middleware.process_view <;>
      simp [add_view_hook, hooks_of, Middleware.view_hook, List.filterMap_cons, hnative, hsync,
        Callable.adapt_method_mode_eq, Except.map]
  have htemplate : add_template_hook (hooks_of used).template_response middleware =
      .ok (hooks_of (middleware :: used)).template_response := by
    cases hnative : middleware.aprocess_template_response <;>
      cases hsync : middleware.process_template_response <;>
        simp [add_template_hook, hooks_of, Middleware.template_hook, List.filterMap_cons, hnative,
          hsync, Callable.adapt_method_mode_eq, Except.map]
  have hexception : add_exception_hook (hooks_of used).exception middleware =
      .ok (hooks_of (middleware :: used)).exception := by
    cases hhook : middleware.process_exception <;>
      simp [add_exception_hook, hooks_of, Middleware.exception_hook, List.filterMap_cons, hhook,
        Callable.adapt_method_mode_eq, Except.map]
  simp only [add_hooks, hview, htemplate, hexception]
  rfl

/-- An instance has the mode that it is built in, and its class has this mode. -/
theorem instantiate_is_async {middleware : Middleware W Req R Args} {handler_is_async : Bool}
    (hadmitted : middleware.Admitted) {get_response : Callable W Req R}
    (hmode : get_response.is_async = middleware_is_async handler_is_async middleware) :
    (middleware.instantiate get_response).is_async = get_response.is_async ∧
      (if get_response.is_async then middleware.async_capable else middleware.sync_capable) =
        true := by
  have hcapable := hadmitted.1
  rw [hmode]
  unfold Middleware.instantiate
  rw [hmode]
  unfold middleware_is_async
  cases hsync : middleware.sync_capable <;> cases hasync : middleware.async_capable <;>
    cases handler_is_async <;> simp [hsync, hasync] at hcapable ⊢

variable {django : Django W Req R Args} {view : Answer W Req R}
  {used : List (Middleware W Req R Args)} {built : Built W Req R Args}
  {middleware : Middleware W Req R Args}

/-- The next layer: an instance around what has been built, in the mode of the instance. -/
def next_layer (built : Built W Req R Args) (middleware : Middleware W Req R Args) :
    Layer W Req R Args :=
  middleware.instantiate
    ⟨middleware_is_async built.handler_is_async middleware, built.composed.body⟩

/-- A turn of the loop with an admitted entry. -/
theorem build_step_eq (hrealizes : Realizes django view used built)
    (hadmitted : middleware.Admitted) :
    django.build_step built middleware = .ok
      (if middleware.used then
        ⟨hooks_of (middleware :: used), built.layers ++ [next_layer built middleware],
          django.convert_exception_to_response (next_layer built middleware).callable,
          middleware_is_async built.handler_is_async middleware⟩
      else built) := by
  have hcapable : (!middleware.sync_capable && !middleware.async_capable) = false := by
    obtain hsync | hasync := hadmitted.1
    · simp [hsync]
    · simp [hasync]
  have hflag : built.composed.is_async = built.handler_is_async := by
    rw [hrealizes.composed, hrealizes.handler_is_async]
  have hadapted := Callable.adapt_method_mode_eq
    (middleware_is_async built.handler_is_async middleware) built.composed
  rw [hflag] at hadapted
  have hhooks := add_hooks_eq used middleware
  rw [← hrealizes.hooks] at hhooks
  unfold Django.build_step Middleware.used
  rw [hcapable, if_neg Bool.false_ne_true]
  simp only [hadapted, hhooks]
  cases hfactory : middleware.factory with
  | returns_none => exact absurd hfactory hadmitted.2
  | raises_not_used => rfl
  | makes_instance => rfl

/-- The next layer in its own mode. -/
theorem next_layer_modes (hadmitted : middleware.Admitted) :
    (next_layer built middleware).get_response.is_async =
        (next_layer built middleware).is_async ∧
      (if (next_layer built middleware).is_async then middleware.async_capable
        else middleware.sync_capable) = true := by
  obtain ⟨hmode, hcapable⟩ := instantiate_is_async hadmitted
    (rfl : (next_layer built middleware).get_response.is_async =
      middleware_is_async built.handler_is_async middleware)
  refine ⟨hmode.symm, ?_⟩
  rw [← hmode] at hcapable
  exact hcapable

/-- The next layer as a callable. -/
theorem next_layer_callable (hrealizes : Realizes django view used built)
    (hadmitted : middleware.Admitted) :
    (next_layer built middleware).callable = ⟨mode (middleware :: used),
      middleware.call (mode (middleware :: used)) (django.onion view used)⟩ := by
  have hmode : (next_layer built middleware).is_async = mode (middleware :: used) := by
    rw [← (next_layer_modes hadmitted).1, mode, ← hrealizes.handler_is_async]
    rfl
  have hbody : (next_layer built middleware).get_response.body = django.onion view used := by
    change built.composed.body = _
    rw [hrealizes.composed]
  rw [Layer.callable, ← (next_layer_modes hadmitted).1, Callable.invoke_self,
    (next_layer_modes hadmitted).1, hmode, hbody]
  rfl

/-- An entry that makes an instance is a layer around what has been built. -/
theorem Realizes.cons (hrealizes : Realizes django view used built)
    (hadmitted : middleware.Admitted) :
    Realizes django view (middleware :: used)
      ⟨hooks_of (middleware :: used), built.layers ++ [next_layer built middleware],
        django.convert_exception_to_response (next_layer built middleware).callable,
        middleware_is_async built.handler_is_async middleware⟩ where
  hooks := rfl
  handler_is_async := by rw [mode, hrealizes.handler_is_async]
  composed := by
    rw [Django.convert_eq_respond, next_layer_callable hrealizes hadmitted]
    rfl
  layers := by
    rw [List.map_append, hrealizes.layers, List.reverse_cons]
    rfl
  modes := by
    intro layer hlayer
    obtain hbuilt | hnext := List.mem_append.1 hlayer
    · exact hrealizes.modes layer hbuilt
    · rw [List.mem_singleton.1 hnext]
      exact next_layer_modes hadmitted
  responds := by
    intro layer hlayer
    obtain hbuilt | hnext := List.mem_append.1 hlayer
    · exact hrealizes.responds layer hbuilt
    · rw [List.mem_singleton.1 hnext]
      obtain ⟨answer, honion⟩ := django.onion_responds view used
      refine ⟨answer, ?_⟩
      change built.composed.body = _
      rw [hrealizes.composed, honion]
  joined := by
    refine hrealizes.joined.append (.singleton _) ?_
    intro inner hinner outer houter
    cases houter
    rw [← hrealizes.outermost inner hinner, ← (next_layer_modes hadmitted).1]
    rfl
  outermost := by
    intro layer hlayer
    rw [List.getLast?_concat] at hlayer
    cases hlayer
    rfl

/-- The loop over entries that Django admits goes through. The entries that make no instance
leave no trace in what is built. -/
theorem build_loop_realizes (django : Django W Req R Args) (run_time : Hooks W Req R Args)
    (middleware : List (Middleware W Req R Args)) (hadmitted : ∀ m ∈ middleware, m.Admitted) :
    ∃ built, django.build_loop run_time middleware = .ok built ∧
      django.build_loop run_time (middleware.filter Middleware.used) = .ok built ∧
      Realizes django (django.run_view run_time) (middleware.filter Middleware.used) built := by
  simp only [Django.build_loop, List.foldlM_reverse]
  induction middleware with
  | nil =>
    refine ⟨_, rfl, rfl, rfl, rfl, django.convert_eq_respond _, rfl, ?_, ?_, .nil, ?_⟩
    all_goals intro layer hlayer; cases hlayer
  | cons entry rest ih =>
    obtain ⟨built, hrest, hused, hrealizes⟩ :=
      ih fun m hm => hadmitted m (List.mem_cons_of_mem entry hm)
    have hentry := hadmitted entry List.mem_cons_self
    have hstep := build_step_eq hrealizes hentry
    simp only [List.foldrM_cons, hrest, List.filter_cons]
    cases hmakes : entry.used with
    | false =>
      rw [hmakes] at hstep
      exact ⟨built, hstep, hused, hrealizes⟩
    | true =>
      rw [hmakes] at hstep
      refine ⟨_, hstep, ?_, hrealizes.cons hentry⟩
      rw [if_pos rfl, List.foldrM_cons, hused]
      exact hstep

/-- The chain of entries that Django admits. -/
theorem build_realizes (django : Django W Req R Args) (middleware : List (Middleware W Req R Args))
    (hadmitted : ∀ m ∈ middleware, m.Admitted) :
    ∃ built, Realizes django (django.core (middleware.filter Middleware.used))
        (middleware.filter Middleware.used) built ∧
      django.build middleware = .ok ⟨built.hooks, built.layers, ⟨true, built.composed.body⟩⟩ ∧
      django.build (middleware.filter Middleware.used) =
        .ok ⟨built.hooks, built.layers, ⟨true, built.composed.body⟩⟩ := by
  obtain ⟨filled, hfill, hfill_used, hfilled⟩ :=
    build_loop_realizes django ⟨[], [], []⟩ middleware hadmitted
  obtain ⟨built, hbuild, hbuild_used, hbuilt⟩ :=
    build_loop_realizes django filled.hooks middleware hadmitted
  rw [hfilled.hooks, django.run_view_eq_core] at hbuilt
  have hflag : built.handler_is_async = built.composed.is_async := by
    rw [hbuilt.composed, hbuilt.handler_is_async]
  have hadapted := Callable.adapt_method_mode_eq true built.composed
  rw [← hflag] at hadapted
  refine ⟨built, hbuilt, ?_, ?_⟩
  · unfold Django.build
    simp only [hfill, ok_bind, hbuild, hadapted]
    rfl
  · unfold Django.build
    simp only [hfill_used, ok_bind, hbuild_used, hadapted]
    rfl

/-- Why the build refuses an entry. -/
def Middleware.refusal (self : Middleware W Req R Args) : Option Exc :=
  if !self.sync_capable && !self.async_capable then some (.other "RuntimeError")
  else if self.factory = .returns_none then some (.other "ImproperlyConfigured")
  else none

/-- Why the build refuses a list: it comes to the last entry first. -/
def refused : List (Middleware W Req R Args) → Option Exc
  | [] => none
  | middleware :: rest => (refused rest).or middleware.refusal

theorem Middleware.admitted_of_refusal {self : Middleware W Req R Args}
    (hnone : self.refusal = none) : self.Admitted := by
  unfold refusal at hnone
  split at hnone
  · cases hnone
  · rename_i hcapable
    refine ⟨?_, ?_⟩
    · cases hsync : self.sync_capable <;> cases hasync : self.async_capable <;>
        simp [hsync, hasync] at hcapable ⊢
    · intro hfactory
      rw [if_pos hfactory] at hnone
      cases hnone

theorem admitted_of_refused {middleware : List (Middleware W Req R Args)}
    (hnone : refused middleware = none) : ∀ m ∈ middleware, m.Admitted := by
  induction middleware with
  | nil =>
    intro m hm
    cases hm
  | cons entry rest ih =>
    rw [refused, Option.or_eq_none_iff] at hnone
    intro m hm
    obtain rfl | hrest := List.mem_cons.1 hm
    · exact Middleware.admitted_of_refusal hnone.2
    · exact ih hnone.1 m hrest

/-- The refusal of an entry ends the build. -/
theorem build_step_refuses {django : Django W Req R Args} {view : Answer W Req R}
    {used : List (Middleware W Req R Args)} {built : Built W Req R Args}
    (hrealizes : Realizes django view used built) {middleware : Middleware W Req R Args} {e : Exc}
    (hrefusal : middleware.refusal = some e) : django.build_step built middleware = .error e := by
  have hflag : built.composed.is_async = built.handler_is_async := by
    rw [hrealizes.composed, hrealizes.handler_is_async]
  have hadapted := Callable.adapt_method_mode_eq
    (middleware_is_async built.handler_is_async middleware) built.composed
  rw [hflag] at hadapted
  unfold Middleware.refusal at hrefusal
  unfold Django.build_step
  split at hrefusal
  · rename_i hmodes
    cases hrefusal
    rw [if_pos hmodes]
  · rename_i hmodes
    rw [if_neg hmodes]
    split at hrefusal
    · rename_i hfactory
      cases hrefusal
      simp only [hadapted, hfactory]
      rfl
    · cases hrefusal

theorem build_loop_refuses (django : Django W Req R Args) (run_time : Hooks W Req R Args)
    {middleware : List (Middleware W Req R Args)} {e : Exc}
    (hrefused : refused middleware = some e) :
    django.build_loop run_time middleware = .error e := by
  simp only [Django.build_loop, List.foldlM_reverse]
  induction middleware with
  | nil => cases hrefused
  | cons entry rest ih =>
    rw [refused] at hrefused
    rw [List.foldrM_cons]
    cases hrest : refused rest with
    | some e' =>
      rw [hrest] at hrefused
      cases hrefused
      rw [ih hrest]
      rfl
    | none =>
      rw [hrest] at hrefused
      obtain ⟨built, hbuilt, -, hrealizes⟩ :=
        build_loop_realizes django run_time rest (admitted_of_refused hrest)
      simp only [Django.build_loop, List.foldlM_reverse] at hbuilt
      rw [hbuilt]
      exact build_step_refuses hrealizes hrefused

/-- The chain of any list: its build is refused, or it runs the onion of the layers. -/
theorem run_build (django : Django W Req R Args) (middleware : List (Middleware W Req R Args))
    (request : Req) : (do
      let chain ← Py.lift (django.build middleware)
      django.run chain request) =
    (match refused middleware with
    | some e => Py.raise e
    | none => do
      django.set_urlconf
      let response ← django.onion (django.core (middleware.filter Middleware.used))
        (middleware.filter Middleware.used) request
      django.finish_response request response) := by
  cases hrefused : refused middleware with
  | some e =>
    have hbuild : django.build middleware = .error e := by
      unfold Django.build
      rw [build_loop_refuses django _ hrefused]
      rfl
    rw [hbuild]
    rfl
  | none =>
    obtain ⟨built, hbuilt, hbuild, -⟩ :=
      build_realizes django middleware (admitted_of_refused hrefused)
    have hbody : built.composed.body = django.onion
        (django.core (middleware.filter Middleware.used)) (middleware.filter Middleware.used) := by
      rw [hbuilt.composed]
    rw [hbuild, ← hbody]
    rfl

/-- What the code raises to what is around it: an exception that is not converted, or one
that the conversion itself raises. -/
def Django.Contained (django : Django W Req R Args) (answer : Answer W Req R) : Prop :=
  ∀ request s e, (answer request s).1 = .error e →
    django.catches e = false ∨ ∃ exc t, (django.response_for_exception request exc t).1 = .error e

/-- A chain that is the onion of a `MIDDLEWARE` list. -/
structure IsOnion (django : Django W Req R Args) (middleware : List (Middleware W Req R Args))
    (chain : MasslessChain W Req R Args) : Prop where
  layered : chain.layers.map Layer.middleware = (middleware.filter Middleware.used).reverse
  modes : ∀ layer ∈ chain.layers, layer.get_response.is_async = layer.is_async ∧
    (if layer.is_async then layer.middleware.async_capable else layer.middleware.sync_capable) =
      true
  called : chain.layers.IsChain fun inner outer => outer.get_response =
    ⟨outer.is_async, (django.convert_exception_to_response inner.callable).body⟩
  awaited : ∀ layer ∈ chain.layers.getLast?, chain.middleware_chain =
    ⟨true, (django.convert_exception_to_response layer.callable).body⟩
  ordered : ∀ request, django.run chain request = do
    django.set_urlconf
    let response ← django.onion (django.core (middleware.filter Middleware.used))
      (middleware.filter Middleware.used) request
    django.finish_response request response
  contained : (∀ layer ∈ chain.layers, django.Contained layer.get_response.body) ∧
    django.Contained chain.middleware_chain.body

/-- For every list of entries that Django admits, the chain is the onion of the list, and it is
the chain of the list without the entries that raise `MiddlewareNotUsed`. -/
theorem build_is_onion (django : Django W Req R Args) (middleware : List (Middleware W Req R Args))
    (hadmitted : ∀ m ∈ middleware, m.Admitted) :
    ∃ chain, django.build middleware = .ok chain ∧ IsOnion django middleware chain ∧
      django.build (middleware.filter Middleware.used) = .ok chain := by
  obtain ⟨built, hbuilt, hbuild, hbuild_used⟩ := build_realizes django middleware hadmitted
  have hbody : built.composed.body = django.onion (django.core (middleware.filter Middleware.used))
      (middleware.filter Middleware.used) := by
    rw [hbuilt.composed]
  refine ⟨_, hbuild, ?_, hbuild_used⟩
  refine ⟨hbuilt.layers, hbuilt.modes, hbuilt.joined, ?_, ?_, ?_, ?_⟩
  · intro layer hlayer
    rw [hbuilt.outermost layer hlayer]
  · intro request
    rw [← hbody]
    rfl
  · intro layer hlayer request s e hraises
    obtain ⟨answer, hanswer⟩ := hbuilt.responds layer hlayer
    rw [hanswer] at hraises
    exact django.respond_contained answer request s hraises
  · intro request s e hraises
    obtain ⟨answer, honion⟩ := django.onion_responds
      (django.core (middleware.filter Middleware.used)) (middleware.filter Middleware.used)
    rw [hbody, honion] at hraises
    exact django.respond_contained answer request s hraises

/-- A middleware that writes down when it is run. -/
def recording (label : String) (factory : Factory) (sync_capable : Bool) :
    Middleware (List String) Unit Nat Unit where
  path := label
  sync_capable := sync_capable
  async_capable := !sync_capable
  factory := factory
  call := fun _ get_response request => do
    Py.modify (· ++ [label ++ ":req"])
    let response ← get_response request
    Py.modify (· ++ [label ++ ":resp"])
    pure response
  aprocess_view := none
  process_view := some ⟨false, fun _ => do
    Py.modify (· ++ [label ++ ":view"])
    pure .none⟩
  aprocess_template_response := none
  process_template_response := none
  process_exception := some ⟨false, fun _ => do
    Py.modify (· ++ [label ++ ":exc"])
    pure (.value 418)⟩

/-- A site whose only view raises. -/
def recording_django : Django (List String) Unit Nat Unit where
  catches := fun _ => true
  response_for_exception := fun _ _ => pure 500
  set_urlconf := pure ()
  resolve_request := fun _ => pure ⟨⟨true, fun _ => Py.raise (.other "ValueError")⟩, ()⟩
  make_view_atomic := .ok
  render := fun _ => none
  close_with := fun _ _ => pure ()
  status_code := id
  log_response := fun _ _ => pure ()

def recording_stack : List (Middleware (List String) Unit Nat Unit) :=
  [recording "A" .makes_instance false, recording "MwNotUsed" .raises_not_used true,
    recording "B" .makes_instance true]

theorem build_is_onion_recording :
    (∃ chain, recording_django.build recording_stack = .ok chain ∧
      IsOnion recording_django recording_stack chain ∧
      recording_django.build (recording_stack.filter Middleware.used) = .ok chain) ∧
    (recording_django.onion (recording_django.core (recording_stack.filter Middleware.used))
      (recording_stack.filter Middleware.used) () []).2 =
        ["A:req", "B:req", "A:view", "B:view", "B:exc", "B:resp", "A:resp"] := by
  refine ⟨build_is_onion recording_django recording_stack ?_, rfl⟩
  intro m hm
  simp only [recording_stack, List.mem_cons, List.not_mem_nil, or_false] at hm
  obtain rfl | rfl | rfl := hm <;> simp [Middleware.Admitted, recording]

end massless.chain
