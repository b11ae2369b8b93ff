import Massless.Chain.Substitution
import Massless.Python.Returns

open python
open massless.chain

namespace massless.chain

variable {W Req R Args : Type} (django : Django W Req R Args) {request : Req}
  {post : Returned R → Prop}

/-- What is said of the answers of some code and of the error responses is said of the code with
its exceptions turned into responses. -/
theorem Django.returns_respond {answer : Answer W Req R}
    (herror : ∀ e, Returns (django.response_for_exception request e) fun r => post (.value r))
    (hanswer : Returns (answer request) post) : Returns (django.respond answer request) post := by
  refine Returns.try_except hanswer fun e _ => ?_
  exact (herror e).bind fun response hresponse => .pure hresponse

/-- What every layer keeps is said of the onion. -/
theorem Django.returns_onion {view : Answer W Req R} {layers : List (Middleware W Req R Args)}
    (herror : ∀ e, Returns (django.response_for_exception request e) fun r => post (.value r))
    (hview : Returns (view request) post)
    (hlayers : ∀ before layer inside, layers = before ++ layer :: inside →
      Returns (django.onion view inside request) post →
      Returns (layer.call (mode (layer :: inside)) (django.onion view inside) request) post) :
    Returns (django.onion view layers request) post := by
  induction layers with
  | nil => exact django.returns_respond herror hview
  | cons layer inside ih =>
    apply django.returns_respond herror
    apply hlayers [] layer inside rfl
    exact ih fun before deeper rest hlayers' => hlayers (layer :: before) deeper rest (by
      rw [hlayers', List.cons_append])

/-- The chain hands on the response that it got. -/
theorem Django.returns_finish (response : Returned R) :
    Returns (django.finish_response request response) fun r => response = .value r := by
  cases response with
  | value response =>
    refine Returns.last fun _ => ?_
    dsimp only
    split
    · exact Returns.last fun _ => Returns.pure rfl
    · exact Returns.pure rfl
  | none => exact Returns.raise _ _
  | coroutine => exact Returns.raise _ _

/-- A response that leaves the chain is what the outermost layer answered, or made of what it
raised. -/
theorem Django.respond_finish {answer : Answer W Req R} {s t : W} {sent : R}
    (hrun : (do
      let response ← django.respond answer request
      django.finish_response request response) s = (.ok sent, t)) :
    (∃ u, answer request s = (.ok (.value sent), u) ∧
        django.finish_response request (.value sent) u = (.ok sent, t)) ∨
      ∃ e u v, answer request s = (.error e, u) ∧
        django.response_for_exception request e u = (.ok sent, v) := by
  rw [Py.bind_run, respond, Py.try_except_run] at hrun
  rcases hanswer : answer request s with ⟨e | returned, u⟩
  · right
    cases hcatches : django.catches e with
    | false =>
      simp only [hanswer, hcatches, Bool.false_eq_true, if_false] at hrun
      cases hrun
    | true =>
      simp only [hanswer, hcatches, if_true, Py.bind_run, Py.pure_run] at hrun
      rcases hconvert : django.response_for_exception request e u with ⟨raised | response, v⟩
      · rw [hconvert] at hrun
        cases hrun
      · rw [hconvert] at hrun
        obtain ⟨⟩ := django.returns_finish (.value response) v sent t hrun
        exact ⟨e, u, v, rfl, hconvert⟩
  · left
    simp only [hanswer] at hrun
    obtain rfl := django.returns_finish returned u sent t hrun
    exact ⟨u, rfl, hrun⟩

end massless.chain

namespace massless.middleware

variable {W Req R Args : Type} {request : Req} {mid post : Returned R → Prop}

/-- The rule for a class on `MiddlewareMixin`, on the event loop or in a thread: what answers the
request and what the code inside answers goes through the hook for responses. -/
theorem ClassHooks.returns_call {hooks : ClassHooks W Req R Args}
    (hrequest : (hooks.on_request request).Returns fun response =>
      response ≠ .none → mid response)
    (hresponse : ∀ response, mid response → (hooks.on_response request response).Returns post)
    (path : String)
    {get_response : Answer W Req R} (hinner : Returns (get_response request) mid)
    (is_async : Bool) :
    Returns ((fast_middleware path hooks).call is_async get_response request) post ∧
      Returns ((stock_middleware path hooks).call is_async get_response request) post := by
  have hif_none (response : Returned R) (hmid : response ≠ .none → mid response) :
      Returns (if_none (get_response request) response) mid := by
    cases response with
    | none => exact hinner
    | coroutine => exact Returns.pure (hmid nofun)
    | value response => exact Returns.pure (hmid nofun)
  constructor
  · refine hrequest.on_loop.bind fun response hmid => ?_
    exact (hif_none response hmid).bind fun response hmid => (hresponse response hmid).on_loop
  · refine hrequest.in_thread.bind fun response hmid => ?_
    rw [or_else_eq]
    exact (hif_none response hmid).bind fun response hmid => (hresponse response hmid).in_thread

namespace Site

variable (site : Site W Req R Args) (django : Django W Req R Args)

/-- The rule for a registered class, substituted or not. -/
theorem returns_registered {path : String} {name : Registered}
    (hname : REGISTRY.lookup path = some name)
    (hrequest : ((site.builtins.hooks name).on_request request).Returns fun response =>
      response ≠ .none → mid response)
    (hresponse : ∀ response, mid response →
      ((site.builtins.hooks name).on_response request response).Returns post)
    {get_response : Answer W Req R} (hinner : Returns (get_response request) mid)
    (fast_mw is_async : Bool) :
    Returns ((site.load fast_mw path).call is_async get_response request) post := by
  obtain ⟨hfast, hstock⟩ := ClassHooks.returns_call hrequest hresponse path hinner is_async
  cases fast_mw with
  | true =>
    rw [(site.load_registered hname).1]
    exact hfast
  | false =>
    rw [(site.load_registered hname).2]
    exact hstock

/-- A registered class makes a layer. -/
theorem used_of_registered {path : String} {name : Registered}
    (hname : REGISTRY.lookup path = some name) : (site.load false path).used = true := by
  rw [(site.load_registered hname).2]
  rfl

/-- The onion that a request goes through. -/
def layers (fast_mw : Bool) (MIDDLEWARE : List String) : List (Middleware W Req R Args) :=
  (site.kept MIDDLEWARE).map (site.load fast_mw)

/-- The chain returns what the onion returns. -/
theorem returns_run {fast_mw : Bool} {MIDDLEWARE : List String}
    (honion : Returns (django.onion (django.core (site.layers fast_mw MIDDLEWARE))
      (site.layers fast_mw MIDDLEWARE) request) post) :
    Returns (site.run fast_mw MIDDLEWARE django request) fun r => post (.value r) := by
  unfold run
  rw [run_build, site.used_eq]
  cases refused (MIDDLEWARE.map (site.load fast_mw)) with
  | some e => exact Returns.raise _ _
  | none =>
    refine Returns.last fun _ => ?_
    refine Returns.bind honion fun response hresponse => ?_
    exact (django.returns_finish response).imp fun r hr => hr ▸ hresponse

end Site

end massless.middleware
