import Massless.Middleware.Anywhere
import Massless.Middleware.Layers
import Massless.Middleware.Passed

open python
open massless.chain

namespace massless.middleware

variable {W Req Args : Type}

/-- The entry that counts for a name. -/
def default_for (defaults : List (String × String)) (name : String) : Option (String × String) :=
  defaults.find? fun header => lower_str header.1 = lower_str name

/-- Headers that are set where a response does not have them. -/
def Http.set_defaults (http : Http W Req) (defaults : List (String × String))
    (response : HttpResponse) : Except Exc HttpResponse :=
  defaults.foldlM (fun response header => http.setdefault response header.1 header.2) response

section
variable {http : Http W Req} {defaults : List (String × String)} {response sent : HttpResponse}

theorem default_for_cons_same {header : String × String} {name : String}
    (hname : lower_str header.1 = lower_str name) :
    default_for (header :: defaults) name = some header :=
  List.find?_cons_of_pos (by simpa using hname)

theorem default_for_cons_other {header : String × String} {name : String}
    (hname : lower_str header.1 ≠ lower_str name) :
    default_for (header :: defaults) name = default_for defaults name :=
  List.find?_cons_of_neg (by simpa using hname)

/-- Defaults fill in what is not set, and the first of two for a name counts. -/
theorem set_defaults_ok (hset : http.set_defaults defaults response = .ok sent) :
    sent = { response with headers := sent.headers } ∧ ∀ name, sent.get name =
      (response.get name).or ((default_for defaults name).bind fun header =>
        http.header_value header.2) := by
  induction defaults generalizing response with
  | nil =>
    obtain rfl := Except.ok.inj hset
    exact ⟨rfl, fun name => by simp [default_for]⟩
  | cons header rest ih =>
    unfold Http.set_defaults at hset
    rw [List.foldlM_cons] at hset
    rcases hfirst : http.setdefault response header.1 header.2 with e | middle
    · rw [hfirst] at hset
      cases hset
    rw [hfirst] at hset
    obtain ⟨hkept, hheaders⟩ := ih hset
    obtain ⟨rfl, hpresent⟩ | ⟨habsent, stored, hstored, rfl⟩ := HttpResponse.setdefault_ok hfirst
    · refine ⟨hkept, fun name => ?_⟩
      rw [hheaders]
      by_cases hname : lower_str header.1 = lower_str name
      · obtain ⟨value, hvalue⟩ := Option.isSome_iff_exists.mp hpresent
        rw [HttpResponse.get_congr hname.symm, hvalue, Option.some_or, Option.some_or]
      · rw [default_for_cons_other hname]
    · refine ⟨by rw [hkept]; rfl, fun name => ?_⟩
      rw [hheaders, HttpResponse.get_set]
      by_cases hname : lower_str header.1 = lower_str name
      · rw [if_pos hname.symm, default_for_cons_same hname, HttpResponse.get_congr hname.symm,
          habsent, Option.some_or, Option.none_or, Option.bind_some, hstored]
      · rw [if_neg fun hsame => hname hsame.symm, default_for_cons_other hname]

/-- Only a text that no header keeps stands in the way of a default. -/
theorem set_defaults_refused {e : Exc} (hset : http.set_defaults defaults response = .error e) :
    ∃ header ∈ defaults, response.get header.1 = none ∧ http.header_value header.2 = none := by
  induction defaults generalizing response with
  | nil => cases hset
  | cons header rest ih =>
    unfold Http.set_defaults at hset
    rw [List.foldlM_cons] at hset
    rcases hfirst : http.setdefault response header.1 header.2 with raised | middle
    · unfold Http.setdefault Http.set_header at hfirst
      split at hfirst
      · cases hfirst
      · rename_i habsent
        split at hfirst
        · cases hfirst
        · exact ⟨header, List.mem_cons_self, Option.not_isSome_iff_eq_none.mp habsent, ‹_›⟩
    · rw [hfirst] at hset
      obtain ⟨refused, hmem, hlacks, hvalue⟩ := ih hset
      refine ⟨refused, List.mem_cons_of_mem _ hmem, ?_, hvalue⟩
      obtain ⟨rfl, -⟩ | ⟨-, stored, -, rfl⟩ := HttpResponse.setdefault_ok hfirst
      · exact hlacks
      · rw [HttpResponse.get_set] at hlacks
        split at hlacks
        · cases hlacks
        · exact hlacks

end

variable (settings : Settings) (http : Http W Req) (request : Req)

namespace SecurityMiddleware

/-- The headers that the settings ask for, with their values. -/
def headers : List (String × String) :=
  (if settings.SECURE_HSTS_SECONDS ≠ 0 ∧ http.is_secure request = true then
    [("Strict-Transport-Security", sts_header settings)] else []) ++
  (nosniff settings).toList.map (Prod.mk "X-Content-Type-Options") ++
  (referrer_policy settings).toList.map (Prod.mk "Referrer-Policy") ++
  (truthy_text settings.SECURE_CROSS_ORIGIN_OPENER_POLICY).toList.map
    (Prod.mk "Cross-Origin-Opener-Policy")

/-- A response with these headers, where it does not have them. -/
def secured (response : HttpResponse) : Except Exc HttpResponse :=
  http.set_defaults (headers settings http request) response

/-- The response lacks one of the headers, and its text is one that no header keeps. -/
def Unstored (response : HttpResponse) : Prop :=
  ∃ header ∈ headers settings http request,
    response.get header.1 = none ∧ http.header_value header.2 = none

variable {settings http request}

theorem set_defaults_single (header : String × String) (response : HttpResponse) :
    http.set_defaults [header] response = http.setdefault response header.1 header.2 := by
  rw [Http.set_defaults, List.foldlM_cons]
  exact bind_pure _

theorem set_default_value (name attr : String) (value : Option String) (response : HttpResponse) :
    set_default http name attr value (.value response) =
      Placed.lift ((http.set_defaults (value.toList.map (Prod.mk name)) response).map .value) := by
  cases value with
  | none => rfl
  | some value =>
    rw [Option.toList_some, List.map_singleton, set_defaults_single, ← Placed.lift_bind_pure]
    rfl

theorem strict_transport_value (response : HttpResponse) :
    strict_transport settings http request (.value response) =
      Placed.lift ((http.set_defaults
        (if settings.SECURE_HSTS_SECONDS ≠ 0 ∧ http.is_secure request = true then
          [("Strict-Transport-Security", sts_header settings)] else []) response).map .value) := by
  unfold strict_transport
  split
  · rw [set_defaults_single, ← Placed.lift_bind_pure]
  · rfl

/-- Defaults after defaults. -/
theorem set_defaults_bind {first more : List (String × String)} {response : HttpResponse}
    {next : Returned HttpResponse → Placed W (Returned HttpResponse)}
    (hnext : ∀ middle, next (.value middle) =
      Placed.lift ((http.set_defaults more middle).map .value)) :
    (Placed.lift ((http.set_defaults first response).map .value) >>= next) =
      Placed.lift ((http.set_defaults (first ++ more) response).map .value) := by
  have happend : http.set_defaults (first ++ more) response =
      http.set_defaults first response >>= http.set_defaults more := List.foldlM_append
  rw [happend]
  cases http.set_defaults first response with
  | error e => rfl
  | ok middle => exact hnext middle

/-- The hook for responses sets defaults. -/
theorem process_response_value (response : HttpResponse) :
    process_response settings http request (.value response) =
      Placed.lift ((secured settings http request response).map .value) := by
  unfold process_response secured headers
  rw [strict_transport_value, List.append_assoc, List.append_assoc]
  refine set_defaults_bind fun first => ?_
  rw [set_default_value]
  refine set_defaults_bind fun second => ?_
  rw [set_default_value]
  exact set_defaults_bind fun third => set_default_value _ _ _ third

/-- Without a response the hook raises, or hands on what it was given where no header is asked
for. -/
theorem process_response_none {given : Returned HttpResponse}
    (hnone : ∀ response, given ≠ .value response) :
    (process_response settings http request given).Returns fun returned =>
      ∀ response, returned ≠ .value response := by
  have hattr {B : Type} (name : String) (f : HttpResponse → Placed W B) (post : B → Prop)
      {given : Returned HttpResponse} (hnone : ∀ response, given ≠ .value response) :
      (read_attr name given >>= f).Returns post := by
    cases given with
    | value response => exact absurd rfl (hnone response)
    | none => exact (Placed.Returns.raise _ fun _ => False).bind fun _ hfalse => hfalse.elim
    | coroutine => exact (Placed.Returns.raise _ fun _ => False).bind fun _ hfalse => hfalse.elim
  have hdefault (name attr : String) (value : Option String) {given : Returned HttpResponse}
      (hnone : ∀ response, given ≠ .value response) :
      (set_default http name attr value given).Returns fun returned =>
        ∀ response, returned ≠ .value response := by
    cases value with
    | none => exact .pure hnone
    | some value => exact hattr _ _ _ hnone
  have hstrict : (strict_transport settings http request given).Returns fun returned =>
      ∀ response, returned ≠ .value response := by
    unfold strict_transport
    split
    · cases given with
      | value response => exact absurd rfl (hnone response)
      | none => exact .raise _ _
      | coroutine => exact .raise _ _
    · exact .pure hnone
  refine hstrict.bind fun first hfirst => ?_
  refine (hdefault _ _ _ hfirst).bind fun second hsecond => ?_
  exact (hdefault _ _ _ hsecond).bind fun third hthird => hdefault _ _ _ hthird

/-- A response with the headers that the settings ask for, as headers keep them: what is set stays,
and nothing else changes. -/
structure Secured (settings : Settings) (http : Http W Req) (request : Req)
    (response sent : HttpResponse) : Prop where
  status_code : sent.status_code = response.status_code
  reason_phrase : sent.reason_phrase = response.reason_phrase
  cookies : sent.cookies = response.cookies
  body : sent.body = response.body
  headers : ∀ name, sent.get name = (response.get name).or
    ((default_for (headers settings http request) name).bind fun header =>
      http.header_value header.2)

theorem secured_ok {response sent : HttpResponse}
    (hsecured : secured settings http request response = .ok sent) :
    Secured settings http request response sent := by
  obtain ⟨hkept, hheaders⟩ := set_defaults_ok hsecured
  refine ⟨?_, ?_, ?_, ?_, hheaders⟩
  all_goals rw [hkept]

/-- The host that the redirect goes to. -/
def destination (settings : Settings) (http : Http W Req) (request : Req) : Option String :=
  (truthy_text settings.SECURE_SSL_HOST).or (http.get_host request)

/-- The redirect to `https`. -/
def to_https (http : Http W Req) (request : Req) (host : String) : Except Exc HttpResponse :=
  http.HttpResponsePermanentRedirect ("https://" ++ host ++ http.get_full_path request false)

theorem process_request_eq (w : W) :
    (process_request settings http request).in_thread w =
      (if redirects settings http request = true then
        (destination settings http request).elim (.error (.other "DisallowedHost"))
          fun host => (to_https http request host).map .value
      else .ok .none, w) := by
  unfold process_request to_https
  split
  · simp only [Placed.lift_bind_pure]
    unfold redirect_host destination Http.host
    cases truthy_text settings.SECURE_SSL_HOST with
    | some host => rfl
    | none => cases http.get_host request <;> rfl
  · rfl

/-- What answers the request goes to the hook for responses, and the code inside is not called. -/
theorem answered_call {R B : Type} {m : Py W (Returned R)} {inner : Py W (Returned R)}
    {f : Returned R → Py W B} {u w : W} {response : R} (hm : m u = (.ok (.value response), w)) :
    (do
      let response ← m
      let response ← if_none inner response
      f response) u = f (.value response) w := by
  rw [Py.bind_run, hm]
  rfl

/-- `__call__` around some code. -/
def call (settings : Settings) (http : Http W Req) (get_response : Answer W Req HttpResponse) :
    Answer W Req HttpResponse := fun request => do
  let response ← (process_request settings http request).in_thread
  let response ← if_none (get_response request) response
  (process_response settings http request response).in_thread

variable {get_response : Answer W Req HttpResponse} {u v w : W} {sent response : HttpResponse}

/-- A request that is redirected is not handed on. -/
theorem call_redirects (hredirects : redirects settings http request = true) {host : String}
    (hhost : destination settings http request = some host) {redirect : HttpResponse}
    (hmade : to_https http request host = .ok redirect) (u : W) :
    call settings http get_response request u =
      ((secured settings http request redirect).map .value, u) := by
  have hrequest := @process_request_eq W Req settings http request u
  rw [if_pos hredirects, hhost, Option.elim_some, hmade] at hrequest
  rw [call, answered_call hrequest, process_response_value]
  rfl

theorem call_passes (hredirects : redirects settings http request = false) :
    call settings http get_response request u = (do
      let response ← get_response request
      (process_response settings http request response).in_thread) u := by
  have hrequest := @process_request_eq W Req settings http request u
  rw [if_neg (by simp [hredirects])] at hrequest
  rw [call, Py.bind_run, hrequest]
  rfl

theorem call_answers (hredirects : redirects settings http request = false)
    (hinner : get_response request u = (.ok (.value response), w)) :
    call settings http get_response request u =
      ((secured settings http request response).map .value, w) := by
  rw [call_passes hredirects, Py.bind_run, hinner]
  simp only [process_response_value]
  rfl

theorem secured_of_map {outcome : Except Exc HttpResponse}
    (houtcome : ((outcome.map .value, w) : Except Exc (Returned HttpResponse) × W) =
      (.ok (.value sent), v)) : outcome = .ok sent ∧ w = v := by
  cases outcome with
  | error e => cases houtcome
  | ok response =>
    cases houtcome
    exact ⟨rfl, rfl⟩

/-- A response of the class is the redirect, with nothing inside run, or what the code inside
answers, with the headers. -/
theorem call_returns (hcall : call settings http get_response request u = (.ok (.value sent), v)) :
    (redirects settings http request = true ∧ v = u ∧ ∃ host redirect,
        destination settings http request = some host ∧
          to_https http request host = .ok redirect ∧
          Secured settings http request redirect sent) ∨
      (redirects settings http request = false ∧ ∃ response,
        get_response request u = (.ok (.value response), v) ∧
          Secured settings http request response sent) := by
  cases hredirects : redirects settings http request with
  | true =>
    left
    have hrequest := @process_request_eq W Req settings http request u
    rw [if_pos hredirects] at hrequest
    cases hhost : destination settings http request with
    | none =>
      rw [hhost] at hrequest
      rw [call, Py.bind_run, hrequest] at hcall
      cases hcall
    | some host =>
      cases hmade : to_https http request host with
      | error e =>
        rw [hhost, Option.elim_some, hmade] at hrequest
        rw [call, Py.bind_run, hrequest] at hcall
        cases hcall
      | ok redirect =>
        rw [call_redirects hredirects hhost hmade] at hcall
        obtain ⟨hsecured, rfl⟩ := secured_of_map hcall
        exact ⟨rfl, rfl, host, redirect, rfl, hmade, secured_ok hsecured⟩
  | false =>
    right
    rcases hinner : get_response request u with ⟨e | returned, w⟩
    · rw [call_passes hredirects, Py.bind_run, hinner] at hcall
      cases hcall
    by_cases hvalue : ∃ response, returned = .value response
    · obtain ⟨response, rfl⟩ := hvalue
      rw [call_answers hredirects hinner] at hcall
      obtain ⟨hsecured, rfl⟩ := secured_of_map hcall
      exact ⟨rfl, response, rfl, secured_ok hsecured⟩
    · have hnone : ∀ response, returned ≠ .value response := fun response heq =>
        hvalue ⟨response, heq⟩
      rw [call_passes hredirects, Py.bind_run, hinner] at hcall
      exact absurd rfl ((process_response_none hnone).in_thread w _ v hcall sent)

/-- Only a text that no header keeps makes the hook for responses raise. -/
theorem unstored_of_raises {e : Exc}
    (hraises : (((secured settings http request response).map .value, w) :
      Except Exc (Returned HttpResponse) × W) = (.error e, v)) :
    Unstored settings http request response := by
  cases hsecured : secured settings http request response with
  | error raised => exact set_defaults_refused hsecured
  | ok sent =>
    rw [hsecured] at hraises
    cases hraises

/-- The class runs so on the event loop and in a thread. -/
theorem load_call (site : Site W Req HttpResponse Args) {path : String}
    (hpath : REGISTRY.lookup path = some .SecurityMiddleware) (fast_mw is_async : Bool) :
    ((site.with_hooks settings http).load fast_mw path).call is_async get_response =
      call settings http get_response := by
  have hstock : (stock_middleware path
      ((site.with_hooks settings http).builtins.hooks .SecurityMiddleware)).call is_async
        get_response = call settings http get_response := by
    simp only [stock_middleware, or_else_eq]
    rfl
  cases fast_mw with
  | true =>
    rw [((site.with_hooks settings http).load_registered hpath).1, ← hstock]
    exact ClassHooks.calls_same (process_request_anywhere settings http)
      (process_response_anywhere settings http) path _ _ _
  | false => rw [((site.with_hooks settings http).load_registered hpath).2, hstock]

end SecurityMiddleware

end massless.middleware
