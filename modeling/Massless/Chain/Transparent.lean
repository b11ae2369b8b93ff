import Massless.Chain.Substitution

open python
open massless.chain

namespace massless.middleware

variable {W Req R Args : Type}

/-- A middleware without hooks. -/
def bystander (call : Answer W Req R → Answer W Req R) : Middleware W Req R Args where
  path := "bystander"
  sync_capable := true
  async_capable := true
  factory := .makes_instance
  call := fun _ => call
  aprocess_view := none
  process_view := none
  aprocess_template_response := none
  process_template_response := none
  process_exception := none

/-- A site that lets every exception through and calls no view. -/
def probing (resolve : Py W (Hit W Req R Args)) : Django W Req R Args where
  catches := fun _ => false
  response_for_exception := fun _ e => Py.raise e
  set_urlconf := pure ()
  resolve_request := fun _ => resolve
  make_view_atomic := fun _ => .error (.other "KeyboardInterrupt")
  render := fun _ => none
  close_with := fun _ _ => pure ()
  status_code := fun _ => 200
  log_response := fun _ _ => pure ()

theorem probing_respond (resolve : Py W (Hit W Req R Args)) (answer : Answer W Req R) :
    (probing resolve).respond answer = answer := by
  funext request s
  simp only [Django.respond, Py.try_except_run]
  rcases answer request s with ⟨e | response, t⟩ <;> rfl

theorem probing_finish (resolve : Py W (Hit W Req R Args)) (request : Req)
    (response : Returned R) : NeverRefused ((probing resolve).finish_response request response) := by
  cases response with
  | none => exact .raise (by decide)
  | coroutine => exact .raise (by decide)
  | value response => exact fun _ hraised => nomatch hraised

theorem first_response_never_refused {A : Type} (a : A) {hooks : List (A → Py W (Returned R))}
    (hhooks : ∀ hook ∈ hooks, NeverRefused (hook a)) : NeverRefused (first_response a hooks) := by
  induction hooks with
  | nil => exact .pure _
  | cons hook rest ih =>
    obtain ⟨hhook, hrest⟩ := List.forall_mem_cons.1 hhooks
    refine hhook.bind fun response => ?_
    split
    · exact .pure _
    · exact ih hrest

/-- The core of this site is refused no more than its view hooks. -/
theorem probing_core {resolve : Py W (Hit W Req R Args)} (hresolve : NeverRefused resolve)
    {layers : List (Middleware W Req R Args)}
    (hhooks : ∀ hook ∈ layers.filterMap Middleware.view_hook, ∀ a, NeverRefused (hook a))
    (request : Req) : NeverRefused ((probing resolve).core layers request) := by
  refine hresolve.bind fun hit => ?_
  refine (first_response_never_refused _ fun hook hhook => hhooks hook hhook _).bind fun answer => ?_
  refine NeverRefused.bind ?_ fun response => ?_
  · cases answer with
    | none => exact .raise (by decide)
    | coroutine => exact .pure _
    | value response => exact .pure _
  · cases response with
    | none => exact fun _ hraised => absurd (Except.error.inj hraised) (by decide)
    | coroutine => exact fun _ hraised => absurd (Except.error.inj hraised) (by decide)
    | value response => exact .pure _

/-- Every registered class has a path. -/
theorem lookup_surjective (name : Registered) : ∃ path, REGISTRY.lookup path = some name := by
  have hentry : ∃ entry ∈ REGISTRY, REGISTRY.lookup entry.1 = some name := by
    cases name <;> decide +kernel
  obtain ⟨entry, -, hname⟩ := hentry
  exact ⟨entry.1, hname⟩

section
variable (builtins : Builtins W Req R Args) (call : Answer W Req R → Answer W Req R)
  (resolve : Py W (Hit W Req R Args)) {path : String} {name : Registered}

/-- The site with one other middleware. -/
def pair_site : Site W Req R Args := ⟨builtins, fun _ => bystander call⟩

/-- The core for a registered class and the other middleware behind it. -/
def pair_core (fast_mw : Bool) (path : String) : Answer W Req R :=
  (probing resolve).core [(pair_site builtins call).load fast_mw path, bystander call]

/-- The view hook of the class is the only one of the two. -/
theorem pair_view_hooks (hname : REGISTRY.lookup path = some name) (fast_mw : Bool) :
    [(pair_site builtins call).load fast_mw path, bystander call].filterMap Middleware.view_hook =
      ((builtins.hooks name).process_view.map fun process_view a =>
        if fast_mw then (process_view a).on_loop else (process_view a).in_thread).toList := by
  have hnone : (bystander call : Middleware W Req R Args).view_hook = none := rfl
  cases fast_mw with
  | true =>
    rw [((pair_site builtins call).load_registered hname).1, List.filterMap_cons, fast_view_hook,
      List.filterMap_cons_none hnone]
    cases hview : (builtins.hooks name).process_view <;> simp [pair_site, hview]
  | false =>
    rw [((pair_site builtins call).load_registered hname).2, List.filterMap_cons, stock_view_hook,
      List.filterMap_cons_none hnone]
    cases hview : (builtins.hooks name).process_view <;> simp [pair_site, hview]

theorem run_pair (hname : REGISTRY.lookup path = some name) (fast_mw : Bool) (request : Req) :
    (pair_site builtins call).run fast_mw [path, "bystander"] (probing resolve) request = (do
      let response ← ((pair_site builtins call).load fast_mw path).call
        (mode [(pair_site builtins call).load fast_mw path, bystander call])
        (call (pair_core builtins call resolve fast_mw path)) request
      (probing resolve).finish_response request response) := by
  have hlookup : REGISTRY.lookup "bystander" = none := by decide
  have hother : (pair_site builtins call).load fast_mw "bystander" = bystander call :=
    (pair_site builtins call).load_other hlookup fast_mw
  have hflags : ((pair_site builtins call).load fast_mw path).used = true ∧
      ((pair_site builtins call).load fast_mw path).refusal = none := by
    cases fast_mw with
    | true =>
      rw [((pair_site builtins call).load_registered hname).1]
      exact ⟨rfl, rfl⟩
    | false =>
      rw [((pair_site builtins call).load_registered hname).2]
      exact ⟨rfl, rfl⟩
  have hrefused : refused [(pair_site builtins call).load fast_mw path, bystander call] = none := by
    rw [refused, hflags.2]
    rfl
  have hused : [(pair_site builtins call).load fast_mw path, bystander call].filter
      Middleware.used = [(pair_site builtins call).load fast_mw path, bystander call] := by
    rw [List.filter_cons_of_pos hflags.1]
    rfl
  unfold Site.run
  rw [run_build]
  simp only [List.map_cons, List.map_nil, hother, hrefused, hused, Django.onion, probing_respond]
  rfl

end

/-- For the registered classes among these, the substitution does nothing to a request: not with any
list of them and of other middleware that hands on the request, any view and any state. -/
def Transparent (builtins : Builtins W Req R Args) (names : Registered → Prop) (request : Req) :
    Prop :=
  ∀ (other : String → Middleware W Req R Args) (MIDDLEWARE : List String),
    (∀ path ∈ MIDDLEWARE, ∀ name, REGISTRY.lookup path = some name → names name) →
    (∀ path ∈ MIDDLEWARE, (⟨builtins, other⟩ : Site W Req R Args).HandsOn path request) →
    (⟨builtins, other⟩ : Site W Req R Args).Steady
      ((⟨builtins, other⟩ : Site W Req R Args).kept MIDDLEWARE) →
    ∀ django : Django W Req R Args,
      (⟨builtins, other⟩ : Site W Req R Args).run true MIDDLEWARE django request =
        (⟨builtins, other⟩ : Site W Req R Args).run false MIDDLEWARE django request

theorem Site.steady_of_blind {site : Site W Req R Args}
    (hblind : ∀ path, (site.other path).call true = (site.other path).call false)
    (paths : List String) : site.Steady paths := by
  induction paths with
  | nil => trivial
  | cons path rest ih => exact ⟨ih, fun _ => Or.inr (hblind path)⟩

section
variable {builtins : Builtins W Req R Args} {names : Registered → Prop} {name : Registered}
  {path : String} {request : Req}

/-- Where the substitution is transparent, the substitute of a class is never refused around
code that is not refused in the chain of stock classes. -/
theorem Transparent.never_refused (htransparent : Transparent builtins names request)
    (hlawful : (builtins.hooks name).Lawful) (hin : names name)
    (hname : REGISTRY.lookup path = some name) (call : Answer W Req R → Answer W Req R)
    (hcall : ∀ get_response inner : Answer W Req R, get_response request = inner request →
      call get_response request = call inner request)
    (resolve : Py W (Hit W Req R Args))
    (hinner : NeverRefused (call (pair_core builtins call resolve false path) request)) :
    NeverRefused ((fast_middleware path (builtins.hooks name)).call true
      (call (pair_core builtins call resolve true path)) request) := by
  have hnames : ∀ p ∈ [path, "bystander"], ∀ name', REGISTRY.lookup p = some name' →
      names name' := by
    intro p hp name' hname'
    simp only [List.mem_cons, List.not_mem_nil, or_false] at hp
    obtain rfl | rfl := hp
    · rw [hname] at hname'
      cases hname'
      exact hin
    · exact absurd hname' (by decide +revert +kernel)
  have hagree := htransparent (pair_site builtins call).other [path, "bystander"] hnames
    (fun _ _ _ _ => hcall) (Site.steady_of_blind (fun _ => rfl) _) (probing resolve)
  change (pair_site builtins call).run true _ _ _ = (pair_site builtins call).run false _ _ _
    at hagree
  rw [run_pair builtins call resolve hname, run_pair builtins call resolve hname,
    ((pair_site builtins call).load_registered hname).1,
    ((pair_site builtins call).load_registered hname).2] at hagree
  have hstock : NeverRefused ((stock_middleware path (builtins.hooks name)).call true
      (call (pair_core builtins call resolve false path)) request) := by
    refine (hlawful.request request).never_refused.bind fun response => ?_
    refine NeverRefused.bind ?_ fun response => (hlawful.response request response).never_refused
    unfold or_else
    split
    · exact .pure _
    · exact hinner
  have hchain := hstock.bind fun response => probing_finish resolve request response
  exact (hagree ▸ hchain).of_bind

/-- Then no hook that the class can come to for the request is refused. -/
theorem Transparent.loop_safe (htransparent : Transparent builtins names request)
    (hlawful : (builtins.hooks name).Lawful) (hin : names name) :
    (builtins.hooks name).LoopSafe request := by
  obtain ⟨path, hname⟩ := lookup_surjective name
  have hkeyboard : NeverRefused (Py.raise (.other "KeyboardInterrupt") : Py W (Returned R)) :=
    .raise (by decide)
  have hasked : ∀ s, ((builtins.hooks name).on_request request).SafeAt s := by
    exact (htransparent.never_refused hlawful hin hname
      (fun _ _ => Py.raise (.other "KeyboardInterrupt")) (fun _ _ _ => rfl)
      (Py.raise (.other "KeyboardInterrupt")) hkeyboard).of_bind
  have hsame (s : W) : ((builtins.hooks name).on_request request).on_loop s =
      ((builtins.hooks name).on_request request).in_thread s :=
    (hlawful.request request).portable.same (hasked s)
  have hpassed (hpasses : (builtins.hooks name).Passes request) :
      ∃ s u, ((builtins.hooks name).on_request request).on_loop s = (.ok .none, u) := by
    obtain ⟨s, hnone⟩ := hpasses
    exact ⟨s, _, (hsame s).trans (Prod.ext hnone rfl)⟩
  constructor
  · exact hasked
  · intro hpasses response t hrefused
    obtain ⟨s, u, hnone⟩ := hpassed hpasses
    refine htransparent.never_refused hlawful hin hname (fun _ _ _ => (.ok response, t))
      (fun _ _ _ => rfl) (Py.raise (.other "KeyboardInterrupt")) (fun _ hraised => nomatch hraised)
      s ?_
    rw [fast_call_passes hnone]
    exact hrefused
  · intro s response t hanswers htruthy hrefused
    refine htransparent.never_refused hlawful hin hname
      (fun _ _ => Py.raise (.other "KeyboardInterrupt")) (fun _ _ _ => rfl)
      (Py.raise (.other "KeyboardInterrupt")) hkeyboard s ?_
    simp only [fast_middleware, Py.bind_run, hsame, hanswers]
    cases response with
    | none => cases htruthy
    | coroutine => exact hrefused
    | value response => exact hrefused
  · intro hpasses process_view hview hit t hrefused
    obtain ⟨s, u, hnone⟩ := hpassed hpasses
    have hresolve : NeverRefused (fun _ => (.ok hit, t) : Py W (Hit W Req R Args)) := by
      intro _ hraised
      cases hraised
    refine htransparent.never_refused hlawful hin hname id (fun _ _ hsame => hsame)
      (fun _ => (.ok hit, t)) ?_ s ?_
    · refine probing_core hresolve ?_ request
      intro hook hhook b
      rw [pair_view_hooks builtins id hname, hview, Option.map_some, Option.toList_some,
        List.mem_singleton] at hhook
      rw [hhook]
      exact (hlawful.view process_view hview b).never_refused
    · have hcore : (pair_core builtins id (fun _ => (.ok hit, t)) true path request u).1 =
          .error SynchronousOnlyOperation := by
        unfold pair_core Django.core
        rw [pair_view_hooks builtins id hname, hview]
        exact Py.bind_raises (Py.bind_raises hrefused _) _
      rw [fast_call_passes hnone]
      exact Py.bind_raises hcore _

end

/-- A request is answered with substitutes as without where its run with the stock classes comes
to no hook that is refused on the event loop. The substitution of some classes does nothing to it,
in any list and with any view and state, exactly where none of their hooks that the request can
come to is refused. -/
theorem substitution_transparent_iff (builtins : Builtins W Req R Args) (hlawful : builtins.Lawful)
    (hmirrored : builtins.Mirrored) :
    (∀ (other : String → Middleware W Req R Args) (MIDDLEWARE : List String)
      (django : Django W Req R Args) (request : Req) (s : W),
      (⟨builtins, other⟩ : Site W Req R Args).Steady
        ((⟨builtins, other⟩ : Site W Req R Args).kept MIDDLEWARE) →
      (⟨builtins, other⟩ : Site W Req R Args).SafeRun django MIDDLEWARE request s →
        (⟨builtins, other⟩ : Site W Req R Args).run true MIDDLEWARE django request s =
          (⟨builtins, other⟩ : Site W Req R Args).run false MIDDLEWARE django request s) ∧
    ∀ (names : Registered → Prop) (request : Req), Transparent builtins names request ↔
      ∀ name, names name → (builtins.hooks name).LoopSafe request := by
  have hhooks (other : String → Middleware W Req R Args) (path : String) :
      (⟨builtins, other⟩ : Site W Req R Args).Portable path := fun name _ =>
    (hlawful.hooks hmirrored name).portable
  refine ⟨fun other MIDDLEWARE django request s hsteady hsafe => ?_, fun names request => ⟨?_, ?_⟩⟩
  · exact Site.run_agrees _ django (fun path _ => hhooks other path) hsteady hsafe
  · intro htransparent name hin
    exact htransparent.loop_safe (hlawful.hooks hmirrored name) hin
  · intro hsafe other MIDDLEWARE hnames hhands hsteady django
    refine Site.run_agrees_of_safe _ (fun path _ => hhooks other path) ?_ hhands hsteady django
    intro path hpath name hname
    exact hsafe name (hnames path hpath name hname)

/-- A request, as far as its session cookie goes. -/
abbrev SessionCookie := Option String

/-- Sessions in the database, which nothing here has read or changed. -/
def db_sessions : Sessions Unit SessionCookie Nat where
  SESSION_SAVE_EVERY_REQUEST := false
  process_request := fun _ => pure ()
  flags := fun _ => pure ⟨false, false, false⟩
  in_cookies := fun request => pure request.isSome
  get_expire_at_browser_close := fun _ => pure false
  aget_expire_at_browser_close := fun _ => pure false
  get_expiry_age := fun _ => pure 1209600
  aget_expiry_age := fun _ => pure 1209600
  save := fun _ => Placed.db_call (pure ())
  asave := fun _ => pure ()
  http_date := fun _ => pure ""
  status_code := fun _ => pure 200
  delete_cookie := fun _ => pure ()
  set_cookie := fun _ _ _ => pure ()
  patch_vary_headers := fun _ => pure ()

/-- The settings `CSRF_USE_SESSIONS = True` and a database session engine: `process_request` reads
the secret from the session, which is loaded where the request has its cookie. -/
def csrf_use_sessions : Builtins Unit SessionCookie Nat Unit where
  xframe_process_response := fun _ response => pure response
  security_process_request := fun _ => pure .none
  security_process_response := fun _ response => pure response
  conditional_get_process_response := fun _ response => pure response
  common_process_request := fun _ => pure .none
  common_process_response := fun _ response => pure response
  gzip_process_response := fun _ response => pure response
  sessions := db_sessions
  authentication_process_request := fun _ => pure .none
  messages := ⟨false, fun _ => pure (), fun _ => pure none⟩
  csrf_process_request := fun request =>
    if request.isSome then Placed.db_call (pure Returned.none) else pure .none
  csrf_process_view := fun _ => pure .none
  csrf_process_response := fun _ response => pure response

/-- A site whose view answers with 200, and whose errors are answered with 500. -/
def answering_django : Django Unit SessionCookie Nat Unit where
  catches := fun _ => true
  response_for_exception := fun _ _ => pure 500
  set_urlconf := pure ()
  resolve_request := fun _ => pure ⟨⟨true, fun _ => pure (.value 200)⟩, ()⟩
  make_view_atomic := .ok
  render := fun _ => none
  close_with := fun _ _ => pure ()
  status_code := id
  log_response := fun _ _ => pure ()

theorem db_sessions_lawful : db_sessions.Lawful where
  process_request := fun _ => .pure _
  flags := fun _ => .pure _
  in_cookies := fun _ => .pure _
  get_expire_at_browser_close := fun _ => .pure _
  get_expiry_age := fun _ => .pure _
  save := fun _ => .db_call (.pure _)
  http_date := fun _ => .pure _
  status_code := fun _ => .pure _
  delete_cookie := fun _ => .pure _
  set_cookie := fun _ _ _ => .pure _
  patch_vary_headers := fun _ => .pure _

/-- No request has messages here. -/
theorem csrf_use_sessions_no_storage (storage : Storage Unit Nat) :
    ¬csrf_use_sessions.messages.Stores storage := by
  rintro ⟨request, s, t, hstorage⟩
  cases hstorage

theorem csrf_use_sessions_lawful : csrf_use_sessions.Lawful where
  xframe_process_response := fun _ _ => .pure _
  security_process_request := fun _ => .pure _
  security_process_response := fun _ _ => .pure _
  conditional_get_process_response := fun _ _ => .pure _
  common_process_request := fun _ => .pure _
  common_process_response := fun _ _ => .pure _
  gzip_process_response := fun _ _ => .pure _
  sessions := db_sessions_lawful
  authentication_process_request := fun _ => .pure _
  messages := ⟨fun _ => .pure _, fun _ => .pure _, fun storage hstores =>
    absurd hstores (csrf_use_sessions_no_storage storage)⟩
  csrf_process_request := by
    rintro (- | cookie)
    · exact .pure _
    · exact .db_call (.pure _)
  csrf_process_view := fun _ => .pure _
  csrf_process_response := fun _ _ => .pure _

theorem csrf_use_sessions_mirrored : csrf_use_sessions.Mirrored :=
  ⟨⟨fun _ => rfl, fun _ => rfl, fun _ => rfl⟩, fun storage hstores =>
    absurd hstores (csrf_use_sessions_no_storage storage)⟩

def csrf_stack : List String := ["django.contrib.sessions.middleware.SessionMiddleware",
  "django.middleware.csrf.CsrfViewMiddleware"]

/-- A request without a session cookie comes to no database call. -/
theorem csrf_use_sessions_safe (name : Registered) :
    (csrf_use_sessions.hooks name).LoopSafe none := by
  have hreturns {A : Type} {code : Placed Unit A} (a : A) (hcode : code.on_loop () = (.ok a, ()))
      (s : Unit) : code.SafeAt s := by
    rw [Placed.SafeAt, hcode]
    intro hrefused
    cases hrefused
  have hasked (s : Unit) : ((csrf_use_sessions.hooks name).on_request none).SafeAt s :=
    hreturns .none (by cases name <;> rfl) s
  have hresponse (response : Returned Nat) (s : Unit) :
      ((csrf_use_sessions.hooks name).on_response none response).SafeAt s :=
    hreturns response (by cases name <;> rfl) s
  refine ⟨hasked, fun _ => hresponse, fun _ response t _ _ => hresponse response t, ?_⟩
  intro _ process_view hview hit s
  cases name with
  | CsrfViewMiddleware =>
    cases hview
    exact hreturns .none rfl s
  | _ => cases hview

/-- Without a session cookie the substitutes do what the stock classes do. -/
theorem substitution_transparent_no_cookie :
    (⟨csrf_use_sessions, fun _ => bystander id⟩ : Site Unit SessionCookie Nat Unit).run true
        csrf_stack answering_django none () =
      (⟨csrf_use_sessions, fun _ => bystander id⟩ : Site Unit SessionCookie Nat Unit).run false
        csrf_stack answering_django none () := by
  refine (substitution_transparent_iff csrf_use_sessions csrf_use_sessions_lawful
    csrf_use_sessions_mirrored).1 (fun _ => bystander id) csrf_stack answering_django none ()
    (Site.steady_of_blind (fun _ => rfl) _) fun t _ => ?_
  refine Site.safeFrom_of_safe _ (fun _ _ name _ => csrf_use_sessions_safe name)
    (fun _ _ _ _ _ _ hsame => hsame) (fun hpassable u hit v _ => ?_) t
  exact Site.viewSafe_of_safe _ (fun _ _ name _ => csrf_use_sessions_safe name) hpassable hit v

/-- The substitute of `CsrfViewMiddleware` answers a request with a session cookie with 500. -/
theorem csrf_use_sessions_refused : ¬∀ (site : Site Unit SessionCookie Nat Unit)
    (MIDDLEWARE : List String) (django : Django Unit SessionCookie Nat Unit)
    (request : SessionCookie),
      site.run true MIDDLEWARE django request = site.run false MIDDLEWARE django request := by
  intro hall
  let site : Site Unit SessionCookie Nat Unit := ⟨csrf_use_sessions, fun _ => bystander id⟩
  have hsession : REGISTRY.lookup "django.contrib.sessions.middleware.SessionMiddleware" =
      some .SessionMiddleware := by decide +kernel
  have hcsrf : REGISTRY.lookup "django.middleware.csrf.CsrfViewMiddleware" =
      some .CsrfViewMiddleware := by decide +kernel
  have hsame := hall site csrf_stack answering_django (some "abc")
  simp only [Site.run, csrf_stack, List.map_cons, List.map_nil, (site.load_registered hsession).1,
    (site.load_registered hsession).2, (site.load_registered hcsrf).1,
    (site.load_registered hcsrf).2, run_build] at hsame
  have hstatus : (500 : Nat) = 200 := Except.ok.inj (congrArg (fun run => (run ()).1) hsame)
  exact absurd hstatus (by decide)

end massless.middleware
