import Massless.Chain.FastPath

open python
open massless.router
open massless.handler (Request)
open massless.chain (check_response refuse_coroutine)

namespace massless.fast_path

variable {Urlconf Attrs World Obj Regex R : Type}

namespace App

variable (app : App Urlconf Attrs World Obj Regex R)

/-- What is observed of a matched request that ends with this outcome: one call of the view
with the arguments of the match, at most one conversion, of an exception that is caught, and
for a response the closer once, and a log entry exactly from status 400 on. -/
def Recorded (request : Request) (m : Match (View Urlconf Attrs World Obj R) Obj)
    (outcome : Except Exc R) (events : List (Event Obj R)) : Prop :=
  ∃ converted closing, events = .viewed request (m.args, m.kwargs) :: converted ++ closing ∧
    (converted = [] ∨ ∃ e, app.catches e = true ∧ converted = [.converted request e]) ∧
    match outcome with
    | .ok response => closing = .closing request response ::
        if 400 ≤ app.status_code response then [.logged request response] else []
    | .error _ => closing = [] ∨ ∃ response, closing = .closing request response ::
        if 400 ≤ app.status_code response then [.logged request response] else []

/-- The three paths agree on a request: they end alike, and the same is observed. -/
structure Agree [DecidableEq Urlconf] (request : Request)
    (m : Match (View Urlconf Attrs World Obj R) Obj) (s : State Urlconf Attrs World Obj R) :
    Prop where
  outcome : (app.dispatch request s).1 = ((do
    app.start
    app.handle request) s).1
  events : (app.dispatch request s).2.events = ((do
    app.start
    app.handle request) s).2.events
  chain : (do
    app.start
    app.handle request) s = (do
      app.start
      app.chain_run request) s
  recorded : (app.start s).1 = .ok () → ∃ added,
    (app.dispatch request s).2.events = s.events ++ added ∧
      app.Recorded request m (app.dispatch request s).1 added

/-- A hit of the table on a new request, while no other URLconf than `ROOT_URLCONF` is active. -/
structure Hits (request : Request) (m : Match (View Urlconf Attrs World Obj R) Obj)
    (s : State Urlconf Attrs World Obj R) : Prop where
  matched : app.router_match request = some m
  fresh : s.site.attr = none
  active : s.site.thread_local = none ∨ s.site.thread_local = some app.root_urlconf

end App

/-- Two states of the site that differ in no more than an unset URLconf of the thread, which
counts as `ROOT_URLCONF`. -/
structure SameUrlconf (root_urlconf : Urlconf) (s t : Site Urlconf Attrs World) : Prop where
  thread_local : s.thread_local.getD root_urlconf = t.thread_local.getD root_urlconf
  attr : s.attr = t.attr
  world : s.world = t.world
  attrs : s.attrs = t.attrs

/-- The same, with the same events. -/
def SameState (root_urlconf : Urlconf) (s t : State Urlconf Attrs World Obj R) : Prop :=
  SameUrlconf root_urlconf s.site t.site ∧ s.events = t.events

/-- Application code that does not tell an unset URLconf of the thread from `ROOT_URLCONF`. -/
structure App.Indifferent (app : App Urlconf Attrs World Obj Regex R) : Prop where
  views : ∀ request m, app.router_match request = some m → ∀ a,
    Py.Simulates (SameUrlconf app.root_urlconf) (m.callback.body a) (m.callback.body a)
  render : ∀ response render, app.render response = some render →
    Py.Simulates (SameUrlconf app.root_urlconf) (render.body ()) (render.body ())
  response_for_exception : ∀ request exc, Py.Simulates (SameUrlconf app.root_urlconf)
    (app.response_for_exception request exc) (app.response_for_exception request exc)
  close_with : ∀ request response, Py.Simulates (SameUrlconf app.root_urlconf)
    (app.close_with request response) (app.close_with request response)
  log_response : ∀ request response, Py.Simulates (SameUrlconf app.root_urlconf)
    (app.log_response request response) (app.log_response request response)

theorem user_events {A : Type} (code : Py (Site Urlconf Attrs World) A) :
    Py.Keeps State.events (user code : Py (State Urlconf Attrs World Obj R) A) := fun _ => rfl

namespace App

variable (app : App Urlconf Attrs World Obj Regex R)

theorem rendering_events (response : R) :
    Py.Keeps State.events (app.rendering response : Py (State Urlconf Attrs World Obj R) _) := by
  unfold rendering
  cases app.render response with
  | none => exact .pure _
  | some render => exact user_events _

theorem refuse_coroutine_events (response : Returned R) :
    Py.Keeps State.events
      (refuse_coroutine response : Py (State Urlconf Attrs World Obj R) _) := by
  cases response with
  | none => exact .pure _
  | coroutine => exact .raise _
  | value response => exact .pure _

/-- The view is called once, and its rendering is not observed. -/
theorem viewing_events (request : Request) (m : Match (View Urlconf Attrs World Obj R) Obj)
    (s : State Urlconf Attrs World Obj R) :
    (app.viewing request m s).2.events = s.events ++ [.viewed request (m.args, m.kwargs)] := by
  refine (Py.Keeps.after_bind _ (fun response => ?_) s).trans rfl
  refine (Py.Keeps.lift _).bind fun response => ?_
  exact (app.rendering_events response).bind fun response => refuse_coroutine_events response

/-- What is raised by the view or the rendering is converted where it is caught. -/
theorem answer_events (request : Request) (m : Match (View Urlconf Attrs World Obj R) Obj)
    (s : State Urlconf Attrs World Obj R) :
    (app.answer request m s).2.events = s.events ++ .viewed request (m.args, m.kwargs) ::
      match (app.viewing request m s).1 with
      | .ok _ => []
      | .error e => if app.catches e then [.converted request e] else [] := by
  have hviewed := app.viewing_events request m s
  unfold answer
  rw [Py.try_except_run]
  rcases hviewing : app.viewing request m s with ⟨e | response, t⟩ <;> rw [hviewing] at hviewed
  · simp only
    split
    · refine (Py.Keeps.after_bind _ (fun response => .pure _) t).trans ?_
      change t.events ++ [.converted request e] = _
      rw [hviewed, List.append_assoc]
      rfl
    · exact hviewed
  · exact hviewed

/-- The closer comes once for a response that goes out, and the log from status 400 on. -/
theorem finish_events (request : Request) (response : R) (s : State Urlconf Attrs World Obj R) :
    ∃ closing, (app.finish request (.value response) s).2.events = s.events ++ closing ∧
      match (app.finish request (.value response) s).1 with
      | .ok sent => closing = .closing request sent ::
          if 400 ≤ app.status_code sent then [.logged request sent] else []
      | .error _ => closing = [] ∨ closing = .closing request response ::
          if 400 ≤ app.status_code response then [.logged request response] else [] := by
  unfold finish append_closer log
  rcases hclose : app.close_with request response s.site with ⟨e | _, site⟩
  · refine ⟨[], ?_, ?_⟩
    · simp [user, hclose]
    · simp [user, hclose]
  · by_cases herror : 400 ≤ app.status_code response
    · rcases hlog : app.log_response request response site with ⟨e | _, site'⟩ <;>
        refine ⟨[.closing request response, .logged request response], ?_, ?_⟩ <;>
          simp [user, record, hclose, herror, hlog]
    · refine ⟨[.closing request response], ?_, ?_⟩ <;> simp [user, record, hclose, herror]

/-- The observations of the whole: the answer, and what is done with its response. -/
theorem answered_recorded (request : Request) (m : Match (View Urlconf Attrs World Obj R) Obj)
    (s : State Urlconf Attrs World Obj R) : ∃ added,
    ((do
      let response ← app.answer request m
      app.finish request response) s).2.events = s.events ++ added ∧
      app.Recorded request m ((do
        let response ← app.answer request m
        app.finish request response) s).1 added := by
  have hanswer := app.answer_events request m s
  let converted : List (Event Obj R) := match (app.viewing request m s).1 with
    | .ok _ => []
    | .error e => if app.catches e then [.converted request e] else []
  have hconverted : converted = [] ∨
      ∃ e, app.catches e = true ∧ converted = [.converted request e] := by
    dsimp only [converted]
    split
    · exact Or.inl rfl
    · rename_i e _
      split
      · rename_i hcatches
        exact Or.inr ⟨e, hcatches, rfl⟩
      · exact Or.inl rfl
  rw [Py.bind_run]
  rcases hrun : app.answer request m s with ⟨e | response, t⟩ <;> rw [hrun] at hanswer
  · exact ⟨_, hanswer, converted, [], (List.append_nil _).symm, hconverted, Or.inl rfl⟩
  · cases response with
    | none => exact ⟨_, hanswer, converted, [], (List.append_nil _).symm, hconverted, Or.inl rfl⟩
    | coroutine =>
      exact ⟨_, hanswer, converted, [], (List.append_nil _).symm, hconverted, Or.inl rfl⟩
    | value response =>
      obtain ⟨closing, hevents, hclosing⟩ := app.finish_events request response t
      refine ⟨_, ?_, converted, closing, rfl, hconverted, ?_⟩
      · rw [hevents, hanswer, List.append_assoc]
      · split
        · rename_i sent hsent
          rw [hsent] at hclosing
          exact hclosing
        · rename_i e hraised
          rw [hraised] at hclosing
          exact hclosing.imp id fun hlogged => ⟨response, hlogged⟩

/-- The signal reaches neither the thread nor the request. -/
theorem start_set_match (m : Match (View Urlconf Attrs World Obj R) Obj)
    (s : State Urlconf Attrs World Obj R) : app.start (app.set_match m s).2 =
      ((app.start s).1, (app.set_match m (app.start s).2).2) := by
  unfold start
  split <;> rfl

theorem start_keeps (s : State Urlconf Attrs World Obj R) :
    (app.start s).2.site.attr = s.site.attr ∧
      (app.start s).2.site.thread_local = s.site.thread_local ∧
      (app.start s).2.events = s.events := by
  unfold start
  split <;> exact ⟨rfl, rfl, rfl⟩

/-- The work on a matched request once the signal is sent. -/
def matched (request : Request) (m : Match (View Urlconf Attrs World Obj R) Obj) :
    Py (State Urlconf Attrs World Obj R) R := do
  app.set_match m
  let response ← app.answer request m
  app.finish request response

section
variable {app} {request : Request} {m : Match (View Urlconf Attrs World Obj R) Obj}
  {s t : State Urlconf Attrs World Obj R}

theorem Hits.getD (hhits : app.Hits request m s) :
    s.site.thread_local.getD app.root_urlconf = app.root_urlconf := by
  obtain hunset | hset := hhits.active
  · rw [hunset]
    rfl
  · rw [hset]
    rfl

theorem Hits.start (hhits : app.Hits request m s) : app.Hits request m (app.start s).2 := by
  obtain ⟨hattr, hthread, -⟩ := app.start_keeps s
  exact ⟨hhits.matched, hattr.trans hhits.fresh, hthread.symm ▸ hhits.active⟩

variable [DecidableEq Urlconf]

/-- The inlined block works on the state that it finds. -/
theorem Hits.dispatch_eq_matched (hhits : app.Hits request m s)
    (hstart : app.start s = (.ok (), t)) : app.dispatch request s = app.matched request m t := by
  have hset : app.set_match m s = (.ok (), (app.set_match m s).2) := rfl
  rw [app.dispatch_eq hhits.matched hhits.fresh hhits.getD, Py.bind_run, hset]
  simp only [Py.bind_run]
  rw [app.start_set_match, hstart]
  rfl

theorem Hits.dispatch_fails (hhits : app.Hits request m s) {e : Exc}
    (hstart : app.start s = (.error e, t)) :
    app.dispatch request s = (.error e, (app.set_match m t).2) := by
  have hset : app.set_match m s = (.ok (), (app.set_match m s).2) := rfl
  rw [app.dispatch_eq hhits.matched hhits.fresh hhits.getD, Py.bind_run, hset]
  simp only [Py.bind_run]
  rw [app.start_set_match, hstart]

/-- The paths agree where the work does not depend on who sets the URLconf of the thread. -/
theorem Hits.agree (hhits : app.Hits request m s)
    (hrooted : ∀ t, t.site.thread_local = s.site.thread_local →
      (app.matched request m t).1 = (app.matched request m (app.rooted t)).1 ∧
        (app.matched request m t).2.events = (app.matched request m (app.rooted t)).2.events) :
    app.Agree request m s := by
  obtain ⟨-, hkept, hsilent⟩ := app.start_keeps s
  have hstarted := hhits.start
  rcases hstart : app.start s with ⟨e | ⟨⟩, t⟩ <;> rw [hstart] at hkept hsilent hstarted
  · have hfails : ∀ f : Unit → Py (State Urlconf Attrs World Obj R) R,
        (app.start >>= f) s = (.error e, t) := by
      intro f
      rw [Py.bind_run, hstart]
    constructor
    · rw [hhits.dispatch_fails hstart, hfails]
    · rw [hhits.dispatch_fails hstart, hfails]
      rfl
    · rw [hfails, hfails]
    · intro hsent
      rw [hstart] at hsent
      cases hsent
  · have hgoes : ∀ f : Unit → Py (State Urlconf Attrs World Obj R) R,
        (app.start >>= f) s = f () t := by
      intro f
      rw [Py.bind_run, hstart]
    have hhandle : app.handle request t = app.matched request m (app.rooted t) :=
      app.handle_eq hstarted.matched hstarted.fresh hstarted.getD
    have hchain : app.chain_run request t = app.matched request m (app.rooted t) :=
      app.chain_run_eq hstarted.matched hstarted.fresh
    obtain ⟨houtcome, hevents⟩ := hrooted t hkept
    constructor
    · rw [hhits.dispatch_eq_matched hstart, hgoes, hhandle, houtcome]
    · rw [hhits.dispatch_eq_matched hstart, hgoes, hhandle, hevents]
    · rw [hgoes, hgoes, hhandle, hchain]
    · intro _
      obtain ⟨added, hadded, hrecorded⟩ :=
        app.answered_recorded request m (app.set_match m t).2
      refine ⟨added, ?_, ?_⟩
      · rw [hhits.dispatch_eq_matched hstart, ← hsilent]
        exact hadded
      · rw [hhits.dispatch_eq_matched hstart]
        exact hrecorded

end

theorem simulates_user {A : Type} {root_urlconf : Urlconf} {code : Py (Site Urlconf Attrs World) A}
    (hcode : Py.Simulates (SameUrlconf root_urlconf) code code) :
    Py.Simulates (SameState root_urlconf)
      (user code : Py (State Urlconf Attrs World Obj R) A) (user code) := by
  intro s t hsame
  obtain ⟨houtcome, hafter⟩ := hcode s.site t.site hsame.1
  exact ⟨houtcome, hafter, hsame.2⟩

theorem simulates_record {root_urlconf : Urlconf} (event : Event Obj R) :
    Py.Simulates (SameState root_urlconf)
      (record event : Py (State Urlconf Attrs World Obj R) Unit) (record event) :=
  .modify fun _ _ hsame => ⟨hsame.1, congrArg (· ++ [event]) hsame.2⟩

variable {app} {request : Request} {m : Match (View Urlconf Attrs World Obj R) Obj}

theorem simulates_set_match : Py.Simulates (SameState app.root_urlconf)
    (app.set_match m : Py (State Urlconf Attrs World Obj R) Unit) (app.set_match m) :=
  simulates_user (.modify fun _ _ hsame =>
    ⟨hsame.thread_local, hsame.attr, hsame.world, congrArg (app.set_resolver_match m) hsame.attrs⟩)

theorem Indifferent.rendering (hindifferent : app.Indifferent) (response : R) :
    Py.Simulates (SameState app.root_urlconf)
      (app.rendering response : Py (State Urlconf Attrs World Obj R) _)
      (app.rendering response) := by
  unfold App.rendering
  cases hlate : app.render response with
  | none => exact .pure _
  | some render => exact simulates_user (hindifferent.render response render hlate)

theorem Indifferent.viewing (hindifferent : app.Indifferent)
    (hmatch : app.router_match request = some m) :
    Py.Simulates (SameState app.root_urlconf) (app.viewing request m) (app.viewing request m) := by
  refine ((simulates_record _).bind fun _ => ?_).bind fun response => ?_
  · exact simulates_user (hindifferent.views request m hmatch (request, m.args, m.kwargs))
  refine (Py.Simulates.lift _).bind fun response => ?_
  refine (hindifferent.rendering response).bind fun response => ?_
  cases response with
  | none => exact .pure _
  | coroutine => exact .raise _
  | value response => exact .pure _

theorem Indifferent.answer (hindifferent : app.Indifferent)
    (hmatch : app.router_match request = some m) :
    Py.Simulates (SameState app.root_urlconf) (app.answer request m) (app.answer request m) := by
  refine (hindifferent.viewing hmatch).try_except fun e => ?_
  refine ((simulates_record _).bind fun _ => ?_).bind fun response => .pure _
  exact simulates_user (hindifferent.response_for_exception request e)

theorem Indifferent.finish (hindifferent : app.Indifferent) (response : Returned R) :
    Py.Simulates (SameState app.root_urlconf)
      (app.finish request response : Py (State Urlconf Attrs World Obj R) R)
      (app.finish request response) := by
  cases response with
  | none => exact .raise _
  | coroutine => exact .raise _
  | value response =>
    have hclose : Py.Simulates (SameState app.root_urlconf) (app.append_closer request response)
        (app.append_closer request response) :=
      (simulates_user (hindifferent.close_with request response)).bind fun _ => simulates_record _
    have hlog : Py.Simulates (SameState app.root_urlconf) (app.log request response)
        (app.log request response) :=
      (simulates_record _).bind fun _ => simulates_user (hindifferent.log_response request response)
    refine hclose.bind fun _ => ?_
    dsimp only
    split
    · exact hlog.bind fun _ => .pure _
    · exact (Py.Simulates.pure ()).bind fun _ => .pure _

/-- Code that does not tell an unset URLconf of the thread from `ROOT_URLCONF` makes the same
of a matched request from both. -/
theorem Indifferent.matched (hindifferent : app.Indifferent)
    (hmatch : app.router_match request = some m) :
    Py.Simulates (SameState app.root_urlconf) (app.matched request m) (app.matched request m) :=
  simulates_set_match.bind fun _ =>
    (hindifferent.answer hmatch).bind fun response => hindifferent.finish response

/-- Where the URLconf of the thread is set, the three are one program. -/
theorem Hits.agree_of_set [DecidableEq Urlconf] {s : State Urlconf Attrs World Obj R}
    (hhits : app.Hits request m s) (hset : s.site.thread_local ≠ none) :
    app.Agree request m s := by
  apply hhits.agree
  intro t hkept
  have hroot : t.site.thread_local = some app.root_urlconf :=
    hkept.trans (hhits.active.resolve_left hset)
  have hrooted : app.rooted t = t := by
    rw [rooted, ← hroot]
  rw [hrooted]
  exact ⟨rfl, rfl⟩

/-- So they are for code that takes an unset one for `ROOT_URLCONF`. -/
theorem Hits.agree_of_indifferent [DecidableEq Urlconf] {s : State Urlconf Attrs World Obj R}
    (hhits : app.Hits request m s) (hindifferent : app.Indifferent) : app.Agree request m s := by
  apply hhits.agree
  intro t hkept
  have hsame : SameState app.root_urlconf t (app.rooted t) := by
    refine ⟨⟨?_, rfl, rfl, rfl⟩, rfl⟩
    rw [hkept, hhits.getD]
    rfl
  obtain ⟨houtcome, hafter⟩ := hindifferent.matched hhits.matched t (app.rooted t) hsame
  exact ⟨houtcome, hafter.2⟩

end App

/-- The site with one view, at the root of its URLconf. -/
def one_view (root_urlconf : Urlconf) (view : View Urlconf Attrs World Obj R) :
    App Urlconf Attrs World Obj Regex R where
  root_urlconf := root_urlconf
  finditer := fun _ => []
  url_patterns := [.url_pattern (.route "") view .empty none]
  pool_lifecycle := true
  request_started := pure ()
  set_resolver_match := fun _ attrs => attrs
  django_resolve_request := fun _ => Py.raise (.other "Resolver404")
  catches := fun _ => false
  response_for_exception := fun _ exc => Py.raise exc
  render := fun _ => none
  close_with := fun _ _ => pure ()
  status_code := fun _ => 200
  log_response := fun _ _ => pure ()

theorem one_view_match (root_urlconf : Urlconf) (view : View Urlconf Attrs World Obj R) :
    (one_view root_urlconf view : App Urlconf Attrs World Obj Regex R).router_match "/" =
      some ⟨view, [], .empty, "", view.is_async⟩ := by
  rfl

/-- What the paths make of the view of this site. -/
theorem one_view_outcomes [DecidableEq Urlconf] (root_urlconf : Urlconf)
    (view : View Urlconf Attrs World Obj R) {s : State Urlconf Attrs World Obj R}
    (hfresh : s.site.attr = none) (hunset : s.site.thread_local = none) :
    let app : App Urlconf Attrs World Obj Regex R := one_view root_urlconf view
    let m : Match (View Urlconf Attrs World Obj R) Obj := ⟨view, [], .empty, "", view.is_async⟩
    app.Hits "/" m s ∧ (app.Agree "/" m s →
      (app.matched "/" m s).1 = (app.matched "/" m (app.rooted s)).1) := by
  intro app m
  have hhits : app.Hits "/" m s := ⟨one_view_match root_urlconf view, hfresh, Or.inl hunset⟩
  refine ⟨hhits, fun hagree => ?_⟩
  have hstart : app.start s = (.ok (), s) := rfl
  rw [← hhits.dispatch_eq_matched hstart, hagree.outcome, Py.bind_run, hstart]
  exact congrArg Prod.fst (app.handle_eq hhits.matched hhits.fresh hhits.getD)

/-- A view that stops the process in another way where the URLconf of the thread is unset. -/
def telling_view : View Urlconf Attrs World Obj R :=
  ⟨true, fun _ site => match site.thread_local with
    | none => (.error (.other "KeyboardInterrupt"), site)
    | some _ => (.error (.other "SystemExit"), site)⟩

/-- `JsonResponse({"urlconf": get_urlconf()})` -/
def v_urlconf_probe : View String Unit Unit Unit (Option String) :=
  ⟨true, fun _ site => (.ok (.value site.thread_local), site)⟩

end massless.fast_path
