import Massless.Protocol.Dispatch

open python
open massless.response

namespace massless.protocol

variable {Data : Type} {calls : Calls Data}

/-- The response that reaches the folds when every call before them returns: the
view's own, the error response that stands in for an ordinary exception, or what
the handler returns. -/
def Calls.Reaches (calls : Calls Data) (dj_resp : DjangoResponse Data) : Prop :=
  (calls.routed = .ok true ∧ ∃ reply, calls.answer = .ok reply ∧
    register_close calls.request_close reply = .ok dj_resp ∧
    (400 ≤ dj_resp.fields.status_code → calls.log_response = .ok ())) ∨
  (calls.routed = .ok false ∧ calls.handle = .ok (.response dj_resp))

/-- The fold of a response does not raise: the body and the content type of a fast
response serialize, and the content type and the reason phrase of a plain one are
latin-1. -/
def Calls.Folds (calls : Calls Data) (dj_resp : DjangoResponse Data) : Prop :=
  match dj_resp.kind with
  | .fast body => fast_response_to_massless calls.serialize_body body dj_resp.fields ≠ none
  | .streaming => True
  | .plain => django_response_to_massless dj_resp.fields ≠ none

/-- The teardown of a response is not cut short before it has seen to
everything. -/
def Calls.Finishes (calls : Calls Data) (dj_resp : DjangoResponse Data) : Prop :=
  if calls.pool_lifecycle then
    (∀ id ∈ dj_resp.resource_closers, calls.closer id ≠ .error CancelledError) ∧
      (calls.close_old_connections.outcome = .ok () ∨
        .connections_returned ∈ calls.close_old_connections.events)
  else
    (calls.close dj_resp).outcome = .ok () ∨
      Complete calls dj_resp.resource_closers (calls.close dj_resp).events

/-- The events of a request before its view or handler runs. -/
def Calls.opening (calls : Calls Data) : List Event :=
  if calls.pool_lifecycle then [.entered] else [.request_started, .entered]

/-- Whether the request starts at all. -/
def Calls.Starts (calls : Calls Data) : Prop :=
  (∃ routed, calls.routed = .ok routed) ∧
    (calls.pool_lifecycle = false → calls.request_started = .ok ())

/-- What Django says of its two teardown calls: `close()` and `aclose()` that return
have run every closer and sent `request_finished` once, and the pool call returns
the connections once at most, and has done so when it returns. -/
structure Calls.Documented (calls : Calls Data) : Prop where
  close : ∀ dj_resp, (calls.close dj_resp).outcome = .ok () → (calls.close dj_resp).events =
    dj_resp.resource_closers.map .closer ++ [.request_finished]
  at_most_once : calls.close_old_connections.events = [] ∨
    calls.close_old_connections.events = [.connections_returned]
  returned : calls.close_old_connections.outcome = .ok () →
    calls.close_old_connections.events = [.connections_returned]

/-- After the opening, what is left to happen is one complete teardown. -/
theorem paired_iff_complete (run : Run) (events : List Event)
    (htrace : run.trace = calls.opening ++ events) :
    Paired calls run ↔ Complete calls run.registered events := by
  rw [Paired, Complete, htrace, Calls.opening]
  cases calls.pool_lifecycle <;> simp

theorem not_complete_nil (registered : List Nat) : ¬Complete calls registered [] := by
  unfold Complete
  cases calls.pool_lifecycle <;> simp

theorem start_run (hstarts : calls.pool_lifecycle = false → calls.request_started = .ok ()) :
    start calls ⟨[], []⟩ = (.ok (), ⟨calls.opening, []⟩) := by
  rw [start, Calls.opening]
  cases hpool : calls.pool_lifecycle with
  | true => rfl
  | false => simp [emit, hstarts hpool]

theorem start_refused {e : Exc} (hpool : calls.pool_lifecycle = false)
    (hstarted : calls.request_started = .error e) :
    start calls ⟨[], []⟩ = (.error e, ⟨[], []⟩) := by
  simp [start, hpool, hstarted]

/-- The reply of either path: a response that gets there, or an exit with nothing
torn down. -/
theorem run_view_run (hstarts : calls.pool_lifecycle = false → calls.request_started = .ok ())
    {routed : Bool} (hrouted : calls.routed = .ok routed) :
    (∃ dj_resp, calls.Reaches dj_resp ∧ run_view calls routed ⟨[], []⟩ =
      (.ok (.response dj_resp), ⟨calls.opening, dj_resp.resource_closers⟩)) ∨
    ((∀ dj_resp, ¬calls.Reaches dj_resp) ∧
      ∃ outcome registered,
        run_view calls routed ⟨[], []⟩ = (outcome, ⟨calls.opening, registered⟩) ∧
        ∀ dj_resp, outcome ≠ .ok (.response dj_resp)) := by
  cases routed with
  | true =>
    simp only [run_view, if_true, fast_path, Py.bind_run, start_run hstarts, Py.lift_run,
      Calls.Reaches, hrouted]
    cases hanswer : calls.answer with
    | error e => right; simp
    | ok reply =>
      cases hregister : register_close calls.request_close reply with
      | error e => right; simp [hregister]
      | ok dj_resp =>
        by_cases herror : 400 ≤ dj_resp.fields.status_code
        · cases hlog : calls.log_response with
          | error e => right; simp [hregister, hold, herror]
          | ok _ => left; exact ⟨dj_resp, by simp [hregister], by simp [hregister, hold, herror]⟩
        · left
          exact ⟨dj_resp, by simp [hregister, herror], by simp [hregister, hold, herror]⟩
  | false =>
    simp only [run_view, Bool.false_eq_true, if_false, handler_path, Py.bind_run, start_run hstarts,
      Py.lift_run, Calls.Reaches, hrouted]
    cases hhandle : calls.handle with
    | error e => right; simp
    | ok reply =>
      cases reply with
      | response dj_resp => left; exact ⟨dj_resp, by simp, by simp [hold]⟩
      | _ => right; simp

theorem fold_response_isOk_iff (keep_alive : Bool) (dj_resp : DjangoResponse Data) :
    (∃ folded, fold_response calls keep_alive (.response dj_resp) = .ok folded) ↔
      calls.Folds dj_resp := by
  cases hkind : dj_resp.kind with
  | fast body =>
    cases hfold : fast_response_to_massless calls.serialize_body body dj_resp.fields <;>
      simp [fold_response, Calls.Folds, hkind, hfold]
  | streaming => simp [fold_response, Calls.Folds, hkind]
  | plain =>
    cases hfold : django_response_to_massless dj_resp.fields <;>
      simp [fold_response, Calls.Folds, hkind, hfold]

theorem count_map_closer (registered : List Nat) (id : Nat) :
    (registered.map Event.closer).count (.closer id) = registered.count id := by
  induction registered with
  | nil => rfl
  | cons first rest ih => simp [List.count_cons, ih]

theorem count_map_closer_of_ne (registered : List Nat) {event : Event}
    (hevent : ∀ id, event ≠ .closer id) : (registered.map Event.closer).count event = 0 := by
  rw [List.count_eq_zero]
  intro hmem
  obtain ⟨id, -, rfl⟩ := List.mem_map.mp hmem
  exact hevent id rfl

/-- The closers run in order, up to one that lets a cancellation through. -/
theorem run_closers_run (calls : Calls Data) (registered : List Nat) (run : Run) :
    ((∀ id ∈ registered, calls.closer id ≠ .error CancelledError) ∧
      run_closers calls registered run =
        (.ok (), { run with trace := run.trace ++ registered.map .closer })) ∨
    ((¬∀ id ∈ registered, calls.closer id ≠ .error CancelledError) ∧
      ∃ (ran : List Nat) (e : Exc), run_closers calls registered run =
        (.error e, { run with trace := run.trace ++ ran.map .closer })) := by
  induction registered generalizing run with
  | nil => left; exact ⟨by simp, by simp [run_closers]⟩
  | cons id rest ih =>
    by_cases hcancelled : calls.closer id = .error CancelledError
    · right
      exact ⟨by simp [hcancelled], [id], CancelledError,
        by simp [run_closers, run_closer, emit, hcancelled]⟩
    · have hfirst : run_closer calls id run =
          (.ok (), { run with trace := run.trace ++ [.closer id] }) := by
        simp only [run_closer, emit, Py.bind_run, Py.modify_run]
        cases hcloser : calls.closer id with
        | ok _ => rfl
        | error e =>
          have hother : e ≠ CancelledError := by
            rintro rfl
            exact hcancelled hcloser
          simp [hother]
      simp only [run_closers, Py.bind_run, hfirst]
      rcases ih { run with trace := run.trace ++ [.closer id] } with
        ⟨hquiet, hrun⟩ | ⟨hescapes, ran, e, hrun⟩
      · left
        exact ⟨by simpa [hcancelled] using hquiet, by simp [hrun]⟩
      · right
        refine ⟨by simpa [hcancelled] using hescapes, id :: ran, e, by simp [hrun]⟩

/-- A teardown leaves the events of a complete one exactly when it is not cut
short. -/
theorem teardown_run (hdocumented : calls.Documented) (dj_resp : DjangoResponse Data) (run : Run) :
    ∃ events outcome, teardown calls (.response dj_resp) run =
        (outcome, { run with trace := run.trace ++ events }) ∧
      (Complete calls dj_resp.resource_closers events ↔ calls.Finishes dj_resp) := by
  obtain ⟨hclose, hat_most_once, hreturned⟩ := hdocumented
  simp only [teardown, Calls.Finishes]
  cases hpool : calls.pool_lifecycle with
  | false =>
    refine ⟨(calls.close dj_resp).events, (calls.close dj_resp).outcome, by
      simp [Call.run, emit], ?_⟩
    simp only [Bool.false_eq_true, if_false]
    refine ⟨Or.inr, fun hfinishes => hfinishes.elim (fun hok => ?_) id⟩
    simp [hclose dj_resp hok, Complete, hpool, count_map_closer, count_map_closer_of_ne]
  | true =>
    simp only [if_true, Py.bind_run]
    rcases run_closers_run calls dj_resp.resource_closers run with
      ⟨hquiet, hrun⟩ | ⟨hescapes, ran, e, hrun⟩
    · refine ⟨dj_resp.resource_closers.map .closer ++ calls.close_old_connections.events,
        calls.close_old_connections.outcome, by simp [hrun, Call.run, emit], ?_⟩
      obtain hnone | hone := hat_most_once
      · have hnot : calls.close_old_connections.outcome ≠ .ok () := by
          intro hok
          simp [hreturned hok] at hnone
        simp [Complete, hpool, hnone, hnot, count_map_closer_of_ne]
      · simpa [Complete, hpool, hone, count_map_closer, count_map_closer_of_ne] using hquiet
    · refine ⟨ran.map .closer, .error e, by simp [hrun], ?_⟩
      simp [Complete, hpool, hescapes, count_map_closer_of_ne]

theorem Calls.Reaches.unique {dj_resp other : DjangoResponse Data}
    (hreaches : calls.Reaches dj_resp) (hother : calls.Reaches other) : dj_resp = other := by
  simp only [Calls.Reaches] at hreaches hother
  grind

/-- A request that does not start leaves no trace. -/
theorem dispatch_unstarted (hunstarted : ¬calls.Starts) (date : Bytes) (keep_alive : Bool)
    (method : Bytes) : (dispatch calls date keep_alive method ⟨[], []⟩).2.trace = [] := by
  simp only [dispatch, Py.bind_run, Py.lift_run]
  cases hrouted : calls.routed with
  | error e => rfl
  | ok routed =>
    obtain ⟨hpool, hstarted⟩ : calls.pool_lifecycle = false ∧ calls.request_started ≠ .ok () := by
      simpa [Calls.Starts, hrouted] using hunstarted
    cases hrefused : calls.request_started with
    | ok _ => exact absurd hrefused hstarted
    | error e =>
      cases routed <;>
        simp [run_view, fast_path, handler_path, start_refused hpool hrefused]

/-- A request that the fast path routes to a view answering `JsonResponse(data)`,
with one closer of the view's own. -/
def json_calls (serialize_body : Unit → Option Bytes) : Calls Unit where
  pool_lifecycle := false
  routed := .ok true
  request_started := .ok ()
  view := .ok (.response ⟨.fast (.json () false),
    json_response ⟨[("Content-Type", "application/json")], by decide⟩, [1], false⟩)
  render dj_resp := .ok (.response dj_resp)
  response_for_exception e := .error e
  request_close := 0
  log_response := .ok ()
  handle := .ok .none
  serialize_body := serialize_body
  closer _ := .ok ()
  close dj_resp := ⟨dj_resp.resource_closers.map .closer ++ [.request_finished], .ok ()⟩
  close_old_connections := ⟨[.connections_returned], .ok ()⟩

end massless.protocol
