import Massless.Chain.Builtins

open python
open massless.chain

namespace massless.middleware

variable {W Req R Args : Type}

/-- The session code is the same on the event loop as in a thread, but for refused calls. -/
structure Sessions.Lawful (sessions : Sessions W Req R) : Prop where
  process_request : ∀ request, (sessions.process_request request).Lawful
  flags : ∀ request, (sessions.flags request).Lawful
  in_cookies : ∀ request, (sessions.in_cookies request).Lawful
  get_expire_at_browser_close : ∀ request, (sessions.get_expire_at_browser_close request).Lawful
  get_expiry_age : ∀ request, (sessions.get_expiry_age request).Lawful
  save : ∀ request, (sessions.save request).Lawful
  http_date : ∀ max_age, (sessions.http_date max_age).Lawful
  status_code : ∀ response, (sessions.status_code response).Lawful
  delete_cookie : ∀ response, (sessions.delete_cookie response).Lawful
  set_cookie : ∀ request response age, (sessions.set_cookie request response age).Lawful
  patch_vary_headers : ∀ response, (sessions.patch_vary_headers response).Lawful

/-- The asynchronous API of the session store does what the other methods do in a thread. -/
structure Sessions.Mirrored (sessions : Sessions W Req R) : Prop where
  aget_expire_at_browser_close : ∀ request,
    sessions.aget_expire_at_browser_close request = (sessions.get_expire_at_browser_close request).in_thread
  aget_expiry_age : ∀ request, sessions.aget_expiry_age request = (sessions.get_expiry_age request).in_thread
  asave : ∀ request, sessions.asave request = (sessions.save request).in_thread

namespace Sessions

variable {self : Sessions W Req R} (hlawful : self.Lawful) (hmirrored : self.Mirrored)
include hlawful hmirrored

theorem lawful_keep_session (request : Req) (response : Returned R) (flags : SessionFlags) :
    (self.keep_session request response flags).Lawful := by
  have hage : (self.max_age request).Lawful := by
    refine ((hlawful.get_expire_at_browser_close request).awaited
      (hmirrored.aget_expire_at_browser_close request)).bind fun at_browser_close => ?_
    split
    · exact .pure _
    refine ((hlawful.get_expiry_age request).awaited
      (hmirrored.aget_expiry_age request)).bind fun max_age => ?_
    exact (hlawful.http_date max_age).bind fun expires => .pure _
  have hsave : (self.save_session request).Lawful :=
    .try_except (by decide) ((hlawful.save request).awaited (hmirrored.asave request)) fun _ =>
      .raise (by decide)
  unfold keep_session
  split
  · refine hage.bind fun age => (hlawful.status_code response).bind fun status_code => ?_
    split
    · exact hsave.bind fun _ => (hlawful.set_cookie request response age).bind fun _ => .pure _
    · exact .pure _
  · exact .pure _

theorem lawful_aprocess_response (request : Req) (response : Returned R) :
    (self.aprocess_response request response).Lawful := by
  refine Placed.Lawful.bind (.try_except rfl ?_ fun _ => .pure _) fun flags => ?_
  · exact (hlawful.flags request).bind fun flags => .pure _
  cases flags with
  | none => exact .pure _
  | some flags =>
    have hvary (need_vary_cookie : Bool) :
        (if need_vary_cookie = true then do
            self.patch_vary_headers response
            pure response
          else pure response : Placed W (Returned R)).Lawful := by
      split
      · exact (hlawful.patch_vary_headers response).bind fun _ => .pure _
      · exact .pure _
    refine (hlawful.in_cookies request).bind fun in_cookies => ?_
    dsimp only
    split
    · exact (hlawful.delete_cookie response).bind fun _ =>
        (Placed.Lawful.pure true).bind fun need_vary_cookie => hvary need_vary_cookie
    · exact (lawful_keep_session hlawful hmirrored request response flags).bind
        fun need_vary_cookie => hvary need_vary_cookie

end Sessions

/-- The asynchronous `update` of a message storage, if it has one, does what the other does in a
thread. -/
def Storage.Mirrored (self : Storage W R) : Prop :=
  ∀ method, self.aupdate = some method → ∀ response,
    method response = (self.update response).in_thread

/-- A storage that a request can have. -/
def Messages.Stores (self : Messages W Req R) (storage : Storage W R) : Prop :=
  ∃ request s t, (self.storage request).in_thread s = (.ok (some storage), t)

/-- The message code is the same on the event loop as in a thread, but for refused calls. -/
structure Messages.Lawful (messages : Messages W Req R) : Prop where
  process_request : ∀ request, (messages.process_request request).Lawful
  storage : ∀ request, (messages.storage request).Lawful
  update : ∀ storage, messages.Stores storage → ∀ response, (storage.update response).Lawful

theorem Messages.lawful_aprocess_response {self : Messages W Req R} (hlawful : self.Lawful)
    (hmirrored : ∀ storage, self.Stores storage → storage.Mirrored) (request : Req)
    (response : Returned R) : (self.aprocess_response request response).Lawful := by
  refine (hlawful.storage request).bind_returned fun s storage t hstorage => ?_
  cases storage with
  | none => exact .pure _
  | some storage =>
    have hstores : self.Stores storage := ⟨request, s, t, hstorage⟩
    refine Placed.Lawful.bind ?_ fun unstored_messages => ?_
    · unfold Storage.store
      split
      · rename_i method hmethod
        exact (hlawful.update storage hstores response).awaited
          (hmirrored storage hstores method hmethod response)
      · split
        · exact hlawful.update storage hstores response
        · exact (hlawful.update storage hstores response).sync_to_async
    · split
      · exact .raise (by decide)
      · exact .pure _

/-- The stock hooks are the same code on the event loop and in a thread, where a synchronous
database call works in a thread and is refused on the loop. -/
structure Builtins.Lawful (builtins : Builtins W Req R Args) : Prop where
  xframe_process_response : ∀ request response,
    (builtins.xframe_process_response request response).Lawful
  security_process_request : ∀ request, (builtins.security_process_request request).Lawful
  security_process_response : ∀ request response,
    (builtins.security_process_response request response).Lawful
  conditional_get_process_response : ∀ request response,
    (builtins.conditional_get_process_response request response).Lawful
  common_process_request : ∀ request, (builtins.common_process_request request).Lawful
  common_process_response : ∀ request response,
    (builtins.common_process_response request response).Lawful
  gzip_process_response : ∀ request response, (builtins.gzip_process_response request response).Lawful
  sessions : builtins.sessions.Lawful
  authentication_process_request : ∀ request, (builtins.authentication_process_request request).Lawful
  messages : builtins.messages.Lawful
  csrf_process_request : ∀ request, (builtins.csrf_process_request request).Lawful
  csrf_process_view : ∀ a, (builtins.csrf_process_view a).Lawful
  csrf_process_response : ∀ request response, (builtins.csrf_process_response request response).Lawful

/-- The asynchronous APIs that the substitutes call do what the others do in a thread. -/
structure Builtins.Mirrored (builtins : Builtins W Req R Args) : Prop where
  sessions : builtins.sessions.Mirrored
  messages : ∀ storage, builtins.messages.Stores storage → storage.Mirrored

/-- The hooks of a class are the same in both places, but for refused calls. -/
structure ClassHooks.Lawful (hooks : ClassHooks W Req R Args) : Prop where
  request : ∀ request, (hooks.on_request request).Lawful
  response : ∀ request response, (hooks.on_response request response).Lawful
  view : ∀ process_view, hooks.process_view = some process_view → ∀ a, (process_view a).Lawful

/-- The same without a word on what a thread refuses. -/
structure ClassHooks.Portable (hooks : ClassHooks W Req R Args) : Prop where
  request : ∀ request, (hooks.on_request request).Portable
  response : ∀ request response, (hooks.on_response request response).Portable
  view : ∀ process_view, hooks.process_view = some process_view → ∀ a, (process_view a).Portable

theorem ClassHooks.Lawful.portable {hooks : ClassHooks W Req R Args} (hlawful : hooks.Lawful) :
    hooks.Portable :=
  ⟨fun request => (hlawful.request request).portable,
    fun request response => (hlawful.response request response).portable,
    fun process_view hview a => (hlawful.view process_view hview a).portable⟩

/-- Then so are the hooks of each class, also the re-implemented ones. -/
theorem Builtins.Lawful.hooks {self : Builtins W Req R Args} (hlawful : self.Lawful)
    (hmirrored : self.Mirrored) (name : Registered) : (self.hooks name).Lawful := by
  have hnone (hook : Req → Placed W Unit) (hhook : ∀ request, (hook request).Lawful)
      (request : Req) : (returning_none hook request : Placed W (Returned R)).Lawful :=
    (hhook request).bind fun _ => .pure _
  cases name with
  | XFrameOptionsMiddleware =>
    exact ⟨fun _ => .pure _, hlawful.xframe_process_response, nofun⟩
  | SecurityMiddleware =>
    exact ⟨hlawful.security_process_request, hlawful.security_process_response, nofun⟩
  | ConditionalGetMiddleware =>
    exact ⟨fun _ => .pure _, hlawful.conditional_get_process_response, nofun⟩
  | CommonMiddleware =>
    exact ⟨hlawful.common_process_request, hlawful.common_process_response, nofun⟩
  | GZipMiddleware => exact ⟨fun _ => .pure _, hlawful.gzip_process_response, nofun⟩
  | SessionMiddleware =>
    exact ⟨hnone _ hlawful.sessions.process_request,
      Sessions.lawful_aprocess_response hlawful.sessions hmirrored.sessions, nofun⟩
  | AuthenticationMiddleware =>
    exact ⟨hlawful.authentication_process_request, fun _ _ => .pure _, nofun⟩
  | MessageMiddleware =>
    exact ⟨hnone _ hlawful.messages.process_request,
      Messages.lawful_aprocess_response hlawful.messages hmirrored.messages, nofun⟩
  | CsrfViewMiddleware =>
    refine ⟨hlawful.csrf_process_request, hlawful.csrf_process_response, ?_⟩
    rintro process_view ⟨⟩
    exact hlawful.csrf_process_view

end massless.middleware
