import Massless.Python.Simulation
import Massless.Request.Writes

open python

namespace massless.request

variable {Obj : Type}

/-- The attributes with an override of their own. -/
inductive Attr where
  | GET
  | POST
  | COOKIES
  | encoding
  | user
  deriving DecidableEq, Repr

def Attr.name : Attr → String
  | .GET => "GET"
  | .POST => "POST"
  | .COOKIES => "COOKIES"
  | .encoding => "encoding"
  | .user => "user"

/-- One use of an attribute. -/
inductive Access (Obj : Type) where
  | read (attr : Attr)
  | assign (attr : Attr) (value : PyVal Obj)

/-- The user model, asked with the claims in `request.auth`: a model instance, an
`AnonymousUser`, or an error that propagates. -/
abbrev UserModel (Obj : Type) := Val Obj → Except String (Nat × Obj)

namespace MasslessRequest

def POST (django : Django Obj) (ensure_promoted : Py (Attrs Obj) Unit) :
    Py (Attrs Obj) (Val Obj) := do
  ensure_promoted
  get_post django

def COOKIES (django : Django Obj) (ensure_promoted : Py (Attrs Obj) Unit) :
    Py (Attrs Obj) (Val Obj) := do
  ensure_promoted
  cached_in "_cookies_cache" (COOKIES_func django)

def encoding (ensure_promoted : Py (Attrs Obj) Unit) : Py (Attrs Obj) (Val Obj) := do
  ensure_promoted
  let value ← encoding_value
  pure (.py value)

/-- The getter of `user`: a cached user, or the one the user model resolves. -/
def user (users : UserModel Obj) (ensure_promoted : Py (Attrs Obj) Unit) :
    Py (Attrs Obj) (Val Obj) := do
  match ← Instance.get_item "_user" with
  | none => Py.raise (.AttributeError "_user")
  | some (.py .none) =>
    ensure_promoted
    match ← Instance.get_item "auth" with
    | none => Py.raise (.AttributeError "auth")
    | some auth =>
      let (id, content) ← Py.lift ((users auth).mapError .other)
      Instance.set_item "_user" (.py (.object id content))
      pure (.py (.object id content))
  | some cached => pure cached

def access (django : Django Obj) (users : UserModel Obj) (urllib : Urllib) (core : RequestCore) :
    Access Obj → Py (Attrs Obj) (Val Obj)
  | .read .GET => GET django (ensure_promoted django urllib core)
  | .read .POST => POST django (ensure_promoted django urllib core)
  | .read .COOKIES => COOKIES django (ensure_promoted django urllib core)
  | .read .encoding => encoding (ensure_promoted django urllib core)
  | .read .user => user users (ensure_promoted django urllib core)
  | .assign attr value => do
    set_attr django urllib core attr.name value
    pure (.py .none)

end MasslessRequest

namespace WSGIRequest

def COOKIES (django : Django Obj) : Py (Attrs Obj) (Val Obj) :=
  cached_property "COOKIES" (COOKIES_func django)

/-- `user` of a stock request is a plain attribute. -/
def user : Py (Attrs Obj) (Val Obj) := do
  match ← Instance.get_item "user" with
  | some value => pure value
  | none => Py.raise (.AttributeError "user")

def access (django : Django Obj) : Access Obj → Py (Attrs Obj) (Val Obj)
  | .read .GET => GET django
  | .read .POST => get_post django
  | .read .COOKIES => COOKIES django
  | .read .encoding => do
    let value ← encoding_value
    pure (.py value)
  | .read .user => user
  | .assign attr value => do
    match attr with
    | .GET => Instance.set_item "GET" (.py value)
    | .POST => Instance.set_item "_post" (.py value)
    | .COOKIES => Instance.set_item "COOKIES" (.py value)
    | .encoding => set_encoding django value
    | .user => Instance.set_item "user" (.py value)
    pure (.py .none)

end WSGIRequest

/-- Whether a stock request says what a use gives: it has no `user` before the
first assignment. -/
def Specified : Access Obj → Attrs Obj → Prop
  | .read .user, stock => (stock.dict.get? "user").isSome
  | _, _ => True

/-- Each use that a stock request says something about succeeds or fails alike on
both requests and returns the same value, the same object included. -/
def Agree (django : Django Obj) (users : UserModel Obj) (urllib : Urllib) (core : RequestCore) :
    List (Access Obj) → Attrs Obj → Attrs Obj → Prop
  | [], _, _ => True
  | op :: rest, self, stock =>
    let here := MasslessRequest.access django users urllib core op self
    let there := WSGIRequest.access django op stock
    (Specified op stock → here.1 = there.1) ∧ Agree django users urllib core rest here.2 there.2

/-- The value last assigned to `user`, after one more use. -/
def last_user (last : Option (PyVal Obj)) : Access Obj → Option (PyVal Obj)
  | .assign .user value => some value
  | _ => last

/-- A use that the overrides support: an assignment only of `encoding` or `user`,
and no read of `user` while `None` was assigned to it last. -/
def Supported (last : Option (PyVal Obj)) : Access Obj → Prop
  | .assign attr _ => attr = .encoding ∨ attr = .user
  | .read attr => attr = .user → last ≠ some .none

/-- All uses of a sequence are supported. -/
def AllSupported : Option (PyVal Obj) → List (Access Obj) → Prop
  | _, [] => True
  | last, op :: rest => Supported last op ∧ AllSupported (last_user last op) rest

/-- The slots that both classes use under one name. -/
def form_slots : List String :=
  ["environ", "method", "_encoding", "_post", "_stream", "_read_started"]

/-- The private caches and the stock slots they stand for. -/
def cache_slots : List (String × String) :=
  [("_get_cache", "GET"), ("_cookies_cache", "COOKIES")]

/-- The assigned user is where each class looks for it. -/
def UserKept (last : Option (PyVal Obj)) (request stock : Attrs Obj) : Prop :=
  (∃ cached, request.dict.get? "_user" = some (.py cached) ∧
    ∀ value, last = some value → cached = value) ∧
  stock.dict.get? "user" = last.map .py ∧
  (request.dict.get? "auth").isSome

/-- A promoted request next to a stock one. -/
structure Lockstep (last : Option (PyVal Obj)) (request stock : Attrs Obj) : Prop where
  latched : request.dict.get? "_is_django" = some (.py (.bool true))
  form : ∀ name ∈ form_slots, request.dict.get? name = stock.dict.get? name
  caches : ∀ cache ∈ cache_slots, request.dict.get? cache.1 = stock.dict.get? cache.2 ∧
    stock.dict.get? cache.2 ≠ some (.py .none)
  allocated : request.allocated = stock.allocated
  user : UserKept last request stock

namespace Lockstep

variable {last : Option (PyVal Obj)}

theorem get_form {name : String} (hname : name ∈ form_slots) :
    Py.Simulates (@Lockstep Obj last) (Instance.get_item name) (Instance.get_item name) :=
  Py.Simulates.gets fun _ _ hstep => hstep.form name hname

/-- The same edit of a shared slot on both sides. -/
theorem edit_form {name : String} (hname : name ∈ form_slots)
    {edit : Dict String (Val Obj) → Dict String (Val Obj)} {result : Option (Val Obj)}
    (hedit : ∀ dict query, (edit dict).get? query =
      if query = name then result else dict.get? query) :
    Py.Simulates (Lockstep last) (Py.modify fun request => { request with dict := edit request.dict })
      (Py.modify fun stock => { stock with dict := edit stock.dict }) := by
  refine Py.Simulates.modify fun request stock hstep => ?_
  have hother : ∀ dict query, query ∉ form_slots → (edit dict).get? query = dict.get? query := by
    intro dict query hquery
    rw [hedit, if_neg]
    rintro rfl
    exact hquery hname
  obtain ⟨hlatched, hform, hcaches, hallocated, huser⟩ := hstep
  refine ⟨?_, fun query hquery => ?_, fun cache hcache => ?_, hallocated, ?_⟩
  · simpa only [hother _ "_is_django" (by decide)] using hlatched
  · simp only [hedit, hform query hquery]
  · have hcached := hcaches cache hcache
    simp only [cache_slots, List.mem_cons, List.not_mem_nil, or_false] at hcache
    obtain rfl | rfl := hcache
    · simpa only [hother _ "_get_cache" (by decide), hother _ "GET" (by decide)] using hcached
    · simpa only [hother _ "_cookies_cache" (by decide), hother _ "COOKIES" (by decide)] using
        hcached
  · simpa only [UserKept, hother _ "_user" (by decide), hother _ "user" (by decide),
      hother _ "auth" (by decide)] using huser

theorem set_form {name : String} (value : Val Obj) (hname : name ∈ form_slots) :
    Py.Simulates (Lockstep last) (Instance.set_item name value) (Instance.set_item name value) :=
  edit_form hname fun dict query => dict.get?_set name query value

theorem pop_form {name : String} (hname : name ∈ form_slots) :
    Py.Simulates (@Lockstep Obj last) (Instance.pop_item name) (Instance.pop_item name) :=
  edit_form hname fun dict query => dict.get?_erase name query

/-- The same edit of a private cache and of the stock slot it stands for. -/
theorem edit_cache {cache : String × String} (hcache : cache ∈ cache_slots)
    {edit : String → Dict String (Val Obj) → Dict String (Val Obj)} {result : Option (Val Obj)}
    (hedit : ∀ name dict query, (edit name dict).get? query =
      if query = name then result else dict.get? query)
    (hresult : result ≠ some (.py .none)) :
    Py.Simulates (Lockstep last)
      (Py.modify fun request => { request with dict := edit cache.1 request.dict })
      (Py.modify fun stock => { stock with dict := edit cache.2 stock.dict }) := by
  refine Py.Simulates.modify fun request stock hstep => ?_
  obtain ⟨hlatched, hform, hcaches, hallocated, huser⟩ := hstep
  simp only [cache_slots, List.mem_cons, List.not_mem_nil, or_false] at hcache
  refine ⟨?_, fun query hquery => ?_, fun other hother => ?_, hallocated, ?_⟩
  · obtain rfl | rfl := hcache <;> simpa [hedit] using hlatched
  · have hsame := hform query hquery
    simp only [form_slots, List.mem_cons, List.not_mem_nil, or_false] at hquery
    obtain rfl | rfl := hcache <;> obtain rfl | rfl | rfl | rfl | rfl | rfl := hquery <;>
      simpa [hedit] using hsame
  · have hcached := hcaches other hother
    simp only [cache_slots, List.mem_cons, List.not_mem_nil, or_false] at hother
    -- only the edited cache changes, on both sides to the same value
    obtain rfl | rfl := hcache <;> obtain rfl | rfl := hother
    · simp [hedit, hresult]
    · simpa [hedit] using hcached
    · simpa [hedit] using hcached
    · simp [hedit, hresult]
  · obtain rfl | rfl := hcache <;> simpa [UserKept, hedit] using huser

theorem set_cache (cache : String × String) (hcache : cache ∈ cache_slots) {value : PyVal Obj}
    (hvalue : value ≠ .none) :
    Py.Simulates (Lockstep last) (Instance.set_item cache.1 (.py value))
      (Instance.set_item cache.2 (.py value)) :=
  edit_cache hcache (fun name dict query => dict.get?_set name query (.py value)) (by simpa)

theorem pop_cache (cache : String × String) (hcache : cache ∈ cache_slots) :
    Py.Simulates (@Lockstep Obj last) (Instance.pop_item cache.1)
      (Instance.pop_item cache.2) :=
  edit_cache hcache (fun name dict query => dict.get?_erase name query) (by simp)

theorem fresh : Py.Simulates (@Lockstep Obj last) Instance.fresh Instance.fresh := by
  intro request stock hstep
  obtain ⟨hlatched, hform, hcaches, hallocated, huser⟩ := hstep
  exact ⟨congrArg Except.ok hallocated, hlatched, hform, hcaches,
    congrArg Nat.succ hallocated, huser⟩

theorem environ_vars :
    Py.Simulates (@Lockstep Obj last) request.environ_vars request.environ_vars := by
  refine (get_form (by decide)).bind fun environ => ?_
  cases environ with
  | none => exact Py.Simulates.raise _
  | some value => cases value <;> first | exact Py.Simulates.pure _ | exact Py.Simulates.raise _

theorem encoding_value :
    Py.Simulates (@Lockstep Obj last) request.encoding_value request.encoding_value := by
  refine (get_form (by decide)).bind fun encoding => ?_
  cases encoding with
  | none => exact Py.Simulates.pure _
  | some value => cases value <;> exact Py.Simulates.pure _

/-- Where both sides allocate a new object, it is the same one. -/
theorem new_object (content : Except String Obj) :
    Py.Simulates (@Lockstep Obj last)
      (do let content ← Py.lift (content.mapError .other)
          let id ← Instance.fresh
          pure (PyVal.object id content))
      (do let content ← Py.lift (content.mapError .other)
          let id ← Instance.fresh
          pure (PyVal.object id content)) :=
  (Py.Simulates.lift _).bind fun _ => fresh.bind fun _ => Py.Simulates.pure _

theorem GET_func (django : Django Obj) :
    Py.Simulates (@Lockstep Obj last) (request.GET_func django)
      (request.GET_func django) :=
  environ_vars.bind fun _ => encoding_value.bind fun _ => new_object _

theorem COOKIES_func (django : Django Obj) :
    Py.Simulates (@Lockstep Obj last) (request.COOKIES_func django)
      (request.COOKIES_func django) :=
  environ_vars.bind fun _ => new_object _

theorem set_new_post (post : Obj) :
    Py.Simulates (@Lockstep Obj last) (request.set_new_post post)
      (request.set_new_post post) :=
  fresh.bind fun _ => set_form _ (by decide)

theorem load_form (django : Django Obj) :
    Py.Simulates (@Lockstep Obj last) (request.load_form django) (request.load_form django) := by
  refine (get_form (by decide)).bind fun started => ?_
  cases started with
  | none => exact Py.Simulates.raise _
  | some started =>
    refine environ_vars.bind fun vars => encoding_value.bind fun encoding =>
      (get_form (by decide)).bind fun stream => ?_
    cases stream with
    | none => exact Py.Simulates.raise _
    | some value =>
      cases value with
      | stream body loads =>
        refine (set_form _ (by decide)).bind fun _ => ?_
        cases django.load_post vars body (encoding :: loads) with
        | loaded post => exact set_new_post post
        | failed post error =>
          cases post with
          | none => exact (Py.Simulates.pure ()).bind fun _ => Py.Simulates.raise _
          | some post => exact (set_new_post post).bind fun _ => Py.Simulates.raise _
      | py value => exact Py.Simulates.raise _
      | environ method vars body => exact Py.Simulates.raise _
      | content_params params => exact Py.Simulates.raise _

theorem load_post_and_files (django : Django Obj) :
    Py.Simulates (@Lockstep Obj last)
      (request.load_post_and_files django) (request.load_post_and_files django) := by
  refine (get_form (by decide)).bind fun method => ?_
  cases is_post method with
  | true => exact load_form django
  | false => exact encoding_value.bind fun encoding => set_new_post _

theorem get_post (django : Django Obj) :
    Py.Simulates (@Lockstep Obj last) (request.get_post django)
      (request.get_post django) := by
  refine (get_form (by decide)).bind fun post => ?_
  cases post with
  | some post => exact Py.Simulates.pure _
  | none =>
    refine (load_post_and_files django).bind fun _ => (get_form (by decide)).bind fun post => ?_
    cases post with
    | some post => exact Py.Simulates.pure _
    | none => exact Py.Simulates.raise _

/-- A promoted request is not promoted again. -/
theorem ensure_promoted (django : Django Obj) (urllib : Urllib) (core : RequestCore) :
    Py.Simulates (Lockstep last) (MasslessRequest.ensure_promoted django urllib core) (pure ()) := by
  intro request stock hstep
  have hlatched := hstep.latched
  simp [MasslessRequest.ensure_promoted, MasslessRequest.is_django, hlatched, hstep]

theorem new_object_ne_none {content : Except String Obj} {request : Attrs Obj} {value : PyVal Obj}
    (hvalue : ((do
      let content ← Py.lift (content.mapError .other)
      let id ← Instance.fresh
      pure (PyVal.object id content) : Py (Attrs Obj) (PyVal Obj)) request).1 = .ok value) :
    value ≠ .none := by
  cases content with
  | error e => cases hvalue
  | ok content =>
    cases hvalue
    simp

theorem cached_in (cache : String × String) (hcache : cache ∈ cache_slots)
    {func : Py (Attrs Obj) (PyVal Obj)}
    (hfunc : Py.Simulates (@Lockstep Obj last) func func)
    (hobject : ∀ request value, (func request).1 = .ok value → value ≠ .none) :
    Py.Simulates (Lockstep last) (MasslessRequest.cached_in cache.1 func)
      (WSGIRequest.cached_property cache.2 func) := by
  intro request stock hstep
  have hnew := (hfunc.bind_returning (· ≠ .none) hobject fun value hvalue =>
    (set_cache cache hcache hvalue).bind fun _ => Py.Simulates.pure (Val.py value))
      request stock hstep
  obtain ⟨hsame, hvalue⟩ := hstep.caches cache hcache
  simp only [MasslessRequest.cached_in, WSGIRequest.cached_property, Py.bind_run,
    Instance.get_item_run, hsame] at hnew ⊢
  cases hkept : stock.dict.get? cache.2 with
  | none => exact hnew
  | some cached =>
    obtain (_ | _ | _ | _) | _ | _ | _ := cached
    · exact absurd hkept hvalue
    all_goals exact ⟨rfl, hstep⟩

variable {ensure_promoted : Py (Attrs Obj) Unit}

theorem GET (django : Django Obj)
    (hpromoted : Py.Simulates (Lockstep last) ensure_promoted (pure ())) :
    Py.Simulates (Lockstep last) (MasslessRequest.GET django ensure_promoted)
      (WSGIRequest.GET django) := by
  refine hpromoted.bind (g := fun _ => WSGIRequest.GET django) fun _ =>
    cached_in ("_get_cache", "GET") (by decide) (GET_func django)
      fun request value hvalue => ?_
  obtain ⟨vars, _, -, hvalue⟩ := Py.bind_ok hvalue
  obtain ⟨encoding, _, -, hvalue⟩ := Py.bind_ok hvalue
  exact new_object_ne_none hvalue

theorem COOKIES (django : Django Obj)
    (hpromoted : Py.Simulates (Lockstep last) ensure_promoted (pure ())) :
    Py.Simulates (Lockstep last) (MasslessRequest.COOKIES django ensure_promoted)
      (WSGIRequest.COOKIES django) := by
  refine hpromoted.bind (g := fun _ => WSGIRequest.COOKIES django) fun _ =>
    cached_in ("_cookies_cache", "COOKIES") (by decide) (COOKIES_func django)
      fun request value hvalue => ?_
  obtain ⟨vars, _, -, hvalue⟩ := Py.bind_ok hvalue
  exact new_object_ne_none hvalue

theorem set_encoding (django : Django Obj) (value : PyVal Obj)
    (hpromoted : Py.Simulates (Lockstep last) ensure_promoted (pure ())) :
    Py.Simulates (Lockstep last) (MasslessRequest.set_encoding django ensure_promoted value)
      (WSGIRequest.set_encoding django value) := by
  refine hpromoted.bind (g := fun _ => WSGIRequest.set_encoding django value) fun _ =>
    (set_form _ (by decide)).bind fun _ => (GET django hpromoted).hasattr.bind fun found => ?_
  have hpost : Py.Simulates (@Lockstep Obj last)
      (do match ← Instance.get_item "_post" with
          | some _ => Instance.pop_item "_post"
          | none => pure ())
      (do match ← Instance.get_item "_post" with
          | some _ => Instance.pop_item "_post"
          | none => pure ()) := by
    refine (get_form (by decide)).bind fun post => ?_
    cases post with
    | none => exact Py.Simulates.pure ()
    | some post => exact pop_form (by decide)
  cases found with
  | false => exact hpost
  | true => exact (pop_cache ("_get_cache", "GET") (by decide)).bind fun _ => hpost

/-- Only the slots of the user may differ from a pair in lockstep. -/
theorem frame {last' : Option (PyVal Obj)} {request stock request' stock' : Attrs Obj}
    (hstep : Lockstep last request stock)
    (hrequest : ∀ name, name ≠ "_user" → request'.dict.get? name = request.dict.get? name)
    (hstock : ∀ name, name ≠ "user" → stock'.dict.get? name = stock.dict.get? name)
    (hallocated : request'.allocated = stock'.allocated)
    (huser : UserKept last' request' stock') : Lockstep last' request' stock' := by
  refine ⟨?_, fun query hquery => ?_, fun cache hcache => ?_, hallocated, huser⟩
  · rw [hrequest "_is_django" (by decide)]
    exact hstep.latched
  · have hprivate : query ≠ "_user" := by
      rintro rfl
      exact absurd hquery (by decide)
    have hpublic : query ≠ "user" := by
      rintro rfl
      exact absurd hquery (by decide)
    rw [hrequest query hprivate, hstock query hpublic]
    exact hstep.form query hquery
  · have hslots : cache.1 ≠ "_user" ∧ cache.2 ≠ "user" := by
      simp only [cache_slots, List.mem_cons, List.not_mem_nil, or_false] at hcache
      obtain rfl | rfl := hcache <;> decide
    rw [hrequest cache.1 hslots.1, hstock cache.2 hslots.2]
    exact hstep.caches cache hcache

theorem assign_user (value : PyVal Obj) {request stock : Attrs Obj}
    (hstep : Lockstep last request stock) :
    Lockstep (some value) { request with dict := request.dict.set "_user" (.py value) }
      { stock with dict := stock.dict.set "user" (.py value) } := by
  apply hstep.frame
  · intro name hname
    simp [hname]
  · intro name hname
    simp [hname]
  · exact hstep.allocated
  · obtain ⟨-, -, hauth⟩ := hstep.user
    simpa [UserKept] using hauth

/-- A resolved user is kept on the side of the promoted request only. -/
theorem resolve_user (user : PyVal Obj) {request stock : Attrs Obj}
    (hstep : Lockstep none request stock) :
    Lockstep none { request with dict := request.dict.set "_user" (.py user) } stock := by
  apply hstep.frame
  · intro name hname
    simp [hname]
  · intro name hname
    rfl
  · exact hstep.allocated
  · obtain ⟨-, hstock, hauth⟩ := hstep.user
    exact ⟨⟨user, by simp⟩, hstock, by simpa using hauth⟩

end Lockstep

/-- A request that no use has promoted yet, next to a stock one. -/
structure Waiting (django : Django Obj) (urllib : Urllib) (core : RequestCore) (method : String)
    (last : Option (PyVal Obj)) (request stock : Attrs Obj) : Prop where
  unlatched : request.dict.get? "_is_django" = some (.py (.bool false))
  named : request.dict.get? "method" = some (.py (.str method))
  untouched : ∀ name ∈ ["environ", "_encoding", "_post", "_stream", "_read_started", "_get_cache",
    "_cookies_cache"], request.dict.get? name = none
  built : ∀ name, name ≠ "user" → stock.dict.get? name =
    (django.constructed (.str method) (core.environ_vars urllib) core.body).get? name
  allocated : stock.allocated =
    if django.ResetsForm (.str method) (core.environ_vars urllib) then request.allocated + 1
    else request.allocated
  complete : django.construction (.str method) (core.environ_vars urllib) = .ok ()
  user : UserKept last request stock

/-- A complete construction stores the method. -/
theorem Django.constructed_method_isSome (django : Django Obj) {request_method : PyVal Obj}
    {vars : Dict String String} (body : Bytes)
    (hcomplete : django.construction request_method vars = .ok ()) :
    ((django.constructed request_method vars body).get? "method").isSome := by
  simp only [Django.construction] at hcomplete
  simp only [Django.constructed]
  split at hcomplete
  · cases hcomplete
  · simp [Django.typed, finished]
  · split <;> simp [Django.typed, finished]

/-- The first touch brings a waiting request into lockstep. -/
theorem Waiting.touch {django : Django Obj} {urllib : Urllib} {core : RequestCore} {method : String}
    {last : Option (PyVal Obj)} {request stock : Attrs Obj}
    (hwaiting : Waiting django urllib core method last request stock) :
    ∃ touched, MasslessRequest.ensure_promoted django urllib core request = (.ok (), touched) ∧
      Lockstep last touched stock := by
  obtain ⟨hunlatched, hnamed, huntouched, hbuilt, hallocated, hcomplete, huser⟩ := hwaiting
  obtain ⟨hend, htouched, hcount⟩ := MasslessRequest.ensure_promoted_run django urllib core request
    (.str method) hunlatched hnamed (huntouched _ (by decide))
  refine ⟨_, Prod.ext (hend.trans hcomplete) rfl, ?_⟩
  have hconstructed : ∀ name, name ∉ constructor_slots →
      (django.constructed (.str method) (core.environ_vars urllib) core.body).get? name = none :=
    fun name hname => django.constructed_eq_none _ _ _ hname
  refine ⟨?_, fun name hname => ?_, fun cache hcache => ?_, ?_, ?_⟩
  · simp [htouched, hconstructed "_is_django" (by decide)]
  · have hmethod := django.constructed_method_isSome core.body hcomplete
    simp only [form_slots, List.mem_cons, List.not_mem_nil, or_false] at hname
    rw [htouched]
    obtain rfl | rfl | rfl | rfl | rfl | rfl := hname
    · simp [hbuilt "environ" (by decide), huntouched "environ" (by decide)]
    · rw [hbuilt "method" (by decide), Option.or_of_isSome hmethod]
    · simp [hbuilt "_encoding" (by decide), huntouched "_encoding" (by decide)]
    · simp [hbuilt "_post" (by decide), huntouched "_post" (by decide)]
    · simp [hbuilt "_stream" (by decide), huntouched "_stream" (by decide)]
    · simp [hbuilt "_read_started" (by decide), huntouched "_read_started" (by decide)]
  · simp only [cache_slots, List.mem_cons, List.not_mem_nil, or_false] at hcache
    obtain rfl | rfl := hcache
    · simp [htouched, hbuilt "GET" (by decide), hconstructed "GET" (by decide),
        hconstructed "_get_cache" (by decide), huntouched "_get_cache" (by decide)]
    · simp [htouched, hbuilt "COOKIES" (by decide), hconstructed "COOKIES" (by decide),
        hconstructed "_cookies_cache" (by decide), huntouched "_cookies_cache" (by decide)]
  · rw [hcount, hallocated]
  · simpa [UserKept, htouched, hconstructed "_user" (by decide), hconstructed "auth" (by decide)]
      using huser

theorem Waiting.assign_user {django : Django Obj} {urllib : Urllib} {core : RequestCore}
    {method : String} {last : Option (PyVal Obj)} {request stock : Attrs Obj} (value : PyVal Obj)
    (hwaiting : Waiting django urllib core method last request stock) :
    Waiting django urllib core method (some value)
      { request with dict := request.dict.set "_user" (.py value) }
      { stock with dict := stock.dict.set "user" (.py value) } := by
  obtain ⟨hunlatched, hnamed, huntouched, hbuilt, hallocated, hcomplete, huser⟩ := hwaiting
  refine ⟨by simpa using hunlatched, by simpa using hnamed, fun name hname => ?_,
    fun name hname => ?_, hallocated, hcomplete, by simpa [UserKept] using huser.2.2⟩
  · have habsent := huntouched name hname
    simp only [List.mem_cons, List.not_mem_nil, or_false] at hname
    obtain rfl | rfl | rfl | rfl | rfl | rfl | rfl := hname <;> simpa using habsent
  · simpa [hname] using hbuilt name hname

/-- A request next to the stock one built from the same environ. -/
def Related (django : Django Obj) (urllib : Urllib) (core : RequestCore) (method : String)
    (last : Option (PyVal Obj)) (request stock : Attrs Obj) : Prop :=
  Lockstep last request stock ∨ Waiting django urllib core method last request stock

theorem Related.touch {django : Django Obj} {urllib : Urllib} {core : RequestCore}
    {method : String} {last : Option (PyVal Obj)} {request stock : Attrs Obj}
    (hrelated : Related django urllib core method last request stock) :
    ∃ touched, MasslessRequest.ensure_promoted django urllib core request = (.ok (), touched) ∧
      Lockstep last touched stock := by
  obtain hstep | hwaiting := hrelated
  · refine ⟨request, ?_, hstep⟩
    simp [MasslessRequest.ensure_promoted, MasslessRequest.is_django, hstep.latched]
  · exact hwaiting.touch

section Access

variable {django : Django Obj} {users : UserModel Obj} {urllib : Urllib} {core : RequestCore}
  {method : String} {last : Option (PyVal Obj)} {request stock : Attrs Obj}

/-- Whatever promotes first runs in lockstep. -/
theorem Related.simulates {A : Type} {rest : Unit → Py (Attrs Obj) A} {there : Py (Attrs Obj) A}
    (hrelated : Related django urllib core method last request stock)
    (hsimulates : Py.Simulates (Lockstep last)
      (MasslessRequest.ensure_promoted django urllib core >>= rest) there) :
    ((MasslessRequest.ensure_promoted django urllib core >>= rest) request).1 = (there stock).1 ∧
      Related django urllib core method last
        ((MasslessRequest.ensure_promoted django urllib core >>= rest) request).2
        (there stock).2 := by
  obtain ⟨touched, htouch, hstep⟩ := hrelated.touch
  have hdone : MasslessRequest.ensure_promoted django urllib core touched = (.ok (), touched) := by
    simp [MasslessRequest.ensure_promoted, MasslessRequest.is_django, hstep.latched]
  obtain ⟨hsame, hafter⟩ := hsimulates touched stock hstep
  simp only [Py.bind_run, hdone] at hsame hafter
  simp only [Py.bind_run, htouch]
  exact ⟨hsame, Or.inl hafter⟩

/-- Reading a `user` that is `None` promotes and asks the user model. -/
theorem Related.user_run (users : UserModel Obj)
    (hrelated : Related django urllib core method last request stock)
    (hnone : request.dict.get? "_user" = some (.py .none)) :
    ∃ touched auth, Lockstep last touched stock ∧
      MasslessRequest.access django users urllib core (.read .user) request =
        match users auth with
        | .error e => (.error (.other e), touched)
        | .ok (id, content) => (.ok (.py (.object id content)),
            { touched with dict := touched.dict.set "_user" (.py (.object id content)) }) := by
  obtain ⟨touched, htouch, hstep⟩ := hrelated.touch
  obtain ⟨auth, hauth⟩ := Option.isSome_iff_exists.mp hstep.user.2.2
  refine ⟨touched, auth, hstep, ?_⟩
  simp only [MasslessRequest.access, MasslessRequest.user, Py.bind_run, Instance.get_item_run,
    hnone, htouch, hauth, Py.lift_run]
  cases users auth <;> rfl

/-- A read of `user` keeps the requests related, and gives the assigned user if it
is not `None`. -/
theorem Related.read_user (hrelated : Related django urllib core method last request stock)
    (hlast : last ≠ some .none) :
    (Specified (.read .user : Access Obj) stock →
      (MasslessRequest.access django users urllib core (.read .user) request).1 =
        (WSGIRequest.access django (.read .user) stock).1) ∧
    Related django urllib core method last
      (MasslessRequest.access django users urllib core (.read .user) request).2
      (WSGIRequest.access django (.read .user) stock).2 := by
  obtain ⟨⟨cached, hcached, hassigned⟩, hstock, -⟩ : UserKept last request stock :=
    hrelated.elim (·.user) (·.user)
  cases last with
  | none =>
    have hunchanged : (WSGIRequest.access django (.read .user) stock).2 = stock := by
      simp [WSGIRequest.access, WSGIRequest.user, hstock]
    rw [hunchanged]
    refine ⟨fun hspecified => by simp [Specified, hstock] at hspecified, ?_⟩
    by_cases hnone : cached = .none
    · subst hnone
      obtain ⟨touched, auth, hstep, hrun⟩ := hrelated.user_run users hcached
      rw [hrun]
      cases users auth with
      | error e => exact Or.inl hstep
      | ok user => exact Or.inl (hstep.resolve_user _)
    · have hread : MasslessRequest.access django users urllib core (.read .user) request =
          (.ok (.py cached), request) := by
        simp only [MasslessRequest.access, MasslessRequest.user, Py.bind_run,
          Instance.get_item_run, hcached]
        cases cached <;> first | rfl | exact absurd rfl hnone
      rw [hread]
      exact hrelated
  | some value =>
    obtain rfl := hassigned value rfl
    have hread : MasslessRequest.access django users urllib core (.read .user) request =
        (.ok (.py cached), request) := by
      simp only [MasslessRequest.access, MasslessRequest.user, Py.bind_run, Instance.get_item_run,
        hcached]
      cases cached <;> first | rfl | exact absurd rfl hlast
    have hthere : WSGIRequest.access django (.read .user) stock = (.ok (.py cached), stock) := by
      simp [WSGIRequest.access, WSGIRequest.user, hstock]
    rw [hread, hthere]
    exact ⟨fun _ => rfl, hrelated⟩

/-- One supported use agrees and keeps the requests related. -/
theorem Related.access (users : UserModel Obj)
    (hrelated : Related django urllib core method last request stock)
    (op : Access Obj) (hsupported : Supported last op) :
    (Specified op stock → (MasslessRequest.access django users urllib core op request).1 =
      (WSGIRequest.access django op stock).1) ∧
    Related django urllib core method (last_user last op)
      (MasslessRequest.access django users urllib core op request).2
      (WSGIRequest.access django op stock).2 := by
  have hpromoted : Py.Simulates (Lockstep last)
      (MasslessRequest.ensure_promoted django urllib core) (pure ()) :=
    Lockstep.ensure_promoted django urllib core
  cases op with
  | read attr =>
    cases attr with
    | GET =>
      have hread := hrelated.simulates (Lockstep.GET django hpromoted)
      exact ⟨fun _ => hread.1, hread.2⟩
    | POST =>
      have hread := hrelated.simulates
        (hpromoted.bind (g := fun _ => get_post django) fun _ => Lockstep.get_post django)
      exact ⟨fun _ => hread.1, hread.2⟩
    | COOKIES =>
      have hread := hrelated.simulates (Lockstep.COOKIES django hpromoted)
      exact ⟨fun _ => hread.1, hread.2⟩
    | encoding =>
      have hread := hrelated.simulates (hpromoted.bind (g := fun _ => _) fun _ =>
        Lockstep.encoding_value.bind fun value => Py.Simulates.pure (Val.py value))
      exact ⟨fun _ => hread.1, hread.2⟩
    | user => exact hrelated.read_user (hsupported rfl)
  | assign attr value =>
    obtain rfl | rfl := hsupported
    · have hset : MasslessRequest.set_attr django urllib core Attr.encoding.name value =
          MasslessRequest.set_encoding django (MasslessRequest.ensure_promoted django urllib core)
            value := by
        simp [MasslessRequest.set_attr, Attr.name]
      obtain ⟨hsame, hafter⟩ :
          (MasslessRequest.set_encoding django
              (MasslessRequest.ensure_promoted django urllib core) value request).1 =
            (WSGIRequest.set_encoding django value stock).1 ∧
          Related django urllib core method last
            (MasslessRequest.set_encoding django
              (MasslessRequest.ensure_promoted django urllib core) value request).2
            (WSGIRequest.set_encoding django value stock).2 :=
        hrelated.simulates (Lockstep.set_encoding django value hpromoted)
      simp only [MasslessRequest.access, WSGIRequest.access, hset, Py.bind_run]
      rcases hm : MasslessRequest.set_encoding django
          (MasslessRequest.ensure_promoted django urllib core) value request with ⟨e | _, here⟩ <;>
        rcases hn : WSGIRequest.set_encoding django value stock with ⟨e' | _, there⟩ <;>
        simp only [hm, hn] at hsame hafter ⊢
      · exact ⟨fun _ => congrArg Except.error (Except.error.inj hsame), hafter⟩
      · cases hsame
      · cases hsame
      · exact ⟨fun _ => rfl, hafter⟩
    · refine ⟨fun _ => rfl, ?_⟩
      exact hrelated.imp (·.assign_user value) (·.assign_user value)

/-- One unsupported use is told apart at once. -/
theorem Related.disagree (hrelated : Related django urllib core method last request stock)
    (op : Access Obj) (hunsupported : ¬Supported last op) :
    ¬(Specified op stock → (MasslessRequest.access django users urllib core op request).1 =
      (WSGIRequest.access django op stock).1) := by
  intro hagree
  cases op with
  | read attr =>
    simp only [Supported, ne_eq, Classical.not_imp, not_not] at hunsupported
    obtain ⟨rfl, rfl⟩ := hunsupported
    obtain ⟨⟨cached, hcached, hassigned⟩, hstock, -⟩ : UserKept (some .none) request stock :=
      hrelated.elim (·.user) (·.user)
    obtain rfl := hassigned .none rfl
    have hsame := hagree (by simp [Specified, hstock])
    obtain ⟨touched, auth, -, hrun⟩ := hrelated.user_run users hcached
    rw [hrun] at hsame
    simp only [WSGIRequest.access, WSGIRequest.user, Py.bind_run, Instance.get_item_run, hstock,
      Option.map_some, Py.pure_run] at hsame
    cases hresolved : users auth <;> simp [hresolved] at hsame
  | assign attr value =>
    have hsame := hagree trivial
    cases attr with
    | encoding => exact hunsupported (Or.inl rfl)
    | user => exact hunsupported (Or.inr rfl)
    | _ =>
      simp [MasslessRequest.access, MasslessRequest.set_attr, MasslessRequest.read_only, Attr.name,
        WSGIRequest.access] at hsame

/-- A run of uses agrees exactly as long as they are supported. -/
theorem Related.agree_iff (hrelated : Related django urllib core method last request stock)
    (ops : List (Access Obj)) :
    Agree django users urllib core ops request stock ↔ AllSupported last ops := by
  induction ops generalizing last request stock with
  | nil => exact Iff.rfl
  | cons op rest ih =>
    simp only [Agree, AllSupported]
    constructor
    · rintro ⟨hhere, hrest⟩
      have hsupported : Supported last op := by
        by_contra hunsupported
        exact hrelated.disagree op hunsupported hhere
      exact ⟨hsupported, (ih (hrelated.access users op hsupported).2).mp hrest⟩
    · rintro ⟨hsupported, hrest⟩
      obtain ⟨hhere, hafter⟩ := hrelated.access users op hsupported
      exact ⟨hhere, (ih hafter).mpr hrest⟩

end Access

/-- A new request is related to the stock one built from its environ. -/
theorem MasslessRequest.new_related {django : Django Obj} {urllib : Urllib} {core : RequestCore}
    {request stock : Attrs Obj} {method : String}
    (hnew : MasslessRequest.new urllib core = some request)
    (hmethod : core.method_str = some method)
    (hstock : WSGIRequest.build django urllib core method = (.ok (), stock)) :
    Related django urllib core method none request stock := by
  obtain ⟨hend, hbuilt, hcount⟩ := wsgi_init_run django (WSGIRequest.setsEncoding django)
    (.str method) (core.environ_vars urllib) core.body ⟨.empty, 0⟩ rfl (by simp)
  rw [WSGIRequest.build] at hstock
  rw [hstock] at hend hbuilt hcount
  simp only [MasslessRequest.new, Option.bind_eq_bind, Option.bind_eq_some_iff] at hnew
  obtain ⟨name, hname, path, hpath, hself⟩ := hnew
  obtain rfl := Option.some.inj (hmethod.symm.trans hname)
  obtain rfl := Option.some.inj hself
  refine Or.inr ⟨by simp, by simp, fun name hname => ?_, fun name hname => ?_, ?_, hend.symm,
    ⟨.none, by simp⟩, ?_, by simp⟩
  · simp only [List.mem_cons, List.not_mem_nil, or_false] at hname
    obtain rfl | rfl | rfl | rfl | rfl | rfl | rfl := hname <;> simp
  · simp [hbuilt]
  · simpa using hcount
  · simp [hbuilt, django.constructed_eq_none _ _ _ (show "user" ∉ constructor_slots by decide)]

/-- On any sequence of reads and assignments of `GET`, `POST`, `COOKIES`,
`encoding` and `user` a request behaves as the stock request exactly when it
assigns none of the three without a setter and reads no `user` that is `None`. -/
theorem attributes_agree_iff (django : Django Obj) (users : UserModel Obj) (urllib : Urllib)
    (core : RequestCore) {request stock : Attrs Obj} {method : String}
    (hnew : MasslessRequest.new urllib core = some request)
    (hmethod : core.method_str = some method)
    (hstock : WSGIRequest.build django urllib core method = (.ok (), stock))
    (ops : List (Access Obj)) :
    Agree django users urllib core ops request stock ↔ AllSupported none ops :=
  (MasslessRequest.new_related hnew hmethod hstock).agree_iff ops

/-- Changing the encoding between reads of the query string and the form. -/
theorem attributes_agree_iff_encoding : ∃ request stock,
    MasslessRequest.new ascii_urllib get_item_core = some request ∧
    WSGIRequest.build ascii_django ascii_urllib get_item_core "GET" = (.ok (), stock) ∧
    Agree ascii_django (fun _ => .ok (9, "anonymous")) ascii_urllib get_item_core
      [.read .GET, .read .GET, .assign .encoding (.str "utf-8"), .read .GET, .read .POST]
      request stock :=
  ⟨_, _, rfl, rfl, (attributes_agree_iff ascii_django _ ascii_urllib get_item_core rfl rfl rfl
    [.read .GET, .read .GET, .assign .encoding (.str "utf-8"), .read .GET, .read .POST]).mpr
      (by simp [AllSupported, Supported])⟩

/-- `request.POST = data` works on a stock request only. -/
theorem post_not_assignable : ∃ request stock,
    MasslessRequest.new ascii_urllib get_item_core = some request ∧
    WSGIRequest.build ascii_django ascii_urllib get_item_core "GET" = (.ok (), stock) ∧
    ¬Agree ascii_django (fun _ => .ok (9, "anonymous")) ascii_urllib get_item_core
      [.assign .POST (.object 7 "data")] request stock := by
  refine ⟨_, _, rfl, rfl, fun hagree => ?_⟩
  have hsame := hagree.1 trivial
  cases hsame

end massless.request
