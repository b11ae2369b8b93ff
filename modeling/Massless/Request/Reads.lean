import Massless.Python.Query
import Massless.Python.Returns
import Massless.Request.Attributes
import Massless.Request.Headers

open python

namespace massless.request

variable {Obj : Type}

/-- `RequestCore.query_string` -/
def RequestCore.query_string (self : RequestCore) : String := decode_latin1 self.query

/-- A core with its `_query_cache`. -/
structure QueryCore where
  core : RequestCore
  query_cache : Option (Dict String (List String))

namespace QueryCore

/-- The core as `create` leaves it. -/
def create (core : RequestCore) : QueryCore := ⟨core, none⟩

/-- `RequestCore.query_param` -/
def query_param (name : String) (self : QueryCore) : Option String × QueryCore :=
  let query_cache := self.query_cache.getD (parse_qs self.core.query_string)
  ((query_cache.get? name).bind List.head?, { self with query_cache := some query_cache })

/-- The answers to reads one after another. -/
def query_params : List String → QueryCore → List (Option String)
  | [], _ => []
  | name :: rest, self =>
    let read := self.query_param name
    read.1 :: query_params rest read.2

/-- A cache that has been filled holds the parsed query. -/
def Filled (self : QueryCore) : Prop :=
  ∀ query_cache, self.query_cache = some query_cache →
    query_cache = parse_qs self.core.query_string

end QueryCore

/-- The first value under a name that is not blank. -/
def first_value (name : String) (pairs : List (String × String)) : Option String :=
  (pairs.find? fun pair => pair.1 = name ∧ pair.2 ≠ "").map Prod.snd

theorem head?_parse_qs (qs name : String) :
    ((parse_qs qs).get? name).bind List.head? = first_value name (parse_qsl true qs) := by
  have hgroup := Dict.get?_foldl_append_to (parse_qsl false qs) .empty name
  have hfirst : first_value name (parse_qsl true qs) =
      (Dict.values_of name (parse_qsl false qs)).head? := by
    rw [parse_qsl_dropped, Dict.values_of, List.filter_filter, List.head?_map, List.head?_filter,
      first_value]
    simp only [Bool.decide_and]
  rw [parse_qs, hgroup, hfirst]
  cases Dict.values_of name (parse_qsl false qs) with
  | nil => rfl
  | cons value rest => rfl

namespace QueryCore

theorem filled_create (core : RequestCore) : (create core).Filled := by
  rintro _ ⟨⟩

theorem query_param_value {self : QueryCore} (hfilled : self.Filled) (name : String) :
    (self.query_param name).1 = first_value name (parse_qsl true self.core.query_string) := by
  rw [← head?_parse_qs, query_param]
  cases hcache : self.query_cache with
  | none => rfl
  | some query_cache => rw [hfilled query_cache hcache, Option.getD_some]

theorem Filled.query_param {self : QueryCore} (hfilled : self.Filled) (name : String) :
    (self.query_param name).2.Filled := by
  rintro query_cache ⟨⟩
  cases hcache : self.query_cache with
  | none => rfl
  | some query_cache => exact hfilled query_cache hcache

theorem query_params_values (names : List String) {self : QueryCore} (hfilled : self.Filled) :
    self.query_params names = names.map fun name =>
      first_value name (parse_qsl true self.core.query_string) := by
  induction names generalizing self with
  | nil => rfl
  | cons name rest ih =>
    have hrest := ih (hfilled.query_param name)
    simp only [query_params, query_param_value hfilled, hrest]
    rfl

/-- Whatever way a query is written in, the reads of its parameters give back what it
says, however often and in whatever order they come: under each name the first value that
is not blank. -/
theorem query_params_round_trip {pairs : List (String × String)} {fields : List (List Char)}
    (hwrites : List.Forall₂ WritesPair pairs fields) {core : RequestCore}
    (hquery : core.query_string.toList = ['&'].intercalate fields) (names : List String) :
    (create core).query_params names = names.map fun name => first_value name pairs := by
  have hread : parse_qsl false core.query_string = pairs.filter fun pair => pair.2 ≠ "" := by
    rw [← parse_qsl_writes hwrites, ← hquery, String.ofList_toList]
  have hvalue : ∀ name, first_value name (parse_qsl true core.query_string) =
      first_value name pairs := by
    intro name
    have hfirst : ∀ list : List (String × String), first_value name list =
        first_value name (list.filter fun pair => pair.2 ≠ "") := by
      intro list
      rw [first_value, first_value, List.find?_filter]
      congr 2
      funext pair
      grind
    rw [hfirst, ← parse_qsl_dropped, hread, ← hfirst]
  rw [query_params_values names (filled_create core)]
  exact List.map_congr_left fun name _ => hvalue name

/-- `GET /search?q=caf%C3%A9+au+lait&q=tea&page=` -/
def search_core : RequestCore :=
  .create (ascii "GET") (some (ascii "/search")) (ascii "q=caf%C3%A9+au+lait&q=tea&page=") [] []
    none none

theorem query_params_round_trip_search :
    (create search_core).query_params ["page", "q", "q"] =
      [none, some "café au lait", some "café au lait"] :=
  have hquery : search_core.query_string.toList = ['&'].intercalate
      ([("q", "café au lait"), ("q", "tea"), ("page", "")].map urlencode_pair) := by decide +kernel
  query_params_round_trip (writes_urlencode _) hquery ["page", "q", "q"]

end QueryCore

/-- `self._encoding` -/
def current_encoding (self : Attrs Obj) : PyVal Obj :=
  match self.dict.get? "_encoding" with
  | some (.py value) => value
  | _ => .none

/-- The environ, once there is one, has these variables, and a `GET` that is kept was
decoded from them under the current encoding, by a request that is promoted. -/
structure Decoded (django : Django Obj) (vars : Dict String String) (promoted : Prop)
    (request : Attrs Obj) : Prop where
  environ : ∀ stored, request.dict.get? "environ" = some stored →
    ∃ method body, stored = .environ method vars body
  cached : ∀ stored, request.dict.get? "_get_cache" = some stored → ∃ id content,
    stored = .py (.object id content) ∧
      django.query_dict vars (current_encoding request) = .ok content
  latched : promoted ∨ request.dict.get? "_get_cache" ≠ none →
    request.dict.get? "_is_django" = some (.py (.bool true))

namespace Decoded

variable {django : Django Obj} {vars : Dict String String} {promoted : Prop}

/-- The slots that a decoded query depends on. -/
def slots : List String := ["environ", "_get_cache", "_encoding", "_is_django"]

theorem of_slots {self other : Attrs Obj} (hdecoded : Decoded django vars promoted self)
    (hsame : ∀ name ∈ slots, other.dict.get? name = self.dict.get? name) :
    Decoded django vars promoted other := by
  have hencoding : current_encoding other = current_encoding self := by
    simp only [current_encoding, hsame "_encoding" (by decide)]
  refine ⟨fun stored hstored => ?_, fun stored hstored => ?_, fun hkept => ?_⟩
  · rw [hsame "environ" (by decide)] at hstored
    exact hdecoded.environ stored hstored
  · rw [hsame "_get_cache" (by decide)] at hstored
    rw [hencoding]
    exact hdecoded.cached stored hstored
  · rw [hsame "_get_cache" (by decide)] at hkept
    rw [hsame "_is_django" (by decide)]
    exact hdecoded.latched hkept

/-- Where no `GET` is kept, only the environ matters. -/
theorem of_uncached {self other : Attrs Obj} (hdecoded : Decoded django vars promoted self)
    (henviron : other.dict.get? "environ" = self.dict.get? "environ")
    (hlatch : other.dict.get? "_is_django" = self.dict.get? "_is_django")
    (hnone : other.dict.get? "_get_cache" = none) : Decoded django vars promoted other := by
  refine ⟨fun stored hstored => ?_, fun stored hstored => ?_, fun hkept => ?_⟩
  · rw [henviron] at hstored
    exact hdecoded.environ stored hstored
  · rw [hnone] at hstored
    cases hstored
  · rw [hlatch]
    exact hdecoded.latched (.inl (hkept.resolve_right fun hne => hne hnone))

theorem set_item {name : String} (hname : name ∉ slots) (value : Val Obj) :
    Maintains (Decoded django vars promoted) (Instance.set_item name value) := by
  intro self hdecoded
  refine hdecoded.of_slots fun slot hslot => ?_
  rw [Instance.set_item_run, Dict.get?_set, if_neg]
  rintro rfl
  exact hname hslot

theorem pop_item {name : String} (hname : name ∉ slots) :
    Maintains (Decoded django vars promoted) (Instance.pop_item name) := by
  intro self hdecoded
  refine hdecoded.of_slots fun slot hslot => ?_
  rw [Instance.pop_item_run, Dict.get?_erase, if_neg]
  rintro rfl
  exact hname hslot

theorem get_item (name : String) : Maintains (Decoded django vars promoted) (Instance.get_item name) :=
  Maintains.gets _

theorem fresh : Maintains (Decoded django vars promoted) Instance.fresh :=
  fun _ hdecoded => hdecoded.of_slots fun _ _ => rfl

theorem environ_vars : Maintains (Decoded django vars promoted) request.environ_vars := by
  refine (get_item "environ").bind fun stored => ?_
  split
  · exact .pure _
  · exact .raise _

theorem encoding_value : Maintains (Decoded django vars promoted) request.encoding_value := by
  refine (get_item "_encoding").bind fun stored => ?_
  split <;> exact .pure _

theorem set_new_post (post : Obj) : Maintains (Decoded django vars promoted) (request.set_new_post post) :=
  fresh.bind fun _ => set_item (by decide) _

theorem load_form : Maintains (Decoded django vars promoted) (request.load_form django) := by
  refine (get_item "_read_started").bind fun started => ?_
  split
  · exact .raise _
  · refine environ_vars.bind fun _ => encoding_value.bind fun encoding =>
      (get_item "_stream").bind fun stream => ?_
    split
    · refine (set_item (by decide) _).bind fun _ => ?_
      split
      · exact set_new_post _
      · dsimp only
        split
        · exact (set_new_post _).bind fun _ => .raise _
        · exact .raise _
    · exact .raise _

theorem load_post_and_files :
    Maintains (Decoded django vars promoted) (request.load_post_and_files django) := by
  refine (get_item "method").bind fun method => ?_
  split
  · exact load_form
  · exact encoding_value.bind fun encoding => set_new_post _

theorem get_post : Maintains (Decoded django vars promoted) (request.get_post django) := by
  refine (get_item "_post").bind fun post => ?_
  split
  · exact .pure _
  · refine load_post_and_files.bind fun _ => (get_item "_post").bind fun post => ?_
    split
    · exact .pure _
    · exact .raise _

theorem COOKIES_func : Maintains (Decoded django vars promoted) (request.COOKIES_func django) :=
  environ_vars.bind fun _ => (Maintains.lift _).bind fun _ => fresh.bind fun _ => .pure _

theorem del_GET : Maintains (Decoded django vars promoted) MasslessRequest.del_GET :=
  fun _ hdecoded => hdecoded.of_uncached (by simp [MasslessRequest.del_GET])
    (by simp [MasslessRequest.del_GET]) (by simp [MasslessRequest.del_GET])

theorem set_environ (method : PyVal Obj) (body : Bytes) :
    Maintains (Decoded django vars promoted) (Instance.set_item "environ" (.environ method vars body)) := by
  intro self hdecoded
  refine ⟨fun stored hstored => ⟨method, body, ?_⟩, fun stored hstored => ?_, fun hkept => ?_⟩
  · simpa using hstored.symm
  · have hencoding : current_encoding
        (Instance.set_item "environ" (.environ method vars body) self).2 = current_encoding self := by
      simp [current_encoding]
    rw [hencoding]
    exact hdecoded.cached stored (by simpa using hstored)
  · have hlatched := hdecoded.latched (by simpa using hkept)
    simpa using hlatched

/-- The latch is set for good. -/
theorem set_latch {self : Attrs Obj} (hdecoded : Decoded django vars promoted self) :
    Decoded django vars True (Instance.set_item "_is_django" (.py (.bool true)) self).2 := by
  refine ⟨fun stored hstored => hdecoded.environ stored (by simpa using hstored),
    fun stored hstored => ?_, fun _ => by simp⟩
  have hencoding : current_encoding
      (Instance.set_item "_is_django" (.py (.bool true)) self).2 = current_encoding self := by
    simp [current_encoding]
  rw [hencoding]
  exact hdecoded.cached stored (by simpa using hstored)

/-- A request that is known to be promoted is a request. -/
theorem known {self : Attrs Obj} (hdecoded : Decoded django vars True self) :
    Decoded django vars promoted self :=
  ⟨hdecoded.environ, hdecoded.cached, fun _ => hdecoded.latched (.inl trivial)⟩

/-- A decoding of the query string: it fails and changes nothing, or it gives a new
object with what the variables say under the current encoding. -/
theorem GET_func_cases {self : Attrs Obj} (hdecoded : Decoded django vars promoted self) :
    (∃ e, GET_func django self = (.error e, self)) ∨
      ∃ content, django.query_dict vars (current_encoding self) = .ok content ∧
        GET_func django self =
          (.ok (.object self.allocated content), { self with allocated := self.allocated + 1 }) := by
  have hencoding : request.encoding_value self = (.ok (current_encoding self), self) := by
    cases hvalue : self.dict.get? "_encoding" with
    | none => simp [request.encoding_value, current_encoding, hvalue]
    | some stored => cases stored <;> simp [request.encoding_value, current_encoding, hvalue]
  cases hstored : self.dict.get? "environ" with
  | none =>
    left
    refine ⟨.AttributeError "environ", ?_⟩
    simp [GET_func, request.environ_vars, hstored]
  | some stored =>
    obtain ⟨method, body, rfl⟩ := hdecoded.environ stored hstored
    have henviron : request.environ_vars self = (.ok vars, self) := by
      simp [request.environ_vars, hstored]
    simp only [GET_func, Py.bind_run, henviron, hencoding]
    cases hquery : django.query_dict vars (current_encoding self) with
    | error e => exact .inl ⟨.other e, rfl⟩
    | ok content => exact .inr ⟨content, rfl, rfl⟩

/-- `GET` of a promoted request gives what the variables say under the current encoding. -/
theorem cached_GET {self : Attrs Obj} (hdecoded : Decoded django vars True self) :
    let run := MasslessRequest.cached_in "_get_cache" (GET_func django) self
    Decoded django vars True run.2 ∧ ∀ value, run.1 = .ok value → ∃ id content,
      value = .py (.object id content) ∧
        django.query_dict vars (current_encoding run.2) = .ok content := by
  intro run
  cases hkept : self.dict.get? "_get_cache" with
  | some stored =>
    obtain ⟨id, content, rfl, hquery⟩ := hdecoded.cached stored hkept
    have hrun : run = (.ok (.py (.object id content)), self) := by
      simp [run, MasslessRequest.cached_in, hkept]
    rw [hrun]
    refine ⟨hdecoded, ?_⟩
    rintro value ⟨⟩
    exact ⟨id, content, rfl, hquery⟩
  | none =>
    have hrun : run = (do
        let cached ← GET_func django
        Instance.set_item "_get_cache" (.py cached)
        Pure.pure (.py cached) : Py (Attrs Obj) (Val Obj)) self := by
      simp [run, MasslessRequest.cached_in, hkept]
    obtain ⟨e, hfails⟩ | ⟨content, hquery, hgives⟩ := hdecoded.GET_func_cases
    · rw [hrun, Py.bind_run, hfails]
      exact ⟨hdecoded, by rintro _ ⟨⟩⟩
    · rw [hrun, Py.bind_run, hgives]
      refine ⟨⟨fun stored hstored => hdecoded.environ stored (by simpa using hstored),
        fun stored hstored => ⟨self.allocated, content, ?_, ?_⟩, fun _ => ?_⟩, ?_⟩
      · simpa using hstored.symm
      · simpa [current_encoding] using hquery
      · simpa using hdecoded.latched (.inl trivial)
      · rintro value ⟨⟩
        exact ⟨self.allocated, content, rfl, by simpa [current_encoding] using hquery⟩

/-- What `_ensure_promoted` does to a request: the request is promoted behind it, and one
that is promoted stays as it is. -/
structure Promotes (django : Django Obj) (vars : Dict String String) (promoted : Prop)
    (ensure_promoted : Py (Attrs Obj) Unit) : Prop where
  maintains : Maintains (Decoded django vars promoted) ensure_promoted
  latches : ∀ self, Decoded django vars promoted self → (ensure_promoted self).1 = .ok () →
    Decoded django vars True (ensure_promoted self).2
  idle : ∀ self : Attrs Obj, self.dict.get? "_is_django" = some (.py (.bool true)) →
    ensure_promoted self = (.ok (), self)

section
variable {ensure_promoted : Py (Attrs Obj) Unit}

/-- `GET` leaves a request with what it gave. -/
theorem GET (hpromotes : Promotes django vars promoted ensure_promoted) {self : Attrs Obj}
    (hdecoded : Decoded django vars promoted self) :
    let run := MasslessRequest.GET django ensure_promoted self
    Decoded django vars promoted run.2 ∧ ∀ value, run.1 = .ok value → ∃ id content,
      value = .py (.object id content) ∧
        django.query_dict vars (current_encoding run.2) = .ok content := by
  intro run
  have hafter := hpromotes.maintains self hdecoded
  have hlatches := hpromotes.latches self hdecoded
  have hrun : run = (ensure_promoted >>= fun _ =>
    MasslessRequest.cached_in "_get_cache" (GET_func django)) self := rfl
  rw [hrun, Py.bind_run]
  rcases hensured : ensure_promoted self with ⟨e | _, touched⟩ <;>
    rw [hensured] at hafter hlatches
  · exact ⟨hafter, by rintro _ ⟨⟩⟩
  · obtain ⟨hkept, hgives⟩ := (hlatches rfl).cached_GET
    exact ⟨hkept.known, hgives⟩

/-- The end of the encoding setter. -/
theorem forget_post : Maintains (Decoded django vars promoted) (do
    match ← Instance.get_item "_post" with
    | some _ => Instance.pop_item "_post"
    | none => Pure.pure () : Py (Attrs Obj) Unit) := by
  refine (get_item "_post").bind fun post => ?_
  split
  · exact pop_item (by decide)
  · exact .pure ()

/-- The encoding setter forgets what was decoded under another encoding. -/
theorem set_encoding (hpromotes : Promotes django vars promoted ensure_promoted) (value : PyVal Obj) :
    Maintains (Decoded django vars promoted)
      (MasslessRequest.set_encoding django ensure_promoted value) := by
  refine hpromotes.maintains.bind fun _ => ?_
  intro self hdecoded
  generalize hencoded : (Instance.set_item "_encoding" (.py value) self).2 = encoded
  have hother : ∀ name, name ≠ "_encoding" → encoded.dict.get? name = self.dict.get? name := by
    intro name hname
    simp [← hencoded, hname]
  have hrun : encoding_fset (MasslessRequest.GET django ensure_promoted) MasslessRequest.del_GET
      value self = (do
        if ← Py.hasattr (MasslessRequest.GET django ensure_promoted) then MasslessRequest.del_GET
        match ← Instance.get_item "_post" with
        | some _ => Instance.pop_item "_post"
        | none => Pure.pure () : Py (Attrs Obj) Unit) encoded := by
    rw [← hencoded]
    rfl
  rw [hrun]
  cases hkept : self.dict.get? "_get_cache" with
  | none =>
    have huncached : Decoded django vars promoted encoded :=
      hdecoded.of_uncached (hother _ (by decide)) (hother _ (by decide))
        ((hother _ (by decide)).trans hkept)
    have hlookup : Maintains (Decoded django vars promoted)
        (MasslessRequest.GET django ensure_promoted) := fun self h => (h.GET hpromotes).1
    refine hlookup.hasattr.bind (fun found => ?_) encoded huncached
    split
    · exact del_GET.bind fun _ => forget_post
    · exact forget_post
  | some stored =>
    obtain ⟨id, content, rfl, -⟩ := hdecoded.cached stored hkept
    have hlatch := hdecoded.latched (.inr (by simp [hkept]))
    have hfound : Py.hasattr (MasslessRequest.GET django ensure_promoted) encoded =
        (.ok true, encoded) := by
      have hidle := hpromotes.idle encoded ((hother _ (by decide)).trans hlatch)
      have hcached := (hother "_get_cache" (by decide)).trans hkept
      simp [Py.hasattr, MasslessRequest.GET, MasslessRequest.cached_in, hidle, hcached]
    rw [Py.bind_run, hfound]
    have hdeleted : Decoded django vars promoted (MasslessRequest.del_GET encoded).2 := ?_
    · exact forget_post (MasslessRequest.del_GET encoded).2 hdeleted
    refine hdecoded.of_uncached ?_ ?_ ?_
    · simpa [MasslessRequest.del_GET] using hother "environ" (by decide)
    · simpa [MasslessRequest.del_GET] using hother "_is_django" (by decide)
    · simp [MasslessRequest.del_GET]

end

theorem wsgi_init {core_vars : Dict String String} (method : PyVal Obj) (body : Bytes)
    (hvars : vars = django.meta_vars core_vars) :
    Maintains (Decoded django vars True)
      (wsgi_init django (MasslessRequest.set_encoding django (Pure.pure ())) method core_vars body) := by
  subst hvars
  have hnothing : Promotes django (django.meta_vars core_vars) True
      (Pure.pure () : Py (Attrs Obj) Unit) :=
    ⟨.pure (), fun _ hdecoded _ => hdecoded, fun _ _ => rfl⟩
  refine (set_environ method body).bind fun _ => (set_item (by decide) _).bind fun _ =>
    (set_item (by decide) _).bind fun _ => (set_item (by decide) _).bind fun _ =>
    (Maintains.lift _).bind fun _ => (set_item (by decide) _).bind fun _ =>
    (set_item (by decide) _).bind fun _ => (set_item (by decide) _).bind fun _ => ?_
  have hlast : Maintains (Decoded django (django.meta_vars core_vars) True) (do
      Instance.set_item "_stream" (.stream body [])
      Instance.set_item "_read_started" (.py (.bool false))
      Instance.set_item "resolver_match" (.py .none) : Py (Attrs Obj) Unit) :=
    (set_item (by decide) _).bind fun _ => (set_item (by decide) _).bind fun _ =>
      set_item (by decide) _
  split
  · exact (set_encoding hnothing _).bind fun _ => hlast
  · exact hlast

section
variable (urllib : Urllib) (core : RequestCore)

/-- The environ variables of a request once it is promoted. -/
def promoted_vars (django : Django Obj) (urllib : Urllib) (core : RequestCore) :
    Dict String String :=
  django.meta_vars (core.environ_vars urllib)

theorem promote {self : Attrs Obj}
    (hdecoded : Decoded django (promoted_vars django urllib core) promoted self) :
    Decoded django (promoted_vars django urllib core) True
      (MasslessRequest.promote django urllib core self).2 := by
  have hlatched := hdecoded.set_latch
  generalize hlatch : (Instance.set_item "_is_django" (.py (.bool true)) self).2 = latched at hlatched
  have hrun : MasslessRequest.promote django urllib core self = (do
      match ← Instance.get_item "method" with
      | some (.py method) =>
        request.wsgi_init django (MasslessRequest.set_encoding django (Pure.pure ())) method
          (core.environ_vars urllib) core.body
      | _ => Py.raise (.AttributeError "method") : Py (Attrs Obj) Unit) latched := by
    rw [← hlatch]
    rfl
  rw [hrun]
  refine (get_item "method").bind (fun stored => ?_) latched hlatched
  split
  · exact wsgi_init _ _ rfl
  · exact .raise _

theorem promotes : Promotes django (promoted_vars django urllib core) promoted
    (MasslessRequest.ensure_promoted django urllib core) := by
  have hrun : ∀ self : Attrs Obj, self.dict.get? "_is_django" = some (.py (.bool true)) ∧
      MasslessRequest.ensure_promoted django urllib core self = (.ok (), self) ∨
      MasslessRequest.ensure_promoted django urllib core self =
        MasslessRequest.promote django urllib core self := by
    intro self
    simp only [MasslessRequest.ensure_promoted, MasslessRequest.is_django, Py.bind_run, Py.gets_run]
    split
    · rename_i latch hlatch
      cases latch with
      | false => exact .inr rfl
      | true => exact .inl ⟨hlatch, rfl⟩
    · exact .inr rfl
  refine ⟨fun self hdecoded => ?_, fun self hdecoded _ => ?_, fun self hlatch => ?_⟩
  · obtain ⟨-, hidle⟩ | hpromote := hrun self
    · rwa [hidle]
    · rw [hpromote]
      exact (promote urllib core hdecoded).known
  · obtain ⟨hlatch, hidle⟩ | hpromote := hrun self
    · rw [hidle]
      exact ⟨hdecoded.environ, hdecoded.cached, fun _ => hlatch⟩
    · rw [hpromote]
      exact promote urllib core hdecoded
  · simp [MasslessRequest.ensure_promoted, MasslessRequest.is_django, hlatch]

/-- No use of an attribute parts a request from what its environ says. -/
theorem access (users : UserModel Obj) (op : Access Obj) :
    Maintains (Decoded django (promoted_vars django urllib core) promoted)
      (MasslessRequest.access django users urllib core op) := by
  have hpromotes := @promotes _ django promoted urllib core
  cases op with
  | read attr =>
    cases attr with
    | GET => exact fun self hdecoded => (hdecoded.GET hpromotes).1
    | POST => exact hpromotes.maintains.bind fun _ => get_post
    | COOKIES =>
      refine hpromotes.maintains.bind fun _ => (get_item _).bind fun stored => ?_
      have hnew : Maintains (Decoded django (promoted_vars django urllib core) promoted) (do
          let cached ← request.COOKIES_func django
          Instance.set_item "_cookies_cache" (.py cached)
          Pure.pure (.py cached) : Py (Attrs Obj) (Val Obj)) :=
        COOKIES_func.bind fun _ => (set_item (by decide) _).bind fun _ => .pure _
      split
      · exact hnew
      · exact hnew
      · exact .pure _
    | encoding =>
      exact hpromotes.maintains.bind fun _ => encoding_value.bind fun _ => .pure _
    | user =>
      refine (get_item "_user").bind fun stored => ?_
      split
      · exact .raise _
      · refine hpromotes.maintains.bind fun _ => (get_item "auth").bind fun auth => ?_
        split
        · exact .raise _
        · exact (Maintains.lift _).bind fun _ => (set_item (by decide) _).bind fun _ => .pure _
      · exact .pure _
  | assign attr value =>
    refine Maintains.bind ?_ fun _ => .pure _
    cases attr with
    | encoding => exact set_encoding hpromotes value
    | user => exact set_item (by decide) _
    | _ => exact .raise _

end

end Decoded

/-- What a request rests on to read a query of ASCII bytes through `GET`: a `QueryDict`
has the pairs of the query string in order, those with a blank value as well. -/
def Django.ReadsQuery (django : Django Obj) (getlist : Obj → String → List String) : Prop :=
  ∀ (vars : Dict String String) (data : Bytes) (encoding : PyVal Obj) (content : Obj),
    vars.get? "QUERY_STRING" = some (decode_latin1 data) → (∀ b ∈ data, b < 128) →
    encoding ∈ [.none, .str "utf-8"] → django.query_dict vars encoding = .ok content →
    ∀ name, getlist content name = Dict.values_of name (parse_qsl true (decode_latin1 data))

/-- One use of a request: of an attribute, or a read of a parameter from the core. -/
inductive QueryUse (Obj : Type) where
  | access (op : Access Obj)
  | query_param (name : String)

def QueryUse.run (django : Django Obj) (users : UserModel Obj) (urllib : Urllib)
    (state : QueryCore × Attrs Obj) : QueryUse Obj → QueryCore × Attrs Obj
  | .access op => (state.1, (MasslessRequest.access django users urllib state.1.core op state.2).2)
  | .query_param name => ((state.1.query_param name).2, state.2)

section
variable (django : Django Obj) (users : UserModel Obj) (urllib : Urllib)

/-- The core and the attributes of a request, each with a cache that is right. -/
def Cached (core : RequestCore) (state : QueryCore × Attrs Obj) : Prop :=
  state.1.core = core ∧ state.1.Filled ∧
    Decoded django (Decoded.promoted_vars django urllib core) False state.2

variable {django urllib}

theorem Cached.step {core : RequestCore} {state : QueryCore × Attrs Obj}
    (hcached : Cached django urllib core state) (op : QueryUse Obj) :
    Cached django urllib core (op.run django users urllib state) := by
  obtain ⟨rfl, hfilled, hdecoded⟩ := hcached
  cases op with
  | access op => exact ⟨rfl, hfilled, Decoded.access urllib state.1.core users op _ hdecoded⟩
  | query_param name => exact ⟨rfl, hfilled.query_param name, hdecoded⟩

theorem Cached.run {core : RequestCore} {state : QueryCore × Attrs Obj}
    (hcached : Cached django urllib core state) (ops : List (QueryUse Obj)) :
    Cached django urllib core (ops.foldl (QueryUse.run django users urllib) state) := by
  induction ops generalizing state with
  | nil => exact hcached
  | cons op rest ih => exact ih (hcached.step users op)

theorem Cached.new {core : RequestCore} {self : Attrs Obj}
    (hnew : MasslessRequest.new urllib core = some self) :
    Cached django urllib core (.create core, self) := by
  simp only [MasslessRequest.new, Option.bind_eq_bind, Option.bind_eq_some_iff] at hnew
  obtain ⟨method, -, path, -, hself⟩ := hnew
  obtain rfl := Option.some.inj hself
  refine ⟨rfl, QueryCore.filled_create core, ?_⟩
  refine ⟨fun stored hstored => ?_, fun stored hstored => ?_, fun hkept => ?_⟩
  · simp at hstored
  · simp at hstored
  · simp at hkept

theorem get?_query_string (core : RequestCore) :
    (Decoded.promoted_vars django urllib core).get? "QUERY_STRING" = some core.query_string := by
  simp [Decoded.promoted_vars, Django.meta_vars,
    core.get?_environ_vars urllib (show ¬HeaderKey "QUERY_STRING" by decide) (by decide),
    RequestCore.request_vars, RequestCore.query_string]

/-- The first value of a list that is not blank. -/
theorem first_value_eq (name : String) (pairs : List (String × String)) :
    first_value name pairs = (Dict.values_of name pairs).find? fun value => value ≠ "" := by
  rw [first_value, Dict.values_of, List.find?_map, List.find?_filter]
  congr 2
  funext pair
  simp

/-- At any point of any use of a request, promoted or not, `query_param` answers what
Django's `GET` says there: the first value of the name that is not blank. -/
theorem query_param_agrees {getlist : Obj → String → List String}
    (hreads : django.ReadsQuery getlist) {core : RequestCore} (hascii : ∀ b ∈ core.query, b < 128)
    {self : Attrs Obj} (hnew : MasslessRequest.new urllib core = some self)
    (ops : List (QueryUse Obj)) {reached : QueryCore × Attrs Obj}
    (hreached : ops.foldl (QueryUse.run django users urllib) (.create core, self) = reached)
    {value : Val Obj} {after : Attrs Obj}
    (hGET : MasslessRequest.access django users urllib core (.read .GET) reached.2 =
      (.ok value, after))
    (hencoding : current_encoding after ∈ [.none, .str "utf-8"]) :
    ∃ id content, value = .py (.object id content) ∧ ∀ name,
      (reached.1.query_param name).1 = (getlist content name).find? fun value => value ≠ "" := by
  have hfirst : Cached django urllib core (.create core, self) := .new hnew
  obtain ⟨hcore, hfilled, hdecoded⟩ := hfirst.run users ops
  rw [hreached] at hcore hfilled hdecoded
  have hpromotes := @Decoded.promotes _ django False urllib core
  obtain ⟨-, hgives⟩ := hdecoded.GET hpromotes
  have hrun : MasslessRequest.GET django (MasslessRequest.ensure_promoted django urllib core)
      reached.2 = (.ok value, after) := hGET
  rw [hrun] at hgives
  obtain ⟨id, content, rfl, hquery⟩ := hgives value rfl
  refine ⟨id, content, rfl, fun name => ?_⟩
  have hlist := hreads _ core.query _ content (get?_query_string core) hascii hencoding hquery name
  rw [QueryCore.query_param_value hfilled, hcore, first_value_eq, hlist]
  rfl

end

theorem ascii_django_reads_query : ascii_django.ReadsQuery fun content name =>
    Dict.values_of name (parse_qsl true content) := by
  intro vars data encoding content hvars _ _ hquery name
  obtain rfl := Except.ok.inj hquery
  rw [hvars, Option.getD_some]

/-- A parameter read before and after the request is promoted. -/
theorem query_param_agrees_search : ∃ self reached value after,
    MasslessRequest.new ascii_urllib QueryCore.search_core = some self ∧
    [.query_param "q", .access (.assign .encoding (.str "utf-8")), .access (.read .POST)].foldl
      (QueryUse.run ascii_django (fun _ => .ok (9, "anonymous")) ascii_urllib)
      (.create QueryCore.search_core, self) = reached ∧
    MasslessRequest.access ascii_django (fun _ => .ok (9, "anonymous")) ascii_urllib
      QueryCore.search_core (.read .GET) reached.2 = (.ok value, after) ∧
    ∃ id content, value = .py (.object id content) ∧ ∀ name, (reached.1.query_param name).1 =
      (Dict.values_of name (parse_qsl true content)).find? fun value => value ≠ "" :=
  ⟨_, _, _, _, rfl, rfl, rfl, query_param_agrees (fun _ => .ok (9, "anonymous"))
    ascii_django_reads_query (by decide +kernel) rfl
    [.query_param "q", .access (.assign .encoding (.str "utf-8")), .access (.read .POST)] rfl rfl
    (by decide)⟩

/-- `RequestCore.get_header`, where `lower` is `str.lower`; the outer `none` is the error
of encoding a name that is not latin-1. -/
def RequestCore.get_header (lower : String → String) (self : RequestCore) (name : String) :
    Option (Option String) :=
  (encode_latin1 (lower name)).map fun target =>
    (self.headers.find? (·.1 = target)).map fun header => decode_latin1 header.2

/-- `str.lower` on a name of ASCII characters. -/
def LowersAscii (lower : String → String) : Prop :=
  ∀ name : Bytes, (∀ b ∈ name, b < 128) →
    lower (decode_latin1 name) = decode_latin1 (lower_bytes name)

theorem token_ascii {name : Bytes} (hname : http.Token name) : ∀ b ∈ name, b < 128 := by
  have htchar : ∀ b : UInt8, http.is_tchar b = true → b < 128 :=
    http.forall_octet (by decide +kernel)
  exact fun b hb => htchar b (hname.2 b hb)

/-- `get_header` gives the first value of the name, in any case. -/
theorem get_header_value {lower : String → String} (hlower : LowersAscii lower) {self : RequestCore}
    {headers : List (Bytes × Bytes)} (hheaders : self.headers = lowered headers) {name : Bytes}
    (hname : http.Token name) :
    self.get_header lower (decode_latin1 name) =
      some ((values_named name headers).head?.map decode_latin1) := by
  have hfound : (lowered headers).find? (fun header => header.1 = lower_bytes name) =
      (headers.find? fun header => lower_bytes header.1 = lower_bytes name).map
        fun header => (lower_bytes header.1, header.2) := by
    rw [lowered, List.find?_map]
    rfl
  rw [RequestCore.get_header, hlower name (token_ascii hname), encode_decode_latin1, Option.map_some,
    hheaders, hfound, values_named, List.head?_map, List.head?_filter, Option.map_map,
    Option.map_map]
  rfl

theorem joined_single (name value : Bytes) (hcookie : lower_bytes name ≠ ascii "cookie") :
    joined name [value] = decode_latin1 value := by
  rw [joined, if_neg hcookie]
  rfl

/-- Several values joined are longer than the first one. -/
theorem joined_ne_first (name first second : Bytes) (later : List Bytes)
    (hcookie : lower_bytes name ≠ ascii "cookie") :
    joined name (first :: second :: later) ≠ decode_latin1 first := by
  intro heq
  have hlength := congrArg (fun text => text.toList.length) heq
  simp [joined, if_neg hcookie, String.toList_intercalate, List.intercalate] at hlength

section
variable {Address Network : Type} [DecidableEq Address]

/-- `get_header` says what the promoted request says under the key of the name exactly
when the name was sent at most once. Of a name that was sent again it says the first value, where
the promoted request has them all. -/
theorem get_header_agrees_iff {lower : String → String} (hlower : LowersAscii lower)
    (parsers : Parsers Address Network) (urllib : Urllib) (trusted : TrustedHosts Address Network)
    {self : RequestCore} {headers : List (Bytes × Bytes)} (hheaders : self.headers = lowered headers)
    (htokens : ∀ header ∈ headers, http.Token header.1) {name : Bytes} (hname : http.Token name)
    (hfolded : Folded name) (hcookie : lower_bytes name ≠ ascii "cookie") :
    (self.get_header lower (decode_latin1 name) =
        some ((self.proxied_vars parsers urllib trusted).get? (environ_key name)) ↔
      (values_named name headers).length ≤ 1) ∧
    ∀ first second later, values_named name headers = first :: second :: later →
      self.get_header lower (decode_latin1 name) = some (some (decode_latin1 first)) ∧
      (self.proxied_vars parsers urllib trusted).get? (environ_key name) =
        some (",".intercalate ((first :: second :: later).map decode_latin1)) := by
  rw [get_header_value hlower hheaders hname,
    get?_environ_key parsers urllib trusted self hheaders htokens hname hfolded, Option.some_inj]
  constructor
  · match values_named name headers with
    | [] => simp
    | [value] => simp [joined_single name value hcookie]
    | first :: second :: later =>
      have hne := (joined_ne_first name first second later hcookie).symm
      simpa using hne
  · intro first second later hvalues
    rw [hvalues, if_neg (List.cons_ne_nil _ _), joined, if_neg hcookie]
    exact ⟨rfl, rfl⟩

end

theorem lower_str_lowersAscii : LowersAscii lower_str := by
  have hchar : ∀ b : UInt8, b < 128 → (Char.ofNat b.toNat).toLower =
      Char.ofNat (if 65 ≤ b ∧ b ≤ 90 then b + 32 else b).toNat :=
    http.forall_octet (by decide +kernel)
  intro name hascii
  rw [lower_str, toList_decode_latin1, decode_latin1, lower_bytes, List.map_map, List.map_map]
  congr 1
  apply List.map_congr_left
  intro b hb
  exact hchar b (hascii b hb)

theorem get_header_agrees_iff_twice :
    let headers := [(ascii "X-Tag", ascii "a"), (ascii "Accept", ascii "*/*"),
      (ascii "x-tag", ascii "b")]
    let core := RequestCore.create (ascii "GET") (some (ascii "/")) [] headers [] none none
    let parsers : Parsers Unit Unit :=
      ⟨fun _ => none, fun _ => none, fun _ => none, fun _ _ => false⟩
    let urllib : Urllib := ⟨id, encode_utf8, fun _ _ => (none, none)⟩
    let vars := core.proxied_vars parsers urllib ⟨false, [], [], []⟩
    core.get_header lower_str "Accept" = some (vars.get? "HTTP_ACCEPT") ∧
      core.get_header lower_str "X-Tag" = some (some "a") ∧ vars.get? "HTTP_X_TAG" = some "a,b" := by
  intro headers core parsers urllib vars
  have hheaders : core.headers = lowered headers := rfl
  have hagrees := @get_header_agrees_iff Unit Unit _ _ lower_str_lowersAscii parsers urllib
    ⟨false, [], [], []⟩ _ _ hheaders (by decide)
  have haccept := @hagrees (ascii "Accept") (by decide) (by decide) (by decide)
  have htag := @hagrees (ascii "X-Tag") (by decide) (by decide) (by decide)
  exact ⟨haccept.1.mpr (by decide), htag.2 (ascii "a") (ascii "b") [] (by decide)⟩

end massless.request
