import Massless.Middleware.Anywhere
import Massless.Middleware.Passed

open python
open massless.chain

namespace massless.middleware

variable {W Req Args : Type} {decode : String → Bytes → Option Bytes}

/-- What `gzip` compresses can be had back. -/
structure Http.Lossless (http : Http W Req) (decode : String → Bytes → Option Bytes) : Prop where
  string : ∀ data w, decode "gzip" (http.compress_string data w).1 = some data
  sequence : ∀ chunks w, decode "gzip" (http.compress_sequence chunks w).1.flatten =
    some chunks.flatten
  asequence : ∀ chunks w, decode "gzip" (http.acompress_sequence chunks w).1.flatten =
    some chunks.flatten

/-- A response that a hook was given is handed on. -/
def HandsOn (decode : String → Bytes → Option Bytes) (given returned : Returned HttpResponse) :
    Prop :=
  ∀ sent, returned = .value sent → ∃ response, given = .value response ∧
    response.Passed decode sent

theorem HandsOn.refl (given : Returned HttpResponse) : HandsOn decode given given :=
  fun sent hsent => ⟨sent, hsent, .refl decode sent⟩

theorem HandsOn.trans {given between returned : Returned HttpResponse}
    (hfirst : HandsOn decode given between) (hsecond : HandsOn decode between returned) :
    HandsOn decode given returned := by
  intro sent hsent
  obtain ⟨middle, hmiddle, hlater⟩ := hsecond sent hsent
  obtain ⟨response, hresponse, hearlier⟩ := hfirst middle hmiddle
  exact ⟨response, hresponse, hearlier.trans hlater⟩

theorem HandsOn.value {response sent : HttpResponse} (hpassed : response.Passed decode sent) :
    HandsOn decode (.value response) (.value sent) := by
  rintro _ ⟨⟩
  exact ⟨response, rfl, hpassed⟩

theorem returns_read_attr (name : String) (given : Returned HttpResponse) :
    (read_attr name given : Placed W HttpResponse).Returns
      fun response => given = .value response := by
  cases given with
  | value response => exact .pure rfl
  | none => exact .raise _ _
  | coroutine => exact .raise _ _

/-- A hook that reads an attribute of the response first has a response. -/
theorem returns_of_read {B : Type} {name : String} {given : Returned HttpResponse}
    {hook : HttpResponse → Placed W B} {post : B → Prop}
    (hhook : ∀ response, given = .value response → (hook response).Returns post) :
    (read_attr name given >>= hook).Returns post :=
  (returns_read_attr name given).bind hhook

variable (decode)

/-- A hook that makes its response of the one that it has by a call that may raise. -/
theorem returns_lifted {response : HttpResponse} {outcome : Except Exc HttpResponse}
    (houtcome : ∀ sent, outcome = .ok sent → response.Passed decode sent) :
    (do
      let response ← Placed.lift outcome
      pure (.value response) : Placed W (Returned HttpResponse)).Returns
        (HandsOn decode (.value response)) :=
  (Placed.Returns.lift houtcome).bind fun _ hpassed => .pure (.value hpassed)

/-- A header that the response lacks may be set to what a header keeps of a value. -/
theorem passed_setdefault {http : Http W Req} {response sent : HttpResponse} {name value : String}
    (hcoding : lower_str name ≠ "content-encoding")
    (hlength : lower_str name = "content-length" → ∀ stored, http.header_value value = some stored →
      stored = toString response.body.bytes.length)
    (hset : http.setdefault response name value = .ok sent) : response.Passed decode sent := by
  obtain ⟨rfl, -⟩ | ⟨habsent, stored, hstored, rfl⟩ := HttpResponse.setdefault_ok hset
  · exact .refl decode sent
  · exact HttpResponse.passed_set (Or.inl habsent) hcoding fun hname => hlength hname stored hstored

theorem XFrameOptionsMiddleware.hands_on (settings : Settings) (http : Http W Req)
    (given : Returned HttpResponse) :
    (process_response settings http given).Returns (HandsOn decode given) := by
  apply returns_of_read
  rintro response rfl
  split
  · exact .pure (.refl _)
  rename_i habsent
  split
  · exact .pure (.refl _)
  · refine returns_lifted decode fun sent hset => ?_
    obtain ⟨stored, -, rfl⟩ := HttpResponse.set_header_ok hset
    refine HttpResponse.passed_set (Or.inl ?_) (by decide) fun hname => absurd hname (by decide)
    simpa [HttpResponse.has_header] using habsent

namespace SecurityMiddleware

theorem set_default_hands_on (http : Http W Req) {name : String}
    (hcoding : lower_str name ≠ "content-encoding")
    (hlength : lower_str name ≠ "content-length") (attr : String) (value : Option String)
    (given : Returned HttpResponse) :
    (set_default http name attr value given).Returns (HandsOn decode given) := by
  cases value with
  | none => exact .pure (.refl _)
  | some value =>
    apply returns_of_read
    rintro response rfl
    exact returns_lifted decode fun sent hset =>
      passed_setdefault decode hcoding (fun hname => absurd hname hlength) hset

theorem strict_transport_hands_on (settings : Settings) (http : Http W Req) (request : Req)
    (given : Returned HttpResponse) :
    (strict_transport settings http request given).Returns (HandsOn decode given) := by
  unfold strict_transport
  split
  · cases given with
    | value response =>
      exact returns_lifted decode fun sent hset =>
        passed_setdefault decode (by decide) (fun hname => absurd hname (by decide)) hset
    | none => exact .raise _ _
    | coroutine => exact .raise _ _
  · exact .pure (.refl _)

theorem hands_on (settings : Settings) (http : Http W Req) (request : Req)
    (given : Returned HttpResponse) :
    (process_response settings http request given).Returns (HandsOn decode given) := by
  refine (strict_transport_hands_on decode settings http request given).bind fun first hfirst => ?_
  refine (set_default_hands_on decode http (by decide) (by decide) _ _ first).bind
    fun second hsecond => ?_
  refine (set_default_hands_on decode http (by decide) (by decide) _ _ second).bind
    fun third hthird => ?_
  refine (set_default_hands_on decode http (by decide) (by decide) _ _ third).imp
    fun last hlast => ?_
  exact ((hfirst.trans hsecond).trans hthird).trans hlast

end SecurityMiddleware

namespace ConditionalGetMiddleware

theorem passed_tagged {http : Http W Req} (hdocumented : http.Documented)
    (response : HttpResponse) : response.Passed decode (tagged http response) := by
  unfold tagged
  split
  · rename_i hneeds
    simp only [HttpResponse.has_header, Bool.and_eq_true, Bool.not_eq_true',
      Option.isSome_eq_false_iff, Option.isNone_iff_eq_none] at hneeds
    obtain hsame | ⟨tag, htag⟩ := hdocumented.set_response_etag response
    · rw [hsame]
      exact .refl decode response
    · rw [htag]
      refine HttpResponse.passed_set (Or.inl hneeds.2) (by decide) fun hname => ?_
      exact absurd hname (by decide)
  · exact .refl decode response

theorem hands_on {http : Http W Req} (hdocumented : http.Documented) (request : Req)
    (given : Returned HttpResponse) :
    (process_response http request given).Returns fun returned =>
      HandsOn decode given returned ∨ ∃ etag last_modified response,
        returned = .value (http.get_conditional_response request etag last_modified response) ∧
          (http.get_conditional_response request etag last_modified response).status_code ∈
            [304, 412] := by
  unfold process_response
  split
  · exact .pure (Or.inl (.refl given))
  apply returns_of_read
  rintro response rfl
  have htagged := passed_tagged decode hdocumented response
  dsimp only
  split
  · apply Placed.Returns.pure
    obtain hsame | hanswered := hdocumented.get_conditional_response request
      ((tagged http response).get "ETag")
      ((truthy_text ((tagged http response).get "Last-Modified")).bind http.parse_http_date_safe)
      (tagged http response)
    · rw [hsame]
      exact Or.inl (.value htagged)
    · exact Or.inr ⟨_, _, _, rfl, hanswered⟩
  · exact .pure (Or.inl (.value htagged))

end ConditionalGetMiddleware

namespace CommonMiddleware

theorem passed_with_length {http : Http W Req} (hdocumented : http.Documented)
    {response sent : HttpResponse} (hlength : with_length http response = .ok sent) :
    response.Passed decode sent := by
  unfold with_length at hlength
  cases hbody : response.body with
  | content data =>
    rw [hbody] at hlength
    refine passed_setdefault decode (by decide) (fun _ stored hstored => ?_) hlength
    rw [hdocumented.header_value _ (HttpResponse.field_text_toString _)] at hstored
    rw [← Option.some.inj hstored, hbody, Body.bytes]
  | streaming_content is_async chunks =>
    rw [hbody] at hlength
    obtain rfl := Except.ok.inj hlength
    exact .refl decode response

/-- The response stays, or a redirect takes its place. -/
theorem returns_redirected_with_slash (settings : Settings) (http : Http W Req) (request : Req)
    (response : HttpResponse) :
    (redirected_with_slash settings http request response).Returns fun sent => sent = response ∨
      ∃ redirect_to, http.HttpResponsePermanentRedirect redirect_to = .ok sent := by
  unfold redirected_with_slash
  refine .last fun with_slash => ?_
  split
  · exact .last fun redirect_to => .lift fun sent hsent => Or.inr ⟨redirect_to, hsent⟩
  · exact .pure (Or.inl rfl)

theorem hands_on (settings : Settings) {http : Http W Req} (hdocumented : http.Documented)
    (request : Req) (given : Returned HttpResponse) :
    (process_response settings http request given).Returns fun returned =>
      HandsOn decode given returned ∨
        ∃ redirect_to redirect, http.HttpResponsePermanentRedirect redirect_to = .ok redirect ∧
          HandsOn decode (.value redirect) returned := by
  apply returns_of_read
  rintro response rfl
  refine (returns_redirected_with_slash settings http request response).bind fun sent hsent => ?_
  have hlength : (do
      let response ← Placed.lift (with_length http sent)
      pure (.value response) : Placed W (Returned HttpResponse)).Returns
        (HandsOn decode (.value sent)) :=
    returns_lifted decode fun _ hlength => passed_with_length decode hdocumented hlength
  obtain rfl | ⟨redirect_to, hredirect⟩ := hsent
  · exact hlength.imp fun _ => Or.inl
  · exact hlength.imp fun _ hon => Or.inr ⟨redirect_to, sent, hredirect, hon⟩

end CommonMiddleware

namespace GZipMiddleware

theorem passed_compressed {http : Http W Req} (hdocumented : http.Documented)
    (hlossless : http.Lossless decode) {response : HttpResponse}
    (hplain : response.get "Content-Encoding" = none) :
    (compressed http response).Returns fun sent => response.Passed decode sent := by
  unfold compressed
  have hkeeps (query : String) (hquery : lower_str query ≠ "content-length") :
      lower_str query ≠ lower_str "Content-Length" := fun hname =>
    hquery (hname.trans (by decide))
  cases hbody : response.body with
  | streaming_content is_async chunks =>
    refine (Placed.Returns.draw _).bind fun coded hcoded => .lift fun sent hsent => ?_
    obtain ⟨w, rfl⟩ := hcoded
    refine HttpResponse.passed_marked (HttpResponse.marked_ok hdocumented hsent) hplain ?_ ?_
      (fun query hquery => ?_) ?_ ?_
    · simp [HttpResponse.streaming, hbody]
    · rw [hbody]
      cases is_async with
      | true => exact hlossless.asequence chunks w
      | false => exact hlossless.sequence chunks w
    · rw [massless.response.Headers.get?_erase, if_neg (hkeeps query hquery)]
    · intro value hvalue
      rw [HttpResponse.get, massless.response.Headers.get?_erase, if_pos rfl] at hvalue
      cases hvalue
    · simp [HttpResponse.streaming, hbody]
  | content data =>
    refine (Placed.Returns.draw _).bind fun coded hcoded => ?_
    obtain ⟨w, rfl⟩ := hcoded
    split
    · exact .pure (.refl decode response)
    rename_i hshorter
    refine (Placed.Returns.lift fun _ hset => HttpResponse.set_header_ok hset).bind
      fun measured hmeasured => .lift fun sent hsent => ?_
    obtain ⟨stored, hstored, rfl⟩ := hmeasured
    rw [hdocumented.header_value _ (HttpResponse.field_text_toString _)] at hstored
    obtain rfl := Option.some.inj hstored
    refine HttpResponse.passed_marked (HttpResponse.marked_ok hdocumented hsent) hplain ?_ ?_
      (fun query hquery => ?_) ?_ ?_
    · simp [HttpResponse.streaming, hbody]
    · rw [hbody]
      exact hlossless.string data w
    · rw [massless.response.Headers.get?_set, if_neg (hkeeps query hquery)]
    · intro value hvalue
      rw [HttpResponse.get, massless.response.Headers.get?_set, if_pos rfl] at hvalue
      cases hvalue
      rfl
    · intro _
      rw [hbody]
      exact Nat.le_of_not_le hshorter

theorem hands_on {http : Http W Req} (hdocumented : http.Documented)
    (hlossless : http.Lossless decode) (request : Req) (given : Returned HttpResponse) :
    (process_response http request given).Returns (HandsOn decode given) := by
  apply returns_of_read
  rintro response rfl
  split
  · exact .pure (.refl _)
  split
  · exact .pure (.refl _)
  rename_i habsent
  have hplain : response.get "Content-Encoding" = none := by
    simpa [HttpResponse.has_header] using habsent
  obtain ⟨vary, hpatched⟩ := hdocumented.patch_vary_headers response ["Accept-Encoding"]
  have hvary : response.Passed decode (response.set "Vary" vary) := by
    refine HttpResponse.passed_set (Or.inr (by decide)) (by decide) fun hname => ?_
    exact absurd hname (by decide)
  have hstill : (response.set "Vary" vary).get "Content-Encoding" = none := by
    rw [HttpResponse.get_set, if_neg (by decide), hplain]
  simp only [hpatched]
  split
  · refine (passed_compressed decode hdocumented hlossless hstill).bind fun sent hsent => ?_
    exact .pure (.value (hvary.trans hsent))
  · exact .pure (.value hvary)

end GZipMiddleware

/-- Where a response comes from before hooks of these classes hand it on: the view, an error, a
redirect, an answer to a condition, or a layer of another class around the ones behind it. -/
inductive Site.Origin (site : Site W Req HttpResponse Args)
    (django : Django W Req HttpResponse Args) (http : Http W Req) (fast_mw : Bool)
    (MIDDLEWARE : List String) (request : Req) : HttpResponse → Prop where
  | view {s t : W} {response : HttpResponse}
    (hview : django.core (site.layers fast_mw MIDDLEWARE) request s = (.ok (.value response), t)) :
    Origin site django http fast_mw MIDDLEWARE request response
  | error {e : Exc} {s t : W} {response : HttpResponse}
    (herror : django.response_for_exception request e s = (.ok response, t)) :
    Origin site django http fast_mw MIDDLEWARE request response
  | redirect {redirect_to : String} {response : HttpResponse}
    (hredirect : http.HttpResponsePermanentRedirect redirect_to = .ok response) :
    Origin site django http fast_mw MIDDLEWARE request response
  | condition (etag : Option String) (last_modified : Option Int) (response : HttpResponse)
    (hstatus : (http.get_conditional_response request etag last_modified response).status_code ∈
      [304, 412]) :
    Origin site django http fast_mw MIDDLEWARE request
      (http.get_conditional_response request etag last_modified response)
  | layer {before inside : List String} {path : String} {s t : W} {response : HttpResponse}
    (hpath : site.kept MIDDLEWARE = before ++ path :: inside)
    (hother : ∀ name, REGISTRY.lookup path = some name → name.pure = false)
    (hcall : (site.load fast_mw path).call (mode ((path :: inside).map (site.load fast_mw)))
      (django.onion (django.core (site.layers fast_mw MIDDLEWARE))
        (inside.map (site.load fast_mw))) request s = (.ok (.value response), t)) :
    Origin site django http fast_mw MIDDLEWARE request response

/-- A response from some origin that was handed on. -/
def Handed (decode : String → Bytes → Option Bytes) (origin : HttpResponse → Prop)
    (returned : Returned HttpResponse) : Prop :=
  ∀ sent, returned = .value sent → ∃ response, origin response ∧ response.Passed decode sent

variable {decode} {origin : HttpResponse → Prop}

theorem Handed.of_origin {response : HttpResponse} (horigin : origin response) :
    Handed decode origin (.value response) := by
  rintro _ ⟨⟩
  exact ⟨response, horigin, .refl decode response⟩

theorem Handed.hands_on {given returned : Returned HttpResponse}
    (hgiven : Handed decode origin given) (hon : HandsOn decode given returned) :
    Handed decode origin returned := by
  intro sent hsent
  obtain ⟨middle, hmiddle, hlater⟩ := hon sent hsent
  obtain ⟨response, horigin, hearlier⟩ := hgiven middle hmiddle
  exact ⟨response, horigin, hearlier.trans hlater⟩

/-- A hook for requests of the five classes passes the request on or redirects. -/
theorem returns_on_request (builtins : Builtins W Req HttpResponse Args) (settings : Settings)
    (http : Http W Req) {name : Registered} (hpure : name.pure = true) (request : Req)
    (hredirect : ∀ redirect_to response,
      http.HttpResponsePermanentRedirect redirect_to = .ok response → origin response) :
    (((builtins.with_hooks settings http).hooks name).on_request request).Returns
      fun response => response ≠ .none → Handed decode origin response := by
  have hpasses : (pure .none : Placed W (Returned HttpResponse)).Returns
      fun response => response ≠ .none → Handed decode origin response :=
    .pure fun hnone => absurd rfl hnone
  have hredirects (location : Placed W String) (f : String → String) :
      (location >>= fun location => do
        let response ← Placed.lift (http.HttpResponsePermanentRedirect (f location))
        pure (.value response) : Placed W _).Returns
          fun response => response ≠ .none → Handed decode origin response :=
    .last fun location => (Placed.Returns.lift fun response => hredirect _ response).bind
      fun response horigin => .pure fun _ => .of_origin horigin
  cases name with
  | SecurityMiddleware =>
    simp only [Builtins.hooks, ClassHooks.on_request, Builtins.with_hooks]
    unfold SecurityMiddleware.process_request
    split
    · exact hredirects _ fun host => "https://" ++ host ++ http.get_full_path request false
    · exact hpasses
  | CommonMiddleware =>
    simp only [Builtins.hooks, ClassHooks.on_request, Builtins.with_hooks]
    unfold CommonMiddleware.process_request
    split
    · exact .raise _ _
    refine .last fun host => ?_
    split
    · refine .last fun with_slash => ?_
      exact hredirects _ fun path => http.scheme request ++ "://www." ++ host ++ path
    · exact hpasses
  | XFrameOptionsMiddleware => exact hpasses
  | ConditionalGetMiddleware => exact hpasses
  | GZipMiddleware => exact hpasses
  | SessionMiddleware => cases hpure
  | AuthenticationMiddleware => cases hpure
  | MessageMiddleware => cases hpure
  | CsrfViewMiddleware => cases hpure

/-- Their hooks for responses hand on what they are given, or answer in its place. -/
theorem returns_on_response (builtins : Builtins W Req HttpResponse Args) (settings : Settings)
    {http : Http W Req} (hdocumented : http.Documented) (hlossless : http.Lossless decode)
    {name : Registered} (hpure : name.pure = true) (request : Req)
    (hredirect : ∀ redirect_to response,
      http.HttpResponsePermanentRedirect redirect_to = .ok response → origin response)
    (hcondition : ∀ etag last_modified response,
      (http.get_conditional_response request etag last_modified response).status_code ∈ [304, 412] →
      origin (http.get_conditional_response request etag last_modified response))
    {given : Returned HttpResponse} (hgiven : Handed decode origin given) :
    (((builtins.with_hooks settings http).hooks name).on_response request given).Returns
      (Handed decode origin) := by
  cases name with
  | XFrameOptionsMiddleware =>
    exact (XFrameOptionsMiddleware.hands_on decode settings http given).imp fun _ => hgiven.hands_on
  | SecurityMiddleware =>
    exact (SecurityMiddleware.hands_on decode settings http request given).imp fun _ =>
      hgiven.hands_on
  | ConditionalGetMiddleware =>
    refine (ConditionalGetMiddleware.hands_on decode hdocumented request given).imp
      fun returned hreturned => ?_
    obtain hon | ⟨etag, last_modified, response, rfl, hstatus⟩ := hreturned
    · exact hgiven.hands_on hon
    · exact .of_origin (hcondition etag last_modified response hstatus)
  | CommonMiddleware =>
    refine (CommonMiddleware.hands_on decode settings hdocumented request given).imp
      fun returned hreturned => ?_
    obtain hon | ⟨redirect_to, redirect, hmade, hon⟩ := hreturned
    · exact hgiven.hands_on hon
    · exact (Handed.of_origin (hredirect redirect_to redirect hmade)).hands_on hon
  | GZipMiddleware =>
    exact (GZipMiddleware.hands_on decode hdocumented hlossless request given).imp fun _ =>
      hgiven.hands_on
  | SessionMiddleware => cases hpure
  | AuthenticationMiddleware => cases hpure
  | MessageMiddleware => cases hpure
  | CsrfViewMiddleware => cases hpure

/-- The chain hands on responses from an origin, from each layer outwards. -/
theorem Site.returns_handed (site : Site W Req HttpResponse Args) (settings : Settings)
    {http : Http W Req} (hdocumented : http.Documented) (hlossless : http.Lossless decode)
    (django : Django W Req HttpResponse Args) (fast_mw : Bool) (MIDDLEWARE : List String)
    (request : Req) :
    Returns (django.onion
      (django.core ((site.with_hooks settings http).layers fast_mw MIDDLEWARE))
        ((site.with_hooks settings http).layers fast_mw MIDDLEWARE) request)
      (Handed decode ((site.with_hooks settings http).Origin django http fast_mw MIDDLEWARE
        request)) := by
  refine django.returns_onion ?_ ?_ ?_
  · exact fun e s response t herror => .of_origin (.error herror)
  · intro s returned t hview
    rintro sent rfl
    exact ⟨sent, .view hview, .refl decode sent⟩
  · intro before layer inside hlayers hinside
    obtain ⟨befores, rest, hkept, rfl, hrest⟩ := List.map_eq_append_iff.mp hlayers
    obtain ⟨path, insides, rfl, rfl, rfl⟩ := List.map_eq_cons_iff.mp hrest
    by_cases hpure : ∃ name, REGISTRY.lookup path = some name ∧ name.pure = true
    · obtain ⟨name, hname, hpure⟩ := hpure
      refine (site.with_hooks settings http).returns_registered hname ?_ ?_ hinside fast_mw _
      · exact returns_on_request site.builtins settings http hpure request
          fun _ _ => .redirect
      · intro given hgiven
        exact returns_on_response site.builtins settings hdocumented hlossless hpure request
          (fun _ _ => .redirect) .condition hgiven
    · intro s returned t hcall
      rintro sent rfl
      refine ⟨sent, .layer hkept (fun name hname => ?_) hcall, .refl decode sent⟩
      cases hflag : name.pure with
      | false => rfl
      | true => exact absurd ⟨name, hname, hflag⟩ hpure

theorem page_http_lossless : page_http.Lossless page_decode := by
  have hback (data : Bytes) : page_decode "gzip" (page_compress data) = some data := by
    unfold page_decode page_compress
    by_cases hpage : data = page
    · simp [hpage]
    · simp [hpage, page_gzipped]
  refine ⟨fun data _ => hback data, fun chunks _ => ?_, fun chunks _ => ?_⟩
  · rw [← hback chunks.flatten]
    simp [page_http]
  · rw [← hback chunks.flatten]
    simp [page_http]

theorem page_http_documented : page_http.Documented where
  header_value := fun _ htext => if_pos htext
  set_response_etag := by
    intro response
    by_cases hpage : response.body = .content page
    · exact Or.inr ⟨_, if_pos hpage⟩
    · exact Or.inl (if_neg hpage)
  patch_vary_headers := fun _ _ => ⟨_, rfl⟩
  get_conditional_response := fun _ _ _ _ => Or.inl rfl

end massless.middleware
