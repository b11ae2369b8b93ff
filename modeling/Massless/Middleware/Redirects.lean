import Massless.Middleware.Representation
import Massless.Middleware.Secured
import Massless.Transition.Rank
import Mathlib.Data.List.TakeWhile

open python
open transition

namespace massless.middleware

variable {W Req : Type} (settings : Settings) (http : Http W Req)

/-- Where a hook of `SecurityMiddleware` or `CommonMiddleware` redirects: one of the two hooks for
requests, or that for a response with status 404. -/
inductive Hook where
  | ssl
  | www
  | slash (not_found : HttpResponse) (hstatus : not_found.status_code = 404)

/-- The location of a redirect. -/
def location (outcome : Except Exc (Returned HttpResponse) × W) : Option String :=
  match outcome.1 with
  | .ok (.value response) => if response.status_code = 301 then response.get "Location" else none
  | _ => none

/-- The call of the hook for a request. -/
def Hook.call (request : Req) : Hook → Placed W (Returned HttpResponse)
  | .ssl => SecurityMiddleware.process_request settings http request
  | .www => CommonMiddleware.process_request settings http request
  | .slash not_found _ => CommonMiddleware.process_response settings http request (.value not_found)

/-- Where the hook, on the event loop or in a thread, redirects the request to, from a state of the
world. -/
def Hook.location (request : Req) (w : W) (is_on_loop : Bool) (hook : Hook) : Option String :=
  middleware.location ((hook.call settings http request).run is_on_loop w)

/-- A client that follows redirects. Each is from a hook of its own, in a world of its own: what
the client does not see may change between its requests. -/
def browse (follow : Req → String → Req) : Machine Req (W × Bool × Hook) where
  init := fun _ => True
  step := fun request (w, is_on_loop, hook) =>
    (hook.location settings http request w is_on_loop).map (follow request)

/-- The path of a redirect. -/
def redirect_path (request : Req) (with_slash : Bool) : String :=
  if with_slash then http.escape_leading_slashes (http.get_full_path request true)
  else http.get_full_path request false

/-- The path that the request for a redirect has. -/
def next_path (request : Req) (with_slash : Bool) : String :=
  if with_slash then http.path_info request ++ "/" else http.path_info request

/-- `HttpResponsePermanentRedirect` names the URL that it is made for, as `iri_to_uri` writes it. -/
def Http.Redirects (http : Http W Req) (iri_to_uri : String → String) : Prop :=
  ∀ redirect_to response, http.HttpResponsePermanentRedirect redirect_to = .ok response →
    response.get "Location" = some (iri_to_uri redirect_to)

/-- What a request for the location of a redirect says to the server, if it is let in: the scheme,
the host and the path of the URL. A proxy that takes `https` has to tell. A host is a text without
a slash, and a path that got one had none at its end. -/
structure Http.Followed (http : Http W Req) (iri_to_uri : String → String)
    (follow : Req → String → Req) : Prop where
  scheme : ∀ request, http.scheme request = "http" ∨ http.scheme request = "https"
  is_secure : ∀ request, http.is_secure request = decide (http.scheme request = "https")
  host : ∀ request host, http.get_host request = some host → '/' ∉ host.toList
  absolute : ∀ request scheme host with_slash, scheme = "http" ∨ scheme = "https" →
    '/' ∉ host.toList →
    (with_slash = true → (http.path_info request).toList.getLast? ≠ some '/') →
    let next := follow request (iri_to_uri
      (scheme ++ "://" ++ host ++ redirect_path http request with_slash))
    http.scheme next = scheme ∧ (∀ other, http.get_host next = some other → other = host) ∧
      http.path_info next = next_path http request with_slash
  relative : ∀ request, (http.path_info request).toList.getLast? ≠ some '/' →
    let next := follow request (iri_to_uri (redirect_path http request true))
    http.scheme next = http.scheme request ∧ http.get_host next = http.get_host request ∧
      http.path_info next = next_path http request true

/-- A redirect to `https` may go to a host without `www.`, and counts twice. -/
def insecure (request : Req) : Nat := if http.scheme request = "https" then 0 else 2

def lacks_www (request : Req) : Nat :=
  match http.get_host request with
  | some host => if "www.".toList <+: host.toList then 0 else 1
  | none => 0

def lacks_slash (request : Req) : Nat :=
  if (http.path_info request).toList.getLast? = some '/' then 0 else 1

/-- What is left to redirect for. -/
def left_to_redirect (request : Req) : Nat :=
  insecure http request + lacks_www http request + lacks_slash http request

theorem lacks_www_le (request : Req) : lacks_www http request ≤ 1 := by
  unfold lacks_www
  split
  · split <;> omega
  · omega

theorem left_to_redirect_le (request : Req) : left_to_redirect http request ≤ 4 := by
  have hwww := lacks_www_le http request
  have hinsecure : insecure http request ≤ 2 := by
    unfold insecure
    split <;> omega
  have hslash : lacks_slash http request ≤ 1 := by
    unfold lacks_slash
    split <;> omega
  unfold left_to_redirect
  omega

variable {settings http} {iri_to_uri : String → String} {follow : Req → String → Req}
  {request : Req} {w : W}

theorem location_of_returns {code : Py W (Returned HttpResponse)}
    {post : Returned HttpResponse → Prop} (hreturns : Returns code post) {redirect_to : String}
    (hlocation : location (code w) = some redirect_to) : ∃ response, post (.value response) ∧
      response.status_code = 301 ∧ response.get "Location" = some redirect_to := by
  rcases hrun : code w with ⟨outcome, t⟩
  rw [hrun] at hlocation
  unfold location at hlocation
  split at hlocation
  · rename_i response hreturned
    have houtcome : outcome = .ok (.value response) := hreturned
    rw [houtcome] at hrun
    split at hlocation
    · exact ⟨response, hreturns w _ t hrun, ‹_›, hlocation⟩
    · cases hlocation
  · cases hlocation

/-- A redirect of `SecurityMiddleware` is for a request that is not secure. -/
theorem SecurityMiddleware.returns_process_request :
    (process_request settings http request).Returns fun returned =>
      ∀ response, returned = .value response → http.is_secure request = false ∧
        ∃ host, destination settings http request = some host ∧
          http.HttpResponsePermanentRedirect
            ("https://" ++ host ++ redirect_path http request false) = .ok response := by
  unfold process_request
  split
  · rename_i hredirects
    have hinsecure : http.is_secure request = false := by
      simp only [redirects, Bool.and_eq_true, Bool.not_eq_true'] at hredirects
      exact hredirects.1.2
    have hhost : (redirect_host settings http request).Returns fun host =>
        destination settings http request = some host := by
      unfold redirect_host destination
      cases truthy_text settings.SECURE_SSL_HOST with
      | some host => exact .pure rfl
      | none =>
        unfold Http.host
        cases hget : http.get_host request with
        | some host => exact .pure rfl
        | none => exact .raise _ _
    refine hhost.bind fun host hdestination => ?_
    refine (Placed.Returns.lift fun response hmade => hmade).bind fun response hmade => .pure ?_
    rintro _ ⟨⟩
    exact ⟨hinsecure, host, hdestination, hmade⟩
  · refine .pure ?_
    rintro response ⟨⟩

namespace CommonMiddleware

theorem returns_should_redirect_with_slash :
    (should_redirect_with_slash settings http request).Returns fun redirects =>
      redirects = true → (http.path_info request).toList.getLast? ≠ some '/' := by
  unfold should_redirect_with_slash
  split
  · rename_i hslash
    exact (Placed.Returns.trivial _).imp fun _ _ _ => hslash.2
  · exact .pure nofun

theorem returns_get_full_path_with_slash :
    (get_full_path_with_slash settings http request).Returns fun path =>
      path = redirect_path http request true := by
  unfold get_full_path_with_slash
  dsimp only
  split
  · exact .last fun host => .raise _ _
  · exact .pure rfl

theorem returns_www_path (with_slash : Bool) :
    (www_path settings http request with_slash).Returns fun path =>
      path = redirect_path http request with_slash := by
  cases with_slash with
  | true => exact returns_get_full_path_with_slash
  | false => exact .pure rfl

/-- A redirect for a request goes to a host that gets `www.`, and with the slash that it lacks. -/
theorem returns_process_request :
    (process_request settings http request).Returns fun returned =>
      ∀ response, returned = .value response → ∃ host with_slash,
        http.get_host request = some host ∧ ¬"www.".toList <+: host.toList ∧
          (with_slash = true → (http.path_info request).toList.getLast? ≠ some '/') ∧
          http.HttpResponsePermanentRedirect (http.scheme request ++ "://www." ++ host ++
            redirect_path http request with_slash) = .ok response := by
  unfold process_request
  split
  · exact .raise _ _
  have hhost : (http.host request).Returns fun host => http.get_host request = some host := by
    unfold Http.host
    cases hget : http.get_host request with
    | some host => exact .pure rfl
    | none => exact .raise _ _
  refine hhost.bind fun host hget => ?_
  split
  · rename_i hwww
    refine returns_should_redirect_with_slash.bind fun with_slash hslash => ?_
    refine (returns_www_path with_slash).bind fun path hpath => ?_
    refine (Placed.Returns.lift fun response hmade => hmade).bind fun response hmade => .pure ?_
    rintro _ ⟨⟩
    rw [hpath] at hmade
    exact ⟨host, with_slash, hget, hwww.2.2, hslash, hmade⟩
  · refine .pure ?_
    rintro response ⟨⟩

/-- The length is all that is set. -/
theorem with_length_ok {response sent : HttpResponse}
    (hlength : with_length http response = .ok sent) : sent.status_code = response.status_code ∧
      sent.get "Location" = response.get "Location" := by
  unfold with_length at hlength
  split at hlength
  · obtain ⟨rfl, -⟩ | ⟨-, stored, -, rfl⟩ := HttpResponse.setdefault_ok hlength
    · exact ⟨rfl, rfl⟩
    · exact ⟨rfl, by rw [HttpResponse.get_set, if_neg (by decide)]⟩
  · obtain rfl := Except.ok.inj hlength
    exact ⟨rfl, rfl⟩

/-- A response with status 404 stays one, or is a redirect to the path with its slash. -/
theorem returns_process_response {not_found : HttpResponse}
    (hstatus : not_found.status_code = 404) :
    (process_response settings http request (.value not_found)).Returns fun returned =>
      ∀ response, returned = .value response → response.status_code = 404 ∨
        ((http.path_info request).toList.getLast? ≠ some '/' ∧ ∃ redirect,
          http.HttpResponsePermanentRedirect (redirect_path http request true) = .ok redirect ∧
            response.get "Location" = redirect.get "Location") := by
  have hlacks : (lacks_slash settings http request not_found).Returns fun redirects =>
      redirects = true → (http.path_info request).toList.getLast? ≠ some '/' := by
    rw [lacks_slash, if_pos hstatus]
    exact returns_should_redirect_with_slash
  have hredirected : (redirected_with_slash settings http request not_found).Returns fun response =>
      response.status_code = 404 ∨ ((http.path_info request).toList.getLast? ≠ some '/' ∧
        http.HttpResponsePermanentRedirect (redirect_path http request true) = .ok response) := by
    refine hlacks.bind fun with_slash hslash => ?_
    split
    · rename_i hredirects
      refine returns_get_full_path_with_slash.bind fun path hpath => .lift fun response hmade => ?_
      exact Or.inr ⟨hslash hredirects, hpath ▸ hmade⟩
    · exact .pure (Or.inl hstatus)
  apply returns_of_read
  rintro _ ⟨⟩
  refine hredirected.bind fun response hresponse => ?_
  refine (Placed.Returns.lift fun sent hlength => with_length_ok hlength).bind
    fun sent hsent => .pure ?_
  rintro _ ⟨⟩
  obtain ⟨hsame, hlocation⟩ := hsent
  obtain hkept | ⟨hslash, hmade⟩ := hresponse
  · exact Or.inl (hsame.trans hkept)
  · exact Or.inr ⟨hslash, response, hmade, hlocation⟩

end CommonMiddleware

/-- The redirects that a hook may send. -/
inductive Redirected (settings : Settings) (http : Http W Req) (iri_to_uri : String → String)
    (request : Req) : String → Prop where
  | ssl {host : String} (hinsecure : http.is_secure request = false)
    (hhost : SecurityMiddleware.destination settings http request = some host) :
    Redirected settings http iri_to_uri request (iri_to_uri
      ("https://" ++ host ++ redirect_path http request false))
  | www {host : String} {with_slash : Bool} (hget : http.get_host request = some host)
    (hwww : ¬"www.".toList <+: host.toList)
    (hslash : with_slash = true → (http.path_info request).toList.getLast? ≠ some '/') :
    Redirected settings http iri_to_uri request (iri_to_uri
      (http.scheme request ++ "://www." ++ host ++ redirect_path http request with_slash))
  | slash (hslash : (http.path_info request).toList.getLast? ≠ some '/') :
    Redirected settings http iri_to_uri request (iri_to_uri (redirect_path http request true))

theorem Hook.redirected (hredirects : http.Redirects iri_to_uri) {hook : Hook} {is_on_loop : Bool}
    {redirect_to : String}
    (hlocation : hook.location settings http request w is_on_loop = some redirect_to) :
    Redirected settings http iri_to_uri request redirect_to := by
  cases hook with
  | ssl =>
    obtain ⟨response, hresponse, -, hget⟩ := location_of_returns
      (SecurityMiddleware.returns_process_request.run is_on_loop) hlocation
    obtain ⟨hinsecure, host, hhost, hmade⟩ := hresponse response rfl
    rw [hredirects _ _ hmade] at hget
    rw [← Option.some.inj hget]
    exact .ssl hinsecure hhost
  | www =>
    obtain ⟨response, hresponse, -, hget⟩ := location_of_returns
      (CommonMiddleware.returns_process_request.run is_on_loop) hlocation
    obtain ⟨host, with_slash, hhost, hwww, hslash, hmade⟩ := hresponse response rfl
    rw [hredirects _ _ hmade] at hget
    rw [← Option.some.inj hget]
    exact .www hhost hwww hslash
  | slash not_found hstatus =>
    obtain ⟨response, hresponse, hmoved, hget⟩ := location_of_returns
      ((CommonMiddleware.returns_process_response hstatus).run is_on_loop) hlocation
    obtain hkept | ⟨hslash, redirect, hmade, hsame⟩ := hresponse response rfl
    · rw [hkept] at hmoved
      cases hmoved
    · rw [hsame, hredirects _ _ hmade] at hget
      rw [← Option.some.inj hget]
      exact .slash hslash

theorem lacks_slash_next {next : Req} {with_slash : Bool}
    (hpath : http.path_info next = next_path http request with_slash) :
    lacks_slash http next ≤ lacks_slash http request ∧
      (with_slash = true → lacks_slash http next = 0) := by
  cases with_slash with
  | false =>
    have hsame : http.path_info next = http.path_info request := hpath
    simp [lacks_slash, hsame]
  | true =>
    have hlonger : http.path_info next = http.path_info request ++ "/" := hpath
    have hzero : lacks_slash http next = 0 := by simp [lacks_slash, hlonger]
    exact ⟨by omega, fun _ => hzero⟩

theorem insecure_congr {next : Req} (hscheme : http.scheme next = http.scheme request) :
    insecure http next = insecure http request := by rw [insecure, insecure, hscheme]

/-- A redirect that is followed leaves less to redirect for. -/
theorem Redirected.lowers (hfollowed : http.Followed iri_to_uri follow)
    (hssl : ∀ host, settings.SECURE_SSL_HOST = some host → '/' ∉ host.toList)
    {redirect_to : String}
    (hredirected : Redirected settings http iri_to_uri request redirect_to) :
    left_to_redirect http (follow request redirect_to) < left_to_redirect http request := by
  unfold left_to_redirect
  cases hredirected with
  | @ssl host hinsecure hhost =>
    have htext : '/' ∉ host.toList := by
      rw [SecurityMiddleware.destination, Option.or_eq_some_iff] at hhost
      obtain hsetting | ⟨-, hget⟩ := hhost
      · exact hssl host (Option.eq_some_of_filter_eq_some hsetting)
      · exact hfollowed.host request host hget
    obtain ⟨hscheme, -, hpath⟩ := hfollowed.absolute request "https" host false (Or.inr rfl) htext
      nofun
    have hhttp : http.scheme request ≠ "https" := by
      have hdecide := hfollowed.is_secure request
      rw [hinsecure] at hdecide
      simpa using hdecide
    change left_to_redirect http (follow request (iri_to_uri
      ("https" ++ "://" ++ host ++ redirect_path http request false))) < _
    generalize follow request _ = next at hscheme hpath ⊢
    have hbefore : insecure http request = 2 := by rw [insecure, if_neg hhttp]
    have hafter : insecure http next = 0 := by rw [insecure, if_pos hscheme]
    have hwww := lacks_www_le http next
    have hslash := (lacks_slash_next hpath).1
    unfold left_to_redirect
    omega
  | @www host with_slash hget hwww hlast =>
    have htext : '/' ∉ ("www." ++ host).toList := by
      rw [String.toList_append, List.mem_append, not_or]
      exact ⟨by decide, hfollowed.host request host hget⟩
    obtain ⟨hscheme, hhost, hpath⟩ := hfollowed.absolute request (http.scheme request)
      ("www." ++ host) with_slash (hfollowed.scheme request) htext hlast
    have hlocation : http.scheme request ++ "://www." ++ host ++
          redirect_path http request with_slash =
        http.scheme request ++ "://" ++ ("www." ++ host) ++
          redirect_path http request with_slash := by
      have hwww : "://www." = "://" ++ "www." := by decide
      rw [hwww]
      simp only [String.append_assoc]
    rw [hlocation]
    generalize follow request _ = next at hscheme hhost hpath ⊢
    have hbefore : lacks_www http request = 1 := by
      rw [lacks_www, hget]
      exact if_neg hwww
    have hafter : lacks_www http next = 0 := by
      unfold lacks_www
      cases hnext : http.get_host next with
      | none => rfl
      | some other =>
        rw [hhost other hnext]
        exact if_pos (by rw [String.toList_append]; exact List.prefix_append _ _)
    have hslash := (lacks_slash_next hpath).1
    have hsecure := insecure_congr hscheme
    omega
  | slash hlast =>
    obtain ⟨hscheme, hhost, hpath⟩ := hfollowed.relative request hlast
    generalize follow request _ = next at hscheme hhost hpath ⊢
    have hbefore : lacks_slash http request = 1 := by rw [lacks_slash, if_neg hlast]
    have hafter := (lacks_slash_next hpath).2 rfl
    have hsecure := insecure_congr hscheme
    have hwww : lacks_www http next = lacks_www http request := by
      rw [lacks_www, lacks_www, hhost]
    omega

/-- `SecurityMiddleware` and `CommonMiddleware` send no client round in circles, under any
settings and with any URLconf, in whatever order their hooks come, where the server sees the
scheme and the host of a URL that it redirects to: of the redirects that a client follows, no more
than four come from them in a row. -/
theorem redirects_end (hredirects : http.Redirects iri_to_uri)
    (hfollowed : http.Followed iri_to_uri follow)
    (hssl : ∀ host, settings.SECURE_SSL_HOST = some host → '/' ∉ host.toList)
    {actions : List (W × Bool × Hook)} {first last : Req}
    {later : List (Req × (W × Bool × Hook))}
    (htrace : (browse settings http follow).trace first actions = some (later, last)) :
    actions.length + left_to_redirect http last ≤ left_to_redirect http first ∧
      actions.length ≤ 4 := by
  have hdown : ∀ {request : Req} {action : W × Bool × Hook} {next : Req},
      (browse settings http follow).step request action = some next →
        left_to_redirect http next < left_to_redirect http request := by
    intro request action next hstep
    obtain ⟨redirect_to, hlocation, rfl⟩ := Option.map_eq_some_iff.mp hstep
    exact (Hook.redirected hredirects hlocation).lowers hfollowed hssl
  have hlength := Machine.length_add_rank_le hdown htrace
  have hle := left_to_redirect_le http first
  exact ⟨hlength, by omega⟩

/-- A request, with what is behind the first slash of its path. -/
structure Visit where
  secure : Bool
  host : List Char
  rest : List Char
  host_text : '/' ∉ host
  rest_text : rest.head? ≠ some '/'

namespace Visit

theorem dropWhile_slash (chars : List Char) : (chars.dropWhile (· = '/')).head? ≠ some '/' := by
  intro hhead
  have hfalse := List.head?_dropWhile_not (· = '/') chars
  rw [hhead] at hfalse
  simp at hfalse

/-- The request for what follows `://` in a URL. -/
def at_url (secure : Bool) (chars : List Char) : Visit where
  secure := secure
  host := chars.takeWhile (· ≠ '/')
  rest := (chars.dropWhile (· ≠ '/')).dropWhile (· = '/')
  host_text := fun hmem => by simpa using List.mem_takeWhile_imp hmem
  rest_text := dropWhile_slash _

/-- The request for the location of a redirect. -/
def next (self : Visit) (location : String) : Visit :=
  if "https://".toList.isPrefixOf location.toList then at_url true (location.toList.drop 8)
  else if "http://".toList.isPrefixOf location.toList then at_url false (location.toList.drop 7)
  else { self with
    rest := location.toList.dropWhile (· = '/')
    rest_text := dropWhile_slash _ }

def path (self : Visit) : String := String.ofList ('/' :: self.rest)

end Visit

/-- A site that can be reached with its URLconf exchanged in between. -/
def visit_http : Http (Option String) Visit :=
  { method := fun _ => "GET"
    scheme := fun visit => if visit.secure then "https" else "http"
    is_secure := Visit.secure
    get_host := fun visit => some (String.ofList visit.host)
    path := Visit.path
    path_info := Visit.path
    get_full_path := fun visit with_slash => visit.path ++
      if with_slash ∧ visit.path.toList.getLast? ≠ some '/' then "/" else ""
    META := fun _ _ => none
    urlconf := fun _ urlconf => urlconf
    is_valid_path := fun path urlconf =>
      let served := if urlconf = some "shop.urls" then "/cart/" else "/cart"
      pure (if path = served then some true else none)
    escape_leading_slashes := fun url =>
      if "//".toList.isPrefixOf url.toList then "/%2F" ++ String.ofList (url.toList.drop 2) else url
    HttpResponsePermanentRedirect := fun redirect_to => .ok (moved_to redirect_to)
    header_value := some
    get_conditional_response := fun _ _ _ response => response
    set_response_etag := id
    patch_vary_headers := fun response _ => response
    parse_http_date_safe := fun _ => none
    cc_delim_split := fun value => [value]
    is_word := Char.isAlphanum
    compress_string := Prod.mk
    compress_sequence := Prod.mk
    acompress_sequence := Prod.mk }

theorem visit_redirect_path (visit : Visit) {with_slash : Bool}
    (hslash : with_slash = true → visit.path.toList.getLast? ≠ some '/') :
    redirect_path visit_http visit with_slash =
      String.ofList ('/' :: (visit.rest ++ if with_slash then ['/'] else [])) := by
  cases with_slash with
  | false => simp [redirect_path, visit_http, Visit.path]
  | true =>
    have hlast := hslash rfl
    have hrest : visit.rest ≠ [] := by
      intro hempty
      simp [Visit.path, hempty] at hlast
    obtain ⟨first, others, hcons⟩ := List.exists_cons_of_ne_nil hrest
    have hfirst : first ≠ '/' := by
      have htext := visit.rest_text
      simpa [hcons] using htext
    have hfull : visit_http.get_full_path visit true =
        String.ofList ('/' :: (visit.rest ++ ['/'])) := by
      have happended : visit_http.get_full_path visit true = visit.path ++ "/" := by
        simp [visit_http, hlast]
      rw [happended, ← String.toList_inj]
      simp [Visit.path]
    rw [redirect_path, if_pos rfl, hfull, if_pos rfl]
    simp [visit_http, hcons, Ne.symm hfirst]

theorem dropWhile_slash_eq {rest : List Char} (hrest : rest.head? ≠ some '/') :
    rest.dropWhile (· = '/') = rest := by
  cases rest with
  | nil => rfl
  | cons c rest => exact List.dropWhile_cons_of_neg (by simpa using hrest)

theorem visit_at_url (secure : Bool) {host rest : List Char} (hhost : '/' ∉ host)
    (hrest : rest.head? ≠ some '/') :
    (Visit.at_url secure (host ++ '/' :: rest)).host = host ∧
      (Visit.at_url secure (host ++ '/' :: rest)).rest = rest := by
  have hall : ∀ c ∈ host, decide (c ≠ '/') = true := by
    intro c hc
    simp only [ne_eq, decide_eq_true_eq]
    rintro rfl
    exact hhost hc
  have hkept := dropWhile_slash_eq hrest
  simp only [Visit.at_url, List.takeWhile_append_of_pos hall, List.dropWhile_append_of_pos hall]
  simp [hkept]

theorem visit_rest_text (visit : Visit) {with_slash : Bool}
    (hslash : with_slash = true → visit.path.toList.getLast? ≠ some '/') :
    (visit.rest ++ if with_slash then ['/'] else []).head? ≠ some '/' := by
  have htext := visit.rest_text
  cases hrest : visit.rest with
  | nil =>
    cases with_slash with
    | false => simp
    | true => simp [Visit.path, hrest] at hslash
  | cons first others => simpa [hrest] using htext

theorem visit_next_path (visit next : Visit) {with_slash : Bool}
    (hnext : next.rest = visit.rest ++ if with_slash then ['/'] else []) :
    visit_http.path_info next = next_path visit_http visit with_slash := by
  rw [← String.toList_inj]
  cases with_slash <;> simp [next_path, visit_http, Visit.path, hnext]

theorem visit_redirects : visit_http.Redirects id := by
  rintro redirect_to _ ⟨⟩
  rw [HttpResponse.get, moved_to, massless.response.Headers.get?_set, if_pos rfl, id_eq]

/-- A browser reads back what the redirects say. -/
theorem visit_followed : visit_http.Followed id Visit.next where
  scheme := by
    intro visit
    cases hsecure : visit.secure <;> simp [visit_http, hsecure]
  is_secure := by
    intro visit
    cases hsecure : visit.secure <;> simp [visit_http, hsecure]
  host := by
    rintro visit host ⟨⟩
    simpa using visit.host_text
  absolute := by
    intro visit scheme host with_slash hscheme hhost hslash
    have hrest := visit_rest_text visit hslash
    have hnext : visit.next (id
        (scheme ++ "://" ++ host ++ redirect_path visit_http visit with_slash)) =
          .at_url (scheme = "https")
            (host.toList ++ '/' :: (visit.rest ++ if with_slash then ['/'] else [])) := by
      rw [visit_redirect_path visit hslash]
      obtain rfl | rfl := hscheme <;> simp [Visit.next]
    obtain ⟨hhost_eq, hrest_eq⟩ := visit_at_url (scheme = "https") hhost hrest
    rw [hnext]
    refine ⟨?_, ?_, visit_next_path visit _ hrest_eq⟩
    · obtain rfl | rfl := hscheme <;> rfl
    · rintro other ⟨⟩
      rw [hhost_eq, String.ofList_toList]
  relative := by
    intro visit hlast
    have hrest : (visit.rest ++ ['/']).head? ≠ some '/' :=
      @visit_rest_text visit true fun _ => hlast
    have hkept := dropWhile_slash_eq hrest
    have hnext : visit.next (id (redirect_path visit_http visit true)) =
        { visit with rest := visit.rest ++ ['/'], rest_text := hrest } := by
      rw [visit_redirect_path visit fun _ => hlast]
      simp [Visit.next, hkept]
    rw [hnext]
    exact ⟨rfl, rfl, visit_next_path visit _ rfl⟩

def cart : Visit where
  secure := false
  host := "shop.example".toList
  rest := "cart".toList
  host_text := by decide
  rest_text := by decide

def cart_settings : Settings :=
  { page_settings with
    SECURE_SSL_REDIRECT := true
    SECURE_SSL_HOST := some "secure.example"
    PREPEND_WWW := true }

/-- To `www.`, to `https` on a host without it, to `www.` again, and to the path with a slash once
the URLconf is another. -/
def cart_redirects : List (Option String × Bool × Hook) :=
  [(none, true, .www), (none, true, .ssl), (none, false, .www),
    (some "shop.urls", true, .slash { page_response with status_code := 404 } rfl)]

/-- Four redirects in a row are possible. -/
theorem redirects_end_cart : ∃ later last,
    (browse cart_settings visit_http Visit.next).trace cart cart_redirects = some (later, last) ∧
      cart_redirects.length + left_to_redirect visit_http last ≤ left_to_redirect visit_http cart ∧
      cart_redirects.length ≤ 4 := by
  have hsome : ((browse cart_settings visit_http Visit.next).trace cart cart_redirects).isSome =
      true := by decide +kernel
  obtain ⟨⟨later, last⟩, htrace⟩ := Option.isSome_iff_exists.mp hsome
  have hssl : ∀ host, cart_settings.SECURE_SSL_HOST = some host → '/' ∉ host.toList := by
    rintro host ⟨⟩
    decide
  exact ⟨later, last, htrace, redirects_end visit_redirects visit_followed hssl htrace⟩

end massless.middleware
