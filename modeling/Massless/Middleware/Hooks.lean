import Massless.Chain.Builtins
import Massless.Middleware.Headers
import Massless.Python.Returns
import Massless.Response.Framing

open python
open massless.chain

namespace massless.middleware

open massless.response (FieldText)

/-- What a response carries: the bytes of `content`, or the chunks that `streaming_content`
will yield. -/
inductive Body where
  | content (data : Bytes)
  | streaming_content (is_async : Bool) (chunks : List Bytes)
  deriving DecidableEq

/-- A Django response. A cookie is the `OutputString()` of its morsel. -/
structure HttpResponse where
  status_code : Nat
  reason_phrase : String
  headers : response.Headers
  cookies : List String
  body : Body
  xframe_options_exempt : Bool

namespace HttpResponse

/-- `response.get(name)` -/
def get (self : HttpResponse) (name : String) : Option String := self.headers.get? name

/-- `response.has_header(name)` -/
def has_header (self : HttpResponse) (name : String) : Bool := (self.get name).isSome

/-- `response.headers[name] = value` -/
def set (self : HttpResponse) (name value : String) : HttpResponse :=
  { self with headers := self.headers.set name value }

/-- `response.streaming` -/
def streaming (self : HttpResponse) : Bool :=
  match self.body with
  | .content _ => false
  | .streaming_content _ _ => true

end HttpResponse

/-- `SECURE_REFERRER_POLICY`: a text, or an iterable of texts. -/
inductive ReferrerPolicy where
  | text (value : String)
  | many (values : List String)

/-- The settings that the classes read. A regular expression is the test that its `search`
makes. -/
structure Settings where
  X_FRAME_OPTIONS : Option String
  SECURE_HSTS_SECONDS : Int
  SECURE_HSTS_INCLUDE_SUBDOMAINS : Bool
  SECURE_HSTS_PRELOAD : Bool
  SECURE_CONTENT_TYPE_NOSNIFF : Bool
  SECURE_SSL_REDIRECT : Bool
  SECURE_SSL_HOST : Option String
  SECURE_REDIRECT_EXEMPT : List (String → Bool)
  SECURE_REFERRER_POLICY : Option ReferrerPolicy
  SECURE_CROSS_ORIGIN_OPENER_POLICY : Option String
  DISALLOWED_USER_AGENTS : List (String → Bool)
  PREPEND_WWW : Bool
  APPEND_SLASH : Bool
  DEBUG : Bool

/-- What the hooks call of Django and of the request. `get_host` is `none` where it raises
`DisallowedHost`, `header_value` is the text that a header keeps of a value and `none` where that
raises `BadHeaderError`, and `is_valid_path` is the `should_append_slash` of the view that the path
resolves to. The length of the padding that `compress_string` draws is part of the world. -/
structure Http (W Req : Type) where
  method : Req → String
  scheme : Req → String
  is_secure : Req → Bool
  get_host : Req → Option String
  path : Req → String
  path_info : Req → String
  get_full_path : Req → (force_append_slash : Bool) → String
  META : Req → String → Option String
  urlconf : Req → W → Option String
  is_valid_path : String → (urlconf : Option String) → Placed W (Option Bool)
  escape_leading_slashes : String → String
  HttpResponsePermanentRedirect : (redirect_to : String) → Except Exc HttpResponse
  header_value : String → Option String
  get_conditional_response : Req → (etag : Option String) → (last_modified : Option Int) →
    HttpResponse → HttpResponse
  set_response_etag : HttpResponse → HttpResponse
  patch_vary_headers : HttpResponse → (newheaders : List String) → HttpResponse
  parse_http_date_safe : String → Option Int
  cc_delim_split : String → List String
  is_word : Char → Bool
  compress_string : Bytes → W → Bytes × W
  compress_sequence : List Bytes → W → List Bytes × W
  acompress_sequence : List Bytes → W → List Bytes × W

variable {W Req : Type}

/-- `value` where it is true. -/
def truthy_text (value : Option String) : Option String := value.filter (· ≠ "")

/-- `text.upper()` for an ASCII text. -/
def upper_str (text : String) : String := String.ofList (text.toList.map Char.toUpper)

/-- An attribute of a response, which neither `None` nor a coroutine has. -/
def read_attr (name : String) : Returned HttpResponse → Placed W HttpResponse
  | .value response => pure response
  | _ => Placed.raise (.AttributeError name)

/-- `request.get_host()` -/
def Http.host (http : Http W Req) (request : Req) : Placed W String :=
  match http.get_host request with
  | some host => pure host
  | none => Placed.raise (.other "DisallowedHost")

def BadHeaderError : Exc := .other "BadHeaderError"

/-- `response.headers[name] = value` -/
def Http.set_header (http : Http W Req) (response : HttpResponse) (name value : String) :
    Except Exc HttpResponse :=
  match http.header_value value with
  | some stored => .ok (response.set name stored)
  | none => .error BadHeaderError

/-- `response.headers.setdefault(name, value)` -/
def Http.setdefault (http : Http W Req) (response : HttpResponse) (name value : String) :
    Except Exc HttpResponse :=
  if response.has_header name then .ok response else http.set_header response name value

namespace XFrameOptionsMiddleware

def x_frame_options (settings : Settings) : String :=
  upper_str (settings.X_FRAME_OPTIONS.getD "DENY")

def process_response (settings : Settings) (http : Http W Req)
    (response : Returned HttpResponse) : Placed W (Returned HttpResponse) := do
  let response ← read_attr "get" response
  if response.has_header "X-Frame-Options" then pure (.value response)
  else if response.xframe_options_exempt then pure (.value response)
  else do
    let response ← Placed.lift
      (http.set_header response "X-Frame-Options" (x_frame_options settings))
    pure (.value response)

end XFrameOptionsMiddleware

namespace SecurityMiddleware

variable (settings : Settings) (http : Http W Req)

/-- The test of `process_request`. -/
def redirects (request : Req) : Bool :=
  let path := String.ofList ((http.path request).toList.dropWhile (· = '/'))
  settings.SECURE_SSL_REDIRECT && !http.is_secure request &&
    !settings.SECURE_REDIRECT_EXEMPT.any fun pattern => pattern path

/-- `self.redirect_host or request.get_host()` -/
def redirect_host (request : Req) : Placed W String :=
  match truthy_text settings.SECURE_SSL_HOST with
  | some host => pure host
  | none => http.host request

def process_request (request : Req) : Placed W (Returned HttpResponse) :=
  if redirects settings http request then do
    let host ← redirect_host settings http request
    let response ← Placed.lift
      (http.HttpResponsePermanentRedirect ("https://" ++ host ++ http.get_full_path request false))
    pure (.value response)
  else pure .none

def sts_header : String :=
  "max-age=" ++ toString settings.SECURE_HSTS_SECONDS ++
    (if settings.SECURE_HSTS_INCLUDE_SUBDOMAINS then "; includeSubDomains" else "") ++
    (if settings.SECURE_HSTS_PRELOAD then "; preload" else "")

def nosniff : Option String :=
  if settings.SECURE_CONTENT_TYPE_NOSNIFF then some "nosniff" else none

def referrer_policy : Option String :=
  match settings.SECURE_REFERRER_POLICY with
  | none => none
  | some (.text value) =>
    let values := (value.toList.splitOn ',').map fun v => String.ofList (strip v)
    if value = "" then none else some (",".intercalate values)
  | some (.many values) => if values = [] then none else some (",".intercalate values)

/-- `"Strict-Transport-Security" not in response` raises `TypeError` on what is no response. -/
def strict_transport (request : Req) (response : Returned HttpResponse) :
    Placed W (Returned HttpResponse) :=
  if settings.SECURE_HSTS_SECONDS ≠ 0 ∧ http.is_secure request = true then
    match response with
    | .value response => do
      let response ← Placed.lift
        (http.setdefault response "Strict-Transport-Security" (sts_header settings))
      pure (.value response)
    | _ => Placed.raise TypeError
  else pure response

/-- A header that is set unless the response has it, where the setting is on. -/
def set_default (name attr : String) (value : Option String) (response : Returned HttpResponse) :
    Placed W (Returned HttpResponse) :=
  match value with
  | some value => do
    let response ← read_attr attr response
    let response ← Placed.lift (http.setdefault response name value)
    pure (.value response)
  | none => pure response

def process_response (request : Req) (response : Returned HttpResponse) :
    Placed W (Returned HttpResponse) := do
  let response ← strict_transport settings http request response
  let response ← set_default http "X-Content-Type-Options" "headers" (nosniff settings) response
  let response ← set_default http "Referrer-Policy" "headers" (referrer_policy settings) response
  set_default http "Cross-Origin-Opener-Policy" "setdefault"
    (truthy_text settings.SECURE_CROSS_ORIGIN_OPENER_POLICY) response

end SecurityMiddleware

namespace ConditionalGetMiddleware

variable (http : Http W Req)

def needs_etag (response : HttpResponse) : Bool :=
  (http.cc_delim_split ((response.get "Cache-Control").getD "")).all fun header =>
    lower_str header ≠ "no-store"

/-- The response with the tag that it needs. -/
def tagged (response : HttpResponse) : HttpResponse :=
  if needs_etag http response && !response.has_header "ETag" then http.set_response_etag response
  else response

def process_response (request : Req) (response : Returned HttpResponse) :
    Placed W (Returned HttpResponse) :=
  if http.method request ≠ "GET" then pure response
  else do
    let response ← read_attr "get" response
    let response := tagged http response
    let etag := response.get "ETag"
    let last_modified :=
      (truthy_text (response.get "Last-Modified")).bind http.parse_http_date_safe
    if (truthy_text etag).isSome ∨ (last_modified.filter (· ≠ 0)).isSome then
      pure (.value (http.get_conditional_response request etag last_modified response))
    else pure (.value response)

end ConditionalGetMiddleware

namespace CommonMiddleware

variable (settings : Settings) (http : Http W Req)

/-- `_should_redirect_with_slash` -/
def should_redirect_with_slash (request : Req) : Placed W Bool :=
  if settings.APPEND_SLASH ∧ (http.path_info request).toList.getLast? ≠ some '/' then do
    let urlconf ← Placed.gets (http.urlconf request)
    let valid ← http.is_valid_path (http.path_info request) urlconf
    match valid with
    | some _ => pure false
    | none => do
      let found ← http.is_valid_path (http.path_info request ++ "/") urlconf
      pure (found.getD false)
  else pure false

/-- `_get_full_path_with_slash` -/
def get_full_path_with_slash (request : Req) : Placed W String :=
  let new_path := http.escape_leading_slashes (http.get_full_path request true)
  if settings.DEBUG ∧ http.method request ∈ ["DELETE", "POST", "PUT", "PATCH"] then do
    -- the message of the error names the host
    let _ ← http.host request
    Placed.raise (.other "RuntimeError")
  else pure new_path

/-- The path of the redirect to `www.`. -/
def www_path (request : Req) (with_slash : Bool) : Placed W String :=
  if with_slash then get_full_path_with_slash settings http request
  else pure (http.get_full_path request false)

def disallowed (request : Req) : Bool :=
  match http.META request "HTTP_USER_AGENT" with
  | some user_agent => settings.DISALLOWED_USER_AGENTS.any fun regex => regex user_agent
  | none => false

def process_request (request : Req) : Placed W (Returned HttpResponse) := do
  if disallowed settings http request then Placed.raise (.other "PermissionDenied")
  else do
    let host ← http.host request
    if settings.PREPEND_WWW ∧ host ≠ "" ∧ ¬"www.".toList <+: host.toList then do
      let with_slash ← should_redirect_with_slash settings http request
      let path ← www_path settings http request with_slash
      let response ← Placed.lift
        (http.HttpResponsePermanentRedirect (http.scheme request ++ "://www." ++ host ++ path))
      pure (.value response)
    else pure .none

/-- The response with the length of its content. -/
def with_length (response : HttpResponse) : Except Exc HttpResponse :=
  match response.body with
  | .content data => http.setdefault response "Content-Length" (toString data.length)
  | .streaming_content _ _ => .ok response

/-- The test of `process_response`. -/
def lacks_slash (request : Req) (response : HttpResponse) : Placed W Bool :=
  if response.status_code = 404 then should_redirect_with_slash settings http request
  else pure false

/-- The redirect in place of a response that it is made for, and any other one as it is. -/
def redirected_with_slash (request : Req) (response : HttpResponse) : Placed W HttpResponse := do
  let with_slash ← lacks_slash settings http request response
  if with_slash then do
    let redirect_to ← get_full_path_with_slash settings http request
    Placed.lift (http.HttpResponsePermanentRedirect redirect_to)
  else pure response

def process_response (request : Req) (response : Returned HttpResponse) :
    Placed W (Returned HttpResponse) := do
  let response ← read_attr "status_code" response
  let response ← redirected_with_slash settings http request response
  let response ← Placed.lift (with_length http response)
  pure (.value response)

end CommonMiddleware

namespace GZipMiddleware

variable (http : Http W Req)

/-- A match of `\bgzip\b` in a text that follows the character `before`. -/
def search_gzip (is_word : Char → Bool) : Option Char → List Char → Bool
  | _, [] => false
  | before, c :: rest =>
    (!before.any is_word && "gzip".toList.isPrefixOf (c :: rest) &&
      !((c :: rest).drop 4).head?.any is_word) || search_gzip is_word (some c) rest

/-- The response with its tag made weak. -/
def weakened (response : HttpResponse) : Except Exc HttpResponse :=
  match response.get "ETag" with
  | some etag =>
    if etag.toList.head? = some '"' then http.set_header response "ETag" ("W/" ++ etag)
    else .ok response
  | none => .ok response

/-- The headers that tell that the body is compressed. -/
def marked (response : HttpResponse) : Except Exc HttpResponse := do
  let response ← weakened http response
  http.set_header response "Content-Encoding" "gzip"

/-- The response with its body compressed, where that makes it shorter. -/
def compressed (response : HttpResponse) : Placed W HttpResponse :=
  match response.body with
  | .streaming_content is_async chunks => do
    let chunks ← Placed.draw (if is_async then http.acompress_sequence chunks
      else http.compress_sequence chunks)
    Placed.lift (marked http { response with
      body := .streaming_content is_async chunks
      headers := response.headers.erase "Content-Length" })
  | .content data => do
    let compressed_content ← Placed.draw (http.compress_string data)
    if data.length ≤ compressed_content.length then pure response
    else do
      let response ← Placed.lift (http.set_header
        { response with body := .content compressed_content } "Content-Length"
        (toString compressed_content.length))
      Placed.lift (marked http response)

/-- The body is too short to be compressed. -/
def is_short (response : HttpResponse) : Bool :=
  match response.body with
  | .content data => data.length < 200
  | .streaming_content _ _ => false

def process_response (request : Req) (response : Returned HttpResponse) :
    Placed W (Returned HttpResponse) := do
  let response ← read_attr "streaming" response
  if is_short response then pure (.value response)
  else if response.has_header "Content-Encoding" then pure (.value response)
  else do
    let response := http.patch_vary_headers response ["Accept-Encoding"]
    let ae := (http.META request "HTTP_ACCEPT_ENCODING").getD ""
    if search_gzip http.is_word none ae.toList then do
      let response ← compressed http response
      pure (.value response)
    else pure (.value response)

end GZipMiddleware

/-- The registered classes with these bodies of the hooks. -/
def Builtins.with_hooks {Args : Type} (self : Builtins W Req HttpResponse Args)
    (settings : Settings) (http : Http W Req) : Builtins W Req HttpResponse Args :=
  { self with
    xframe_process_response := fun _ => XFrameOptionsMiddleware.process_response settings http
    security_process_request := SecurityMiddleware.process_request settings http
    security_process_response := SecurityMiddleware.process_response settings http
    conditional_get_process_response := ConditionalGetMiddleware.process_response http
    common_process_request := CommonMiddleware.process_request settings http
    common_process_response := CommonMiddleware.process_response settings http
    gzip_process_response := GZipMiddleware.process_response http }

/-- The site with these bodies of the hooks. -/
def Site.with_hooks {Args : Type} (site : Site W Req HttpResponse Args) (settings : Settings)
    (http : Http W Req) : Site W Req HttpResponse Args :=
  { site with builtins := site.builtins.with_hooks settings http }

/-- A page of 200 letters, which `gzip` makes shorter. -/
def page : Bytes := List.replicate 200 97

def page_gzipped : Bytes :=
  [31, 139, 8, 0, 0, 0, 0, 0, 0, 255, 75, 76, 28, 30, 0, 0, 88, 240, 154, 89, 200, 0, 0, 0]

/-- `gzip` on that page, and a mark in front of anything else. -/
def page_compress (data : Bytes) : Bytes := if data = page then page_gzipped else 1 :: data

/-- A client that knows both. -/
def page_decode (coding : String) (data : Bytes) : Option Bytes :=
  if coding = "gzip" then if data = page_gzipped then some page else data.tail? else none

/-- A redirect with an empty page. -/
def moved_to (redirect_to : String) : HttpResponse where
  status_code := 301
  reason_phrase := "Moved Permanently"
  headers := (⟨[("Content-Type", "text/html; charset=utf-8")], List.nodup_singleton _⟩ :
    response.Headers).set "Location" redirect_to
  cookies := []
  body := .content []
  xframe_options_exempt := false

/-- A request for the page from a client that takes `gzip`. -/
def page_http : Http Unit Unit where
  method := fun _ => "GET"
  scheme := fun _ => "http"
  is_secure := fun _ => false
  get_host := fun _ => some "example.com"
  path := fun _ => "/page/"
  path_info := fun _ => "/page/"
  get_full_path := fun _ _ => "/page/"
  META := fun _ name => if name = "HTTP_ACCEPT_ENCODING" then some "gzip" else none
  urlconf := fun _ _ => none
  is_valid_path := fun path _ => pure (if path = "/page/" then some true else none)
  escape_leading_slashes := id
  HttpResponsePermanentRedirect := fun redirect_to => .ok (moved_to redirect_to)
  header_value := fun value => if FieldText 256 value then some value else none
  get_conditional_response := fun _ _ _ response => response
  set_response_etag := fun response =>
    if response.body = .content page then
      response.set "ETag" "\"887f30b43b2867f4a9accceee7d16e6c\"" else response
  patch_vary_headers := fun response newheaders =>
    response.set "Vary" (", ".intercalate ((response.get "Vary").toList ++ newheaders))
  parse_http_date_safe := fun _ => none
  cc_delim_split := fun value => [value]
  is_word := Char.isAlphanum
  compress_string := fun data w => (page_compress data, w)
  compress_sequence := fun chunks w => ([page_compress chunks.flatten], w)
  acompress_sequence := fun chunks w => ([page_compress chunks.flatten], w)

def page_settings : Settings where
  X_FRAME_OPTIONS := none
  SECURE_HSTS_SECONDS := 0
  SECURE_HSTS_INCLUDE_SUBDOMAINS := false
  SECURE_HSTS_PRELOAD := false
  SECURE_CONTENT_TYPE_NOSNIFF := true
  SECURE_SSL_REDIRECT := false
  SECURE_SSL_HOST := none
  SECURE_REDIRECT_EXEMPT := []
  SECURE_REFERRER_POLICY := some (.text "same-origin")
  SECURE_CROSS_ORIGIN_OPENER_POLICY := some "same-origin"
  DISALLOWED_USER_AGENTS := []
  PREPEND_WWW := false
  APPEND_SLASH := true
  DEBUG := false

def page_response : HttpResponse where
  status_code := 200
  reason_phrase := "OK"
  headers := ⟨[("Content-Type", "text/html; charset=utf-8")], List.nodup_singleton _⟩
  cookies := []
  body := .content page
  xframe_options_exempt := false

/-- A site whose only view answers with the page. -/
def page_django : Django Unit Unit HttpResponse Unit where
  catches := fun _ => true
  response_for_exception := fun _ _ => pure { page_response with status_code := 500 }
  set_urlconf := pure ()
  resolve_request := fun _ => pure ⟨⟨true, fun _ => pure (.value page_response)⟩, ()⟩
  make_view_atomic := .ok
  render := fun _ => none
  close_with := fun _ _ => pure ()
  status_code := HttpResponse.status_code
  log_response := fun _ _ => pure ()

/-- A site without sessions and messages, and with nothing else to import. -/
def page_site : Site Unit Unit HttpResponse Unit where
  builtins :=
    { xframe_process_response := fun _ response => pure response
      security_process_request := fun _ => pure .none
      security_process_response := fun _ response => pure response
      conditional_get_process_response := fun _ response => pure response
      common_process_request := fun _ => pure .none
      common_process_response := fun _ response => pure response
      gzip_process_response := fun _ response => pure response
      sessions :=
        { SESSION_SAVE_EVERY_REQUEST := false
          process_request := fun _ => pure ()
          flags := fun _ => pure ⟨false, false, true⟩
          in_cookies := fun _ => pure false
          get_expire_at_browser_close := fun _ => pure false
          aget_expire_at_browser_close := fun _ => pure false
          get_expiry_age := fun _ => pure 0
          aget_expiry_age := fun _ => pure 0
          save := fun _ => pure ()
          asave := fun _ => pure ()
          http_date := fun _ => pure ""
          status_code := fun _ => pure 200
          delete_cookie := fun _ => pure ()
          set_cookie := fun _ _ _ => pure ()
          patch_vary_headers := fun _ => pure () }
      authentication_process_request := fun _ => pure .none
      messages := ⟨false, fun _ => pure (), fun _ => pure none⟩
      csrf_process_request := fun _ => pure .none
      csrf_process_view := fun _ => pure .none
      csrf_process_response := fun _ response => pure response }
  other := fun path => stock_middleware path ⟨none, none, none⟩

/-- What the site sends for a list of classes. -/
def page_sent (MIDDLEWARE : List String) : Option HttpResponse :=
  match ((page_site.with_hooks page_settings page_http).run true MIDDLEWARE page_django () ()).1 with
  | .ok sent => some sent
  | .error _ => none

theorem run_of_page_sent {MIDDLEWARE : List String} {sent : HttpResponse}
    (hsent : page_sent MIDDLEWARE = some sent) :
    (page_site.with_hooks page_settings page_http).run true MIDDLEWARE page_django () () =
      (.ok sent, ()) := by
  unfold page_sent at hsent
  split at hsent
  · rename_i hrun
    cases hsent
    exact Prod.ext hrun rfl
  · cases hsent

end massless.middleware
