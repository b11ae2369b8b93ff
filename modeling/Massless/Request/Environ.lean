import Massless.Request.Core

open python

namespace massless.request

/-- A key of the environ that comes from a header. -/
def HeaderKey (key : String) : Prop := key = "CONTENT_TYPE" ∨ "HTTP_".toList <+: key.toList

instance (key : String) : Decidable (HeaderKey key) := inferInstanceAs (Decidable (_ ∨ _))

/-- The environ before the headers are folded in. -/
def RequestCore.request_vars (self : RequestCore) (urllib : Urllib) : Dict String String :=
  Dict.empty
    |>.set "PATH_INFO" ((self.wsgi_path urllib).getD "")
    |>.set "QUERY_STRING" (decode_latin1 self.query)
    |>.set "SERVER_PROTOCOL" "HTTP/1.1"
    |>.set "wsgi.url_scheme" "http"
    |>.set "CONTENT_LENGTH" (toString self.body.length)

/-- The environ with the headers. -/
def RequestCore.header_vars (self : RequestCore) (urllib : Urllib) : Dict String String :=
  let collected := self.headers.foldl collect_header .empty
  let environ := match collected.get? "HTTP_COOKIE" with
    | some cookies => (self.request_vars urllib).set "HTTP_COOKIE" ("; ".intercalate cookies)
    | none => self.request_vars urllib
  (collected.erase "HTTP_COOKIE").entries.foldl
    (fun d entry => d.set entry.1 (",".intercalate entry.2)) environ

theorem header_key_isHeaderKey (name : String) : HeaderKey (header_key name) := by
  right
  rw [header_key, String.toList_append]
  exact List.prefix_append _ _

theorem collect_header_keys {collected : Dict String (List String)} (header : Bytes × Bytes)
    (hkeys : ∀ key ∈ collected.entries.map Prod.fst, HeaderKey key) :
    ∀ key ∈ (collect_header collected header).entries.map Prod.fst, HeaderKey key := by
  intro key hkey
  unfold collect_header at hkey
  dsimp only at hkey
  split at hkey
  · exact hkeys key hkey
  · split at hkey
    · exact hkeys key hkey
    · obtain rfl | hold := mem_keys_setEntries hkey
      · split
        · exact .inl rfl
        · exact header_key_isHeaderKey _
      · exact hkeys key hold

theorem collected_keys (headers : List (Bytes × Bytes)) :
    ∀ key ∈ (headers.foldl collect_header .empty).entries.map Prod.fst, HeaderKey key := by
  have hfold : ∀ collected : Dict String (List String),
      (∀ key ∈ collected.entries.map Prod.fst, HeaderKey key) →
      ∀ key ∈ (headers.foldl collect_header collected).entries.map Prod.fst, HeaderKey key := by
    induction headers with
    | nil => exact fun collected hkeys => hkeys
    | cons header later ih =>
      exact fun collected hkeys => ih _ (collect_header_keys header hkeys)
  exact hfold .empty (by simp [Dict.empty])

theorem get?_foldl_other {V W : Type} (value : V → W) {entries : List (String × V)} {query : String}
    (hquery : ∀ entry ∈ entries, entry.1 ≠ query) (environ : Dict String W) :
    (entries.foldl (fun d entry => d.set entry.1 (value entry.2)) environ).get? query =
      environ.get? query := by
  induction entries generalizing environ with
  | nil => rfl
  | cons entry later ih =>
    rw [List.forall_mem_cons] at hquery
    rw [List.foldl_cons, ih hquery.2, Dict.get?_set, if_neg hquery.1.symm]

/-- Headers only reach the entries under their own keys. -/
theorem RequestCore.get?_header_vars (self : RequestCore) (urllib : Urllib) {name : String}
    (hname : ¬HeaderKey name) :
    (self.header_vars urllib).get? name = (self.request_vars urllib).get? name := by
  have hcookie : name ≠ "HTTP_COOKIE" := by
    rintro rfl
    exact hname (by decide)
  unfold RequestCore.header_vars
  dsimp only
  rw [get?_foldl_other]
  · split
    · rw [Dict.get?_set, if_neg hcookie]
    · rfl
  · intro entry hentry heq
    have hmem := List.mem_of_mem_filter hentry
    exact hname (heq ▸ collected_keys self.headers entry.1 (List.mem_map_of_mem hmem))

/-- The environ with the address of the server. -/
def RequestCore.server_vars (self : RequestCore) (urllib : Urllib) : Dict String String :=
  match self.server with
  | some server =>
    ((self.header_vars urllib).set "SERVER_NAME" server.1).set "SERVER_PORT" (toString server.2)
  | none => ((self.header_vars urllib).set "SERVER_NAME" "unknown").set "SERVER_PORT" "0"

/-- The last part of the environ: the client and the scheme. -/
theorem RequestCore.environ_vars_eq (self : RequestCore) (urllib : Urllib) :
    self.environ_vars urllib = match self.client with
      | none => self.server_vars urllib
      | some client =>
        let overrides := urllib.forwarded_overrides client.1 self.headers
        let environ := match overrides.1 with
          | some scheme => (self.server_vars urllib).set "wsgi.url_scheme" scheme
          | none => self.server_vars urllib
        environ.set "REMOTE_ADDR" (overrides.2.getD client).1
          |>.set "REMOTE_HOST" (overrides.2.getD client).1
          |>.set "REMOTE_PORT" (toString (overrides.2.getD client).2) := rfl

/-- The entries that say who is connected to whom. -/
def connection_keys : List String :=
  ["wsgi.url_scheme", "REMOTE_ADDR", "REMOTE_HOST", "REMOTE_PORT", "SERVER_NAME", "SERVER_PORT"]

/-- The rest of the environ comes from the request alone. -/
theorem RequestCore.get?_environ_vars (self : RequestCore) (urllib : Urllib) {name : String}
    (hname : ¬HeaderKey name) (hconnection : name ∉ connection_keys) :
    (self.environ_vars urllib).get? name = (self.request_vars urllib).get? name := by
  simp only [connection_keys, List.mem_cons, List.not_mem_nil, or_false, not_or] at hconnection
  have hserver : (self.server_vars urllib).get? name = (self.request_vars urllib).get? name := by
    unfold RequestCore.server_vars
    split <;> simp [hconnection, self.get?_header_vars urllib hname]
  rw [environ_vars_eq]
  split
  · exact hserver
  · dsimp only
    split <;> simp [hconnection, hserver]

end massless.request
