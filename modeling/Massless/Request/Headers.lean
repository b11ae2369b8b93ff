import Massless.Http.Head
import Massless.Request.Proxy
import Massless.Request.Target

open python

namespace massless.request

variable {Address Network : Type} [DecidableEq Address]

/-- The header with this name goes into the environ: no underscore stands in the name
and it is not the length. -/
def Folded (name : Bytes) : Prop := 95 ∉ name ∧ lower_bytes name ≠ ascii "content-length"

instance (name : Bytes) : Decidable (Folded name) := inferInstanceAs (Decidable (_ ∧ _))

/-- The key of a header in the environ. -/
def environ_key (name : Bytes) : String :=
  if lower_bytes name = ascii "content-type" then "CONTENT_TYPE" else header_key (decode_latin1 name)

/-- The values of the headers with this name in any case, in order of arrival. -/
def values_named (name : Bytes) (headers : List (Bytes × Bytes)) : List Bytes :=
  (headers.filter fun header => lower_bytes header.1 = lower_bytes name).map Prod.snd

/-- The values of a header as one text. -/
def joined (name : Bytes) (values : List Bytes) : String :=
  if lower_bytes name = ascii "cookie" then
    "; ".intercalate (values.map fun value => rstrip_cookie (decode_latin1 value))
  else ",".intercalate (values.map decode_latin1)

/-- The entry that a header of a request adds to the lists of values. -/
def collected_entry (header : Bytes × Bytes) : Option (String × String) :=
  if 95 ∈ header.1 ∨ header.1 = ascii "content-length" then none
  else
    let key := environ_key header.1
    let value := decode_latin1 header.2
    some (key, if key = "HTTP_COOKIE" then rstrip_cookie value else value)

theorem lower_bytes_idem (name : Bytes) : lower_bytes (lower_bytes name) = lower_bytes name := by
  have hlower : ∀ c : UInt8, (fun c : UInt8 => if 65 ≤ c ∧ c ≤ 90 then c + 32 else c)
      (if 65 ≤ c ∧ c ≤ 90 then c + 32 else c) = if 65 ≤ c ∧ c ≤ 90 then c + 32 else c :=
    http.forall_octet (by decide +kernel)
  rw [lower_bytes, lower_bytes, List.map_map]
  apply List.map_congr_left
  intro c _
  exact hlower c

theorem underscore_mem_lower_bytes (name : Bytes) : 95 ∈ lower_bytes name ↔ 95 ∈ name := by
  have hlower : ∀ c : UInt8, (if 65 ≤ c ∧ c ≤ 90 then c + 32 else c) = 95 ↔ c = 95 :=
    http.forall_octet (by decide +kernel)
  simp only [lower_bytes, List.mem_map, hlower, exists_eq_right]

theorem underscore_mem_decode_latin1 (name : Bytes) : '_' ∈ (decode_latin1 name).toList ↔ 95 ∈ name := by
  have hchar : ∀ c : UInt8, Char.ofNat c.toNat = '_' ↔ c = 95 := http.forall_octet (by decide +kernel)
  simp only [toList_decode_latin1, List.mem_map, hchar, exists_eq_right]

theorem decode_latin1_inj (first second : Bytes) :
    decode_latin1 first = decode_latin1 second ↔ first = second := by
  constructor
  · intro heq
    have hencoded := congrArg encode_latin1 heq
    rw [encode_decode_latin1, encode_decode_latin1] at hencoded
    exact Option.some.inj hencoded
  · exact congrArg decode_latin1

/-- The character of a key that a character of a name gives. -/
def key_char (c : UInt8) : Char :=
  if Char.ofNat c.toNat = '-' then '_' else (Char.ofNat c.toNat).toUpper

theorem header_key_decode_latin1 (name : Bytes) :
    header_key (decode_latin1 name) = "HTTP_" ++ String.ofList (name.map key_char) := by
  rw [header_key, toList_decode_latin1, List.map_map]
  rfl

/-- A key does not depend on the case of the name. -/
theorem header_key_lower_bytes (name : Bytes) :
    header_key (decode_latin1 (lower_bytes name)) = header_key (decode_latin1 name) := by
  have hlower : ∀ c : UInt8, key_char (if 65 ≤ c ∧ c ≤ 90 then c + 32 else c) = key_char c :=
    http.forall_octet (by decide +kernel)
  rw [header_key_decode_latin1, header_key_decode_latin1, lower_bytes, List.map_map]
  congr 2
  apply List.map_congr_left
  intro c _
  exact hlower c

theorem environ_key_lower_bytes (name : Bytes) : environ_key (lower_bytes name) = environ_key name := by
  rw [environ_key, environ_key, lower_bytes_idem, header_key_lower_bytes]

/-- The character of a lower-case name that a character of a key comes from. -/
def name_char (c : Char) : UInt8 :=
  if c = '_' then 45 else if 'A' ≤ c ∧ c ≤ 'Z' then UInt8.ofNat (c.toNat + 32) else UInt8.ofNat c.toNat

/-- Without underscores, a key gives back the name in lower case. -/
theorem name_char_key_char : ∀ c : UInt8, http.is_tchar c = true → c ≠ 95 →
    name_char (key_char c) = if 65 ≤ c ∧ c ≤ 90 then c + 32 else c :=
  http.forall_octet (by decide +kernel)

theorem header_key_inj {name other : Bytes} (hname : http.Token name) (hother : http.Token other)
    (hfirst : 95 ∉ name) (hsecond : 95 ∉ other)
    (hkey : header_key (decode_latin1 name) = header_key (decode_latin1 other)) :
    lower_bytes name = lower_bytes other := by
  have hback : ∀ text : Bytes, http.Token text → 95 ∉ text →
      (text.map key_char).map name_char = lower_bytes text := by
    intro text htoken hclean
    rw [List.map_map, lower_bytes]
    apply List.map_congr_left
    intro c hc
    exact name_char_key_char c (htoken.2 c hc) fun heq => hclean (heq ▸ hc)
  rw [header_key_decode_latin1, header_key_decode_latin1, String.append_right_inj,
    String.ofList_inj] at hkey
  rw [← hback name hname hfirst, hkey, hback other hother hsecond]

/-- Two names have one key only if they differ in nothing but case. -/
theorem environ_key_inj {name other : Bytes} (hname : http.Token name) (hother : http.Token other)
    (hfirst : 95 ∉ name) (hsecond : 95 ∉ other) (hkey : environ_key name = environ_key other) :
    lower_bytes name = lower_bytes other := by
  have hspecial : ∀ text : Bytes, "CONTENT_TYPE" ≠ header_key (decode_latin1 text) := by
    intro text heq
    have hprefix : "HTTP_".toList <+: "CONTENT_TYPE".toList := by
      rw [heq, header_key, String.toList_append]
      exact List.prefix_append _ _
    exact absurd hprefix (by decide)
  unfold environ_key at hkey
  split at hkey
  · rename_i htype
    split at hkey
    · rename_i hother_type
      rw [htype, hother_type]
    · exact absurd hkey (hspecial other)
  · split at hkey
    · exact absurd hkey.symm (hspecial name)
    · exact header_key_inj hname hother hfirst hsecond hkey

theorem environ_key_eq_cookie_iff {name : Bytes} (hname : http.Token name) (hclean : 95 ∉ name) :
    environ_key name = "HTTP_COOKIE" ↔ lower_bytes name = ascii "cookie" := by
  have hcookie : environ_key (ascii "cookie") = "HTTP_COOKIE" := by decide
  constructor
  · intro hkey
    have hlower := environ_key_inj hname (by decide) hclean (by decide) (hkey.trans hcookie.symm)
    exact hlower.trans (by decide)
  · intro hlower
    rw [← environ_key_lower_bytes, hlower, hcookie]

theorem collect_header_eq (collected : Dict String (List String)) (header : Bytes × Bytes)
    (hlower : lower_bytes header.1 = header.1) :
    collect_header collected header =
      match collected_entry header with
      | some entry => collected.append_to entry
      | none => collected := by
  have hlength : decode_latin1 header.1 = "content-length" ↔ header.1 = ascii "content-length" :=
    decode_latin1_inj _ (ascii "content-length")
  have htype : decode_latin1 header.1 = "content-type" ↔ header.1 = ascii "content-type" :=
    decode_latin1_inj _ (ascii "content-type")
  simp only [collect_header, collected_entry, underscore_mem_decode_latin1, hlength, htype,
    environ_key, hlower]
  by_cases hunderscore : 95 ∈ header.1
  · simp [hunderscore]
  · by_cases hdropped : header.1 = ascii "content-length"
    · simp [hdropped]
    · simp only [hunderscore, hdropped, if_false, or_self]
      rfl

/-- The headers of a request, their names in lower case. -/
def lowered (headers : List (Bytes × Bytes)) : List (Bytes × Bytes) :=
  headers.map fun header => (lower_bytes header.1, header.2)

theorem foldl_collect_header (headers : List (Bytes × Bytes)) (collected : Dict String (List String)) :
    (lowered headers).foldl collect_header collected =
      ((lowered headers).filterMap collected_entry).foldl Dict.append_to collected := by
  induction headers generalizing collected with
  | nil => rfl
  | cons header rest ih =>
    have hheader := collect_header_eq collected (lower_bytes header.1, header.2)
      (lower_bytes_idem header.1)
    rw [lowered, List.map_cons, List.foldl_cons, List.filterMap_cons, hheader]
    cases hentry : collected_entry (lower_bytes header.1, header.2) with
    | none => exact ih collected
    | some entry => exact ih (collected.append_to entry)

theorem collected_entry_of_folded {header : Bytes × Bytes} (hfolded : Folded header.1) :
    collected_entry (lower_bytes header.1, header.2) =
      some (environ_key header.1, if environ_key header.1 = "HTTP_COOKIE" then
        rstrip_cookie (decode_latin1 header.2) else decode_latin1 header.2) := by
  rw [collected_entry, if_neg]
  · simp only [environ_key_lower_bytes]
  · rw [underscore_mem_lower_bytes, not_or]
    exact hfolded

theorem collected_entry_of_not_folded {header : Bytes × Bytes} (hfolded : ¬Folded header.1) :
    collected_entry (lower_bytes header.1, header.2) = none := by
  rw [collected_entry, if_pos]
  rw [underscore_mem_lower_bytes]
  by_contra hnot
  exact hfolded (not_or.mp hnot)

/-- The values collected under the key of a name are those of the headers with that
name. -/
theorem values_of_collected {headers : List (Bytes × Bytes)}
    (htokens : ∀ header ∈ headers, http.Token header.1) {name : Bytes} (hname : http.Token name)
    (hfolded : Folded name) :
    Dict.values_of (environ_key name) ((lowered headers).filterMap collected_entry) =
      (values_named name headers).map fun value =>
        if lower_bytes name = ascii "cookie" then rstrip_cookie (decode_latin1 value)
        else decode_latin1 value := by
  induction headers with
  | nil => rfl
  | cons header rest ih =>
    rw [List.forall_mem_cons] at htokens
    have hrest := ih htokens.2
    rw [Dict.values_of] at hrest
    rw [lowered, List.map_cons, List.filterMap_cons, ← lowered, values_named, List.filter_cons]
    by_cases hheader : Folded header.1
    · rw [collected_entry_of_folded hheader, Dict.values_of, List.filter_cons]
      by_cases hsame : lower_bytes header.1 = lower_bytes name
      · have hkey : environ_key header.1 = environ_key name := by
          rw [← environ_key_lower_bytes, hsame, environ_key_lower_bytes]
        simp only [hkey, hsame, decide_true, if_true, List.map_cons, hrest,
          environ_key_eq_cookie_iff hname hfolded.1]
        rfl
      · have hkey : environ_key header.1 ≠ environ_key name := fun heq =>
          hsame (environ_key_inj htokens.1 hname hheader.1 hfolded.1 heq)
        simp only [hkey, hsame, decide_false, Bool.false_eq_true, if_false, hrest]
        rfl
    · have hother : lower_bytes header.1 ≠ lower_bytes name := by
        intro hsame
        apply hheader
        rw [Folded, ← underscore_mem_lower_bytes, hsame, underscore_mem_lower_bytes]
        exact hfolded
      rw [collected_entry_of_not_folded hheader]
      simp only [hother, decide_false, Bool.false_eq_true, if_false]
      exact hrest

/-- An entry of the environ under a key of a header holds the values collected under it. -/
theorem RequestCore.get?_environ_vars_header (self : RequestCore) (urllib : Urllib) {key : String}
    (hkey : HeaderKey key) :
    (self.environ_vars urllib).get? key =
      ((self.headers.foldl collect_header .empty).get? key).map fun values =>
        (if key = "HTTP_COOKIE" then "; " else ",").intercalate values := by
  have hother : ∀ other, ¬HeaderKey other → key ≠ other := by
    rintro other hnot rfl
    exact hnot hkey
  have hrequest : (self.request_vars urllib).get? key = none := by
    simp [RequestCore.request_vars, hother _ (by decide : ¬HeaderKey "PATH_INFO"),
      hother _ (by decide : ¬HeaderKey "QUERY_STRING"),
      hother _ (by decide : ¬HeaderKey "SERVER_PROTOCOL"),
      hother _ (by decide : ¬HeaderKey "wsgi.url_scheme"),
      hother _ (by decide : ¬HeaderKey "CONTENT_LENGTH")]
  have hserver : (self.server_vars urllib).get? key = (self.header_vars urllib).get? key := by
    unfold RequestCore.server_vars
    split <;> simp [hother _ (by decide : ¬HeaderKey "SERVER_NAME"),
      hother _ (by decide : ¬HeaderKey "SERVER_PORT")]
  have hconnection : (self.environ_vars urllib).get? key = (self.server_vars urllib).get? key := by
    rw [environ_vars_eq]
    split
    · rfl
    · dsimp only
      split <;> simp [hother _ (by decide : ¬HeaderKey "wsgi.url_scheme"),
        hother _ (by decide : ¬HeaderKey "REMOTE_ADDR"),
        hother _ (by decide : ¬HeaderKey "REMOTE_HOST"),
        hother _ (by decide : ¬HeaderKey "REMOTE_PORT")]
  rw [hconnection, hserver, RequestCore.header_vars]
  generalize self.headers.foldl collect_header .empty = collected
  rw [Dict.get?_foldl_set _ _ (collected.erase "HTTP_COOKIE").nodup, ← Dict.get?, Dict.get?_erase]
  by_cases hcookie : key = "HTTP_COOKIE"
  · subst hcookie
    cases hcookies : collected.get? "HTTP_COOKIE" with
    | none => simpa using hrequest
    | some cookies => simp
  · rw [if_neg hcookie, if_neg hcookie]
    cases collected.get? "HTTP_COOKIE" with
    | none => rw [hrequest, Option.or_none]
    | some cookies => rw [Dict.get?_set, if_neg hcookie, hrequest, Option.or_none]

theorem joined_eq (name : Bytes) (values : List Bytes) :
    joined name values = (if lower_bytes name = ascii "cookie" then "; " else ",").intercalate
      (values.map fun value => if lower_bytes name = ascii "cookie" then
        rstrip_cookie (decode_latin1 value) else decode_latin1 value) := by
  unfold joined
  split <;> rfl

theorem environ_key_isHeaderKey (name : Bytes) : HeaderKey (environ_key name) := by
  unfold environ_key
  split
  · exact .inl rfl
  · exact header_key_isHeaderKey _

section
variable (parsers : Parsers Address Network) (urllib : Urllib) (trusted : TrustedHosts Address Network)
  (self : RequestCore) {headers : List (Bytes × Bytes)} (hheaders : self.headers = lowered headers)
include hheaders

theorem get?_header_entry {key : String} (hkey : HeaderKey key) :
    (self.proxied_vars parsers urllib trusted).get? key =
      if Dict.values_of key ((lowered headers).filterMap collected_entry) = [] then none
      else some ((if key = "HTTP_COOKIE" then "; " else ",").intercalate
        (Dict.values_of key ((lowered headers).filterMap collected_entry))) := by
  rw [RequestCore.proxied_vars, self.get?_environ_vars_header _ hkey, hheaders,
    foldl_collect_header, Dict.get?_foldl_append_to]
  by_cases hnone : Dict.values_of key ((lowered headers).filterMap collected_entry) = []
  · rw [if_pos hnone, if_pos hnone]
    rfl
  · rw [if_neg hnone, if_neg hnone]
    rfl

/-- A folded name has one key, and under it all its values. -/
theorem get?_environ_key (htokens : ∀ header ∈ headers, http.Token header.1) {name : Bytes}
    (hname : http.Token name) (hfolded : Folded name) :
    (self.proxied_vars parsers urllib trusted).get? (environ_key name) =
      if values_named name headers = [] then none
      else some (joined name (values_named name headers)) := by
  have hvalues := values_of_collected htokens hname hfolded
  rw [get?_header_entry parsers urllib trusted self hheaders (environ_key_isHeaderKey name)]
  by_cases hnone : values_named name headers = []
  · rw [hnone, List.map_nil] at hvalues
    rw [if_pos hvalues, if_pos hnone]
  · rw [if_neg hnone, if_neg (hvalues ▸ List.map_eq_nil_iff.not.mpr hnone), joined_eq, hvalues]
    simp only [environ_key_eq_cookie_iff hname hfolded.1]

/-- An entry under a header's key comes from a header. -/
theorem exists_header_of_entry {key : String} (hkey : HeaderKey key)
    (hentry : (self.proxied_vars parsers urllib trusted).get? key ≠ none) :
    ∃ header ∈ headers, Folded header.1 ∧ environ_key header.1 = key := by
  rw [get?_header_entry parsers urllib trusted self hheaders hkey] at hentry
  split at hentry
  · exact absurd rfl hentry
  · rename_i hvalues
    rw [Dict.values_of, List.map_eq_nil_iff] at hvalues
    obtain ⟨entry, hentry⟩ := List.exists_mem_of_ne_nil _ hvalues
    obtain ⟨hin, hsame⟩ := List.mem_filter.mp hentry
    obtain ⟨lower, hlower, hcollected⟩ := List.mem_filterMap.mp hin
    obtain ⟨header, hheader, rfl⟩ := List.mem_map.mp hlower
    refine ⟨header, hheader, ?_⟩
    by_cases hfolded : Folded header.1
    · rw [collected_entry_of_folded hfolded, Option.some.injEq] at hcollected
      rw [← hcollected] at hsame
      exact ⟨hfolded, of_decide_eq_true hsame⟩
    · rw [collected_entry_of_not_folded hfolded] at hcollected
      cases hcollected

end

/-- The environ sees the headers as lists of values and as forwarded addresses. -/
theorem RequestCore.environ_vars_congr (self : RequestCore) (urllib : Urllib)
    {headers : List (Bytes × Bytes)}
    (hcollected : headers.foldl collect_header .empty = self.headers.foldl collect_header .empty)
    (hoverrides : ∀ host,
      urllib.forwarded_overrides host headers = urllib.forwarded_overrides host self.headers) :
    ({ self with headers } : RequestCore).environ_vars urllib = self.environ_vars urllib := by
  simp only [RequestCore.environ_vars, hcollected, hoverrides]
  rfl

theorem foldl_collect_header_filter (headers : List (Bytes × Bytes))
    (collected : Dict String (List String)) :
    (headers.filter fun header => 95 ∉ header.1).foldl collect_header collected =
      headers.foldl collect_header collected := by
  induction headers generalizing collected with
  | nil => rfl
  | cons header rest ih =>
    rw [List.filter_cons, List.foldl_cons]
    by_cases hunderscore : 95 ∈ header.1
    · have hdropped : collect_header collected header = collected := by
        simp [collect_header, underscore_mem_decode_latin1, hunderscore]
      simp only [hunderscore, not_true, decide_false, Bool.false_eq_true, if_false, hdropped, ih]
    · simp only [hunderscore, not_false_eq_true, decide_true, if_true, List.foldl_cons, ih]

theorem header_values_filter {name : Bytes} (hclean : 95 ∉ name) (headers : List (Bytes × Bytes)) :
    header_values name (headers.filter fun header => 95 ∉ header.1) = header_values name headers := by
  rw [header_values, List.filter_filter, header_values]
  congr 1
  apply List.filter_congr
  intro header _
  by_cases hname : header.1 = name
  · simp [hname, hclean]
  · simp [hname]

/-- A header with an underscore in its name is as if it had not come. -/
theorem RequestCore.proxied_vars_filter (parsers : Parsers Address Network) (urllib : Urllib)
    (trusted : TrustedHosts Address Network) (self : RequestCore) :
    ({ self with headers := self.headers.filter fun header => 95 ∉ header.1 } :
      RequestCore).proxied_vars parsers urllib trusted =
        self.proxied_vars parsers urllib trusted := by
  apply self.environ_vars_congr
  · exact foldl_collect_header_filter self.headers .empty
  · intro host
    simp only [Urllib.proxied, forwarded_overrides,
      header_values_filter (by decide : (95 : UInt8) ∉ ascii "x-forwarded-proto"),
      header_values_filter (by decide : (95 : UInt8) ∉ ascii "x-forwarded-for")]

theorem lowered_filter (headers : List (Bytes × Bytes)) :
    lowered (headers.filter fun header => 95 ∉ header.1) =
      (lowered headers).filter fun header => 95 ∉ header.1 := by
  rw [lowered, lowered, List.filter_map]
  congr 1
  apply List.filter_congr
  intro header _
  simp [underscore_mem_lower_bytes]

/-- Apart from the forwarded addresses, the headers only matter under their own keys. -/
theorem RequestCore.get?_proxied_vars_congr (parsers : Parsers Address Network) (urllib : Urllib)
    (trusted : TrustedHosts Address Network) (self : RequestCore)
    {headers : List (Bytes × Bytes)} {key : String}
    (hoverrides : ({ self with headers } : RequestCore).overrides parsers trusted =
      self.overrides parsers trusted) (hkey : ¬HeaderKey key) :
    (({ self with headers } : RequestCore).proxied_vars parsers urllib trusted).get? key =
      (self.proxied_vars parsers urllib trusted).get? key := by
  have hself := self.connection_entries parsers urllib trusted
  have hother := ({ self with headers } : RequestCore).connection_entries parsers urllib trusted
  rw [hoverrides] at hother
  obtain ⟨hscheme, hname, hport, hremote, hremote_port⟩ := hself
  obtain ⟨hscheme', hname', hport', hremote', hremote_port'⟩ := hother
  by_cases hconnection : key ∈ connection_keys
  · simp only [connection_keys, List.mem_cons, List.not_mem_nil, or_false] at hconnection
    rcases hconnection with rfl | rfl | rfl | rfl | rfl | rfl
    · exact hscheme'.trans hscheme.symm
    · exact (hremote' _ (by simp)).trans (hremote _ (by simp)).symm
    · exact (hremote' _ (by simp)).trans (hremote _ (by simp)).symm
    · exact hremote_port'.trans hremote_port.symm
    · exact hname'.trans hname.symm
    · exact hport'.trans hport.symm
  · rw [RequestCore.proxied_vars, RequestCore.get?_environ_vars _ _ hkey hconnection,
      RequestCore.proxied_vars, RequestCore.get?_environ_vars _ _ hkey hconnection]
    rfl

/-- The headers of a request in its environ. Names with an underscore count for nothing,
a name other than the length has one key, which it shares with no other name and under
which all its values are, the length is that of the body, and every other entry is
changed by nothing but the forwarded addresses. -/
theorem folds_headers (parsers : Parsers Address Network) (urllib : Urllib)
    (trusted : TrustedHosts Address Network) (method : Bytes) (path : Option Bytes) (query : Bytes)
    (headers : List (Bytes × Bytes)) (body : Bytes) (client server : Option (String × Int))
    (htokens : ∀ header ∈ headers, http.Token header.1) :
    let core := fun headers => RequestCore.create method path query headers body client server
    let vars := (core headers).proxied_vars parsers urllib trusted
    (core (headers.filter fun header => 95 ∉ header.1)).proxied_vars parsers urllib trusted = vars ∧
    (∀ name, http.Token name → Folded name → vars.get? (environ_key name) =
      if values_named name headers = [] then none
      else some (joined name (values_named name headers))) ∧
    (∀ key, HeaderKey key → vars.get? key ≠ none →
      ∃ header ∈ headers, Folded header.1 ∧ environ_key header.1 = key) ∧
    (∀ name other, http.Token name → http.Token other → 95 ∉ name → 95 ∉ other →
      environ_key name = environ_key other → lower_bytes name = lower_bytes other) ∧
    vars.get? "CONTENT_LENGTH" = some (toString body.length) ∧
    vars.get? "REQUEST_METHOD" = none ∧ vars.get? "wsgi.input" = none ∧
    ∀ others, (core others).overrides parsers trusted = (core headers).overrides parsers trusted →
      ∀ key, ¬HeaderKey key →
        ((core others).proxied_vars parsers urllib trusted).get? key = vars.get? key := by
  intro core vars
  have hplain : ∀ key, ¬HeaderKey key → key ∉ connection_keys →
      vars.get? key = ((core headers).request_vars (urllib.proxied parsers trusted)).get? key :=
    fun key hkey hconnection => RequestCore.get?_environ_vars _ _ hkey hconnection
  refine ⟨?_, ?_, ?_, ?_, ?_, ?_, ?_, ?_⟩
  · have hfilter := (core headers).proxied_vars_filter parsers urllib trusted
    have hcore : core (headers.filter fun header => 95 ∉ header.1) = { core headers with
        headers := (core headers).headers.filter fun header => 95 ∉ header.1 } :=
      congrArg (fun headers => (⟨method, path, query, headers, body, client, server⟩ : RequestCore))
        (lowered_filter headers)
    rw [hcore, hfilter]
  · intro name hname hfolded
    exact get?_environ_key parsers urllib trusted (core headers) rfl htokens hname hfolded
  · intro key hkey hentry
    exact exists_header_of_entry parsers urllib trusted (core headers) rfl hkey hentry
  · intro name other hname hother hfirst hsecond hkey
    exact environ_key_inj hname hother hfirst hsecond hkey
  · rw [hplain _ (by decide) (by decide)]
    rfl
  · rw [hplain _ (by decide) (by decide)]
    rfl
  · rw [hplain _ (by decide) (by decide)]
    rfl
  · intro others hoverrides key hkey
    exact (core headers).get?_proxied_vars_congr parsers urllib trusted hoverrides hkey

theorem folds_headers_cookies :
    let headers := [(ascii "Cookie", ascii "a=1; "), (ascii "X_User", ascii "root"),
      (ascii "cookie", ascii "b=2")]
    let core := RequestCore.create (ascii "GET") (some (ascii "/")) [] headers [] none none
    let parsers : Parsers Unit Unit :=
      ⟨fun _ => none, fun _ => none, fun _ => none, fun _ _ => false⟩
    let urllib : Urllib := ⟨id, encode_utf8, fun _ _ => (none, none)⟩
    let vars := core.proxied_vars parsers urllib ⟨false, [], [], []⟩
    vars.get? (environ_key (ascii "COOKIE")) = some "a=1; b=2" ∧
      environ_key (ascii "COOKIE") = "HTTP_COOKIE" := by
  intro headers core parsers urllib vars
  have hfolds := folds_headers parsers urllib ⟨false, [], [], []⟩ (ascii "GET") (some (ascii "/")) []
    headers [] none none (by decide)
  have hcookie := hfolds.2.1 (ascii "COOKIE") (by decide) (by decide)
  exact ⟨hcookie.trans (by decide), by decide⟩

end massless.request
