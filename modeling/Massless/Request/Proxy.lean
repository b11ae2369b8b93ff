import Massless.Request.Environ

open python

namespace massless.request

/-- The standard library's parsers of numbers, addresses and networks, where `none` is
their `ValueError`. -/
structure Parsers (Address Network : Type) where
  int : List Char → Option Int
  ip_address : String → Option Address
  ip_network : String → Option Network
  /-- `ip in net` -/
  contains : Network → Address → Bool

variable {Address Network : Type}

/-- `_parse_raw_hosts` -/
def parse_raw_hosts (value : String) : List String :=
  (value.toList.splitOn ',').map fun item => String.ofList (strip item)

/-- `_parse_host_port` -/
def parse_host_port (int : List Char → Option Int) (value : String) : String × Int :=
  match value.toList with
  | '[' :: rest =>
    if ']' ∉ rest then (value, 0)
    else
      let host := String.ofList (rest.takeWhile (· ≠ ']'))
      match (rest.dropWhile (· ≠ ']')).drop 1 with
      | [] => (host, 0)
      | ':' :: port => (host, (int port).getD 0)
      | _ => (value, 0)
  | chars =>
    if chars.count ':' = 1 then
      match int ((chars.dropWhile (· ≠ ':')).drop 1) with
      | some port => (String.ofList (chars.takeWhile (· ≠ ':')), port)
      | none => (value, 0)
    else (value, 0)

/-- `TrustedHosts` -/
structure TrustedHosts (Address Network : Type) where
  always_trust : Bool
  literals : List String
  addresses : List Address
  networks : List Network

/-- One step of the loop of `TrustedHosts.__init__`. -/
def TrustedHosts.add (parsers : Parsers Address Network) (self : TrustedHosts Address Network)
    (host : String) : TrustedHosts Address Network :=
  if '/' ∈ host.toList then
    match parsers.ip_network host with
    | some network => { self with networks := network :: self.networks }
    | none => { self with literals := host :: self.literals }
  else
    match parsers.ip_address host with
    | some address => { self with addresses := address :: self.addresses }
    | none => { self with literals := host :: self.literals }

/-- `TrustedHosts(trusted)` -/
def TrustedHosts.new (parsers : Parsers Address Network) (trusted : String) :
    TrustedHosts Address Network :=
  if trusted = "*" then ⟨true, [], [], []⟩
  else (parse_raw_hosts trusted).foldl (TrustedHosts.add parsers) ⟨false, [], [], []⟩

variable [DecidableEq Address]

/-- `host in trusted` -/
def TrustedHosts.contains (parsers : Parsers Address Network) (self : TrustedHosts Address Network)
    (host : String) : Bool :=
  if self.always_trust then true
  else if host = "" then false
  else match parsers.ip_address host with
    | none => host ∈ self.literals
    | some ip => ip ∈ self.addresses || self.networks.any fun net => parsers.contains net ip

/-- `get_trusted_client_address` -/
def TrustedHosts.get_trusted_client_address (parsers : Parsers Address Network)
    (self : TrustedHosts Address Network) (x_forwarded_for : String) : String × Int :=
  let hosts := parse_raw_hosts x_forwarded_for
  let leftmost := parse_host_port parsers.int (hosts.headD "")
  if self.always_trust then leftmost
  else ((hosts.reverse.map (parse_host_port parsers.int)).find? fun found =>
    !self.contains parsers found.1).getD leftmost

/-- `settings.MASSLESS_FORWARDED_ALLOW_IPS`: absent or `None`, a text, or an iterable of
texts. -/
inductive AllowIps where
  | unset
  | text (value : String)
  | many (values : List String)

/-- The value that `_trusted_hosts` reads; `env` is the variable `FORWARDED_ALLOW_IPS`. -/
def AllowIps.value (env : Option String) : AllowIps → String
  | .unset => env.getD "127.0.0.1"
  | .text value => value
  | .many values => ",".intercalate values

/-- `_trusted_hosts` -/
def trusted_hosts (parsers : Parsers Address Network) (allow_ips : AllowIps) (env : Option String) :
    TrustedHosts Address Network :=
  TrustedHosts.new parsers (allow_ips.value env)

/-- The values of the headers under a name. -/
def header_values (name : Bytes) (headers : List (Bytes × Bytes)) : List Bytes :=
  (headers.filter (·.1 = name)).map Prod.snd

/-- `forwarded_overrides` -/
def forwarded_overrides (parsers : Parsers Address Network)
    (trusted : TrustedHosts Address Network) (peer_host : String)
    (headers : List (Bytes × Bytes)) : Option String × Option (String × Int) :=
  if !trusted.contains parsers peer_host then (none, none)
  else
    let scheme := match header_values (ascii "x-forwarded-proto") headers with
      | [value] =>
        let candidate := String.ofList (strip (decode_latin1 value).toList)
        if candidate = "http" ∨ candidate = "https" then some candidate else none
      | _ => none
    let client := match header_values (ascii "x-forwarded-for") headers with
      | [value] =>
        let (host, port) := trusted.get_trusted_client_address parsers (decode_latin1 value)
        if host ≠ "" then some (host, port) else none
      | _ => none
    (scheme, client)

/-- The library with the overrides of a proxy setting. -/
def Urllib.proxied (urllib : Urllib) (parsers : Parsers Address Network)
    (trusted : TrustedHosts Address Network) : Urllib :=
  { urllib with forwarded_overrides := request.forwarded_overrides parsers trusted }

/-- The environ of a request under a proxy setting. -/
def RequestCore.proxied_vars (parsers : Parsers Address Network) (urllib : Urllib)
    (trusted : TrustedHosts Address Network) (self : RequestCore) : Dict String String :=
  self.environ_vars (urllib.proxied parsers trusted)

/-- What the forwarded headers of a request say. -/
def RequestCore.overrides (parsers : Parsers Address Network)
    (trusted : TrustedHosts Address Network) (self : RequestCore) :
    Option String × Option (String × Int) :=
  match self.client with
  | none => (none, none)
  | some client => forwarded_overrides parsers trusted client.1 self.headers

/-- The entries that say who the client is. -/
def remote_keys : List String := ["REMOTE_ADDR", "REMOTE_HOST", "REMOTE_PORT"]

/-- Two requests whose environs have the same entries under some keys. -/
def SameEntries (parsers : Parsers Address Network) (urllib : Urllib)
    (trusted : TrustedHosts Address Network) (keys : List String) (core other : RequestCore) : Prop :=
  ∀ key ∈ keys, (core.proxied_vars parsers urllib trusted).get? key =
    (other.proxied_vars parsers urllib trusted).get? key

/-- The value of a forwarded header that is there once. -/
def single_value (name : Bytes) (headers : List (Bytes × Bytes)) : Option Bytes :=
  match header_values name headers with
  | [value] => some value
  | _ => none

/-- An entry of the chain whose host is not trusted. -/
def Untrusted (parsers : Parsers Address Network) (trusted : TrustedHosts Address Network)
    (entry : String) : Prop :=
  trusted.contains parsers (parse_host_port parsers.int entry).1 = false

section
variable (parsers : Parsers Address Network) (urllib : Urllib)
  (trusted : TrustedHosts Address Network)

/-- The connection's entries: the addresses, and what overrides them. -/
theorem RequestCore.connection_entries (self : RequestCore) :
    let vars := self.proxied_vars parsers urllib trusted
    let overrides := self.overrides parsers trusted
    vars.get? "wsgi.url_scheme" = some (overrides.1.getD "http") ∧
    vars.get? "SERVER_NAME" = some ((self.server.map Prod.fst).getD "unknown") ∧
    vars.get? "SERVER_PORT" = some ((self.server.map fun server => toString server.2).getD "0") ∧
    (∀ key ∈ ["REMOTE_ADDR", "REMOTE_HOST"],
      vars.get? key = self.client.map fun client => (overrides.2.getD client).1) ∧
    vars.get? "REMOTE_PORT" = self.client.map fun client => toString (overrides.2.getD client).2 := by
  intro vars overrides
  have hserver : ∀ proxied name, ¬HeaderKey name → (self.server_vars proxied).get? name =
      if name = "SERVER_PORT" then
        some ((self.server.map fun server => toString server.2).getD "0")
      else if name = "SERVER_NAME" then some ((self.server.map Prod.fst).getD "unknown")
      else (self.request_vars proxied).get? name := by
    intro proxied name hname
    unfold RequestCore.server_vars
    cases self.server <;> simp [self.get?_header_vars proxied hname]
  have hvars : vars = self.environ_vars (urllib.proxied parsers trusted) := rfl
  rw [hvars, RequestCore.environ_vars_eq]
  cases hclient : self.client with
  | none =>
    have hoverrides : overrides = (none, none) := by
      simp only [overrides, RequestCore.overrides, hclient]
    rw [hoverrides]
    refine ⟨?_, ?_, ?_, ?_, ?_⟩
    · rw [hserver _ _ (by decide)]
      simp [RequestCore.request_vars]
    · rw [hserver _ _ (by decide)]
      simp
    · rw [hserver _ _ (by decide)]
      simp
    · intro key hkey
      have hremote : key = "REMOTE_ADDR" ∨ key = "REMOTE_HOST" := by simpa using hkey
      obtain rfl | rfl := hremote <;>
      · rw [hserver _ _ (by decide)]
        simp [RequestCore.request_vars]
    · rw [hserver _ _ (by decide)]
      simp [RequestCore.request_vars]
  | some client =>
    have hoverrides :
        (urllib.proxied parsers trusted).forwarded_overrides client.1 self.headers = overrides := by
      simp only [overrides, RequestCore.overrides, hclient]
      rfl
    dsimp only
    rw [hoverrides]
    cases hscheme : overrides.1 <;>
      simp [hserver _ _ (show ¬HeaderKey "wsgi.url_scheme" by decide),
        hserver _ _ (show ¬HeaderKey "SERVER_NAME" by decide),
        hserver _ _ (show ¬HeaderKey "SERVER_PORT" by decide), RequestCore.request_vars]

/-- The client's entries depend on the client and on the override of its address. -/
theorem remote_entries_of_overrides {core other : RequestCore} (hclient : core.client = other.client)
    (hoverrides : (core.overrides parsers trusted).2 = (other.overrides parsers trusted).2) :
    SameEntries parsers urllib trusted remote_keys core other := by
  obtain ⟨-, -, -, hhost, hport⟩ := core.connection_entries parsers urllib trusted
  obtain ⟨-, -, -, hhost', hport'⟩ := other.connection_entries parsers urllib trusted
  intro key hkey
  simp only [remote_keys, List.mem_cons, List.not_mem_nil, or_false] at hkey
  obtain rfl | rfl | rfl := hkey
  · rw [hhost _ (by simp), hhost' _ (by simp), hclient, hoverrides]
  · rw [hhost _ (by simp), hhost' _ (by simp), hclient, hoverrides]
  · rw [hport, hport', hclient, hoverrides]

/-- The connection's entries depend on the two addresses and on the overrides. -/
theorem connection_entries_of_overrides {core other : RequestCore}
    (hclient : core.client = other.client) (hserver : core.server = other.server)
    (hoverrides : core.overrides parsers trusted = other.overrides parsers trusted) :
    SameEntries parsers urllib trusted connection_keys core other := by
  obtain ⟨hscheme, hname, hport, -⟩ := core.connection_entries parsers urllib trusted
  obtain ⟨hscheme', hname', hport', -⟩ := other.connection_entries parsers urllib trusted
  have hremote := remote_entries_of_overrides parsers urllib trusted hclient
    (congrArg Prod.snd hoverrides)
  intro key hkey
  simp only [connection_keys, List.mem_cons, List.not_mem_nil, or_false] at hkey
  obtain rfl | rfl | rfl | rfl | rfl | rfl := hkey
  · rw [hscheme, hscheme', hoverrides]
  · exact hremote _ (by simp [remote_keys])
  · exact hremote _ (by simp [remote_keys])
  · exact hremote _ (by simp [remote_keys])
  · rw [hname, hname', hserver]
  · rw [hport, hport', hserver]

/-- The overrides read the forwarded headers only if they are there once. -/
theorem forwarded_overrides_eq (peer_host : String) (headers : List (Bytes × Bytes)) :
    forwarded_overrides parsers trusted peer_host headers =
      if trusted.contains parsers peer_host = false then (none, none)
      else
        ((single_value (ascii "x-forwarded-proto") headers).bind fun value =>
          let candidate := String.ofList (strip (decode_latin1 value).toList)
          if candidate = "http" ∨ candidate = "https" then some candidate else none,
        (single_value (ascii "x-forwarded-for") headers).bind fun value =>
          let found := trusted.get_trusted_client_address parsers (decode_latin1 value)
          if found.1 ≠ "" then some found else none) := by
  unfold forwarded_overrides
  by_cases htrusted : trusted.contains parsers peer_host = false
  · simp [htrusted]
  · have hproto : ∀ name : Bytes, single_value name headers =
        match header_values name headers with
        | [value] => some value
        | _ => none := fun name => rfl
    rw [hproto, hproto]
    simp only [Bool.not_eq_false] at htrusted
    simp only [htrusted, Bool.not_true, Bool.false_eq_true, if_false, Bool.true_eq_false]
    congr 1
    · split <;> rfl
    · split <;> rfl

/-- Text in front of a comma is other entries. -/
theorem parse_raw_hosts_append (text value : Bytes) :
    parse_raw_hosts (decode_latin1 (text ++ 44 :: value)) =
      parse_raw_hosts (decode_latin1 text) ++ parse_raw_hosts (decode_latin1 value) := by
  have hcomma : Char.ofNat (44 : UInt8).toNat = ',' := by decide
  simp only [parse_raw_hosts, decode_latin1, String.toList_ofList, List.map_append, List.map_cons,
    hcomma, List.splitOn_append_cons_self]

omit [DecidableEq Address] in
theorem always_trust_iff (value : String) :
    (TrustedHosts.new parsers value).always_trust = true ↔ value = "*" := by
  unfold TrustedHosts.new
  split
  · simpa
  · rename_i hvalue
    have hadd : ∀ (hosts : List String) (self : TrustedHosts Address Network),
        (hosts.foldl (TrustedHosts.add parsers) self).always_trust = self.always_trust := by
      intro hosts
      induction hosts with
      | nil => exact fun self => rfl
      | cons host later ih =>
        intro self
        rw [List.foldl_cons, ih]
        unfold TrustedHosts.add
        split <;> split <;> rfl
    simp [hadd, hvalue]

/-- The right-most entry that is not trusted is the client. -/
theorem get_trusted_client_address_untrusted (halways : trusted.always_trust = false)
    {value entry : String} {before after : List String}
    (hentries : parse_raw_hosts value = before ++ entry :: after)
    (hentry : Untrusted parsers trusted entry)
    (hafter : ∀ later ∈ after, ¬Untrusted parsers trusted later) :
    trusted.get_trusted_client_address parsers value = parse_host_port parsers.int entry := by
  have hskipped : (after.map (parse_host_port parsers.int)).reverse.find?
      (fun found => !trusted.contains parsers found.1) = none := by
    rw [List.find?_eq_none]
    intro found hfound
    obtain ⟨later, hlater, rfl⟩ := List.mem_map.mp (List.mem_reverse.mp hfound)
    simpa [Untrusted] using hafter later hlater
  have hfound : trusted.contains parsers (parse_host_port parsers.int entry).1 = false := hentry
  simp [TrustedHosts.get_trusted_client_address, halways, hentries, List.find?_append, hskipped,
    hfound]

theorem get_trusted_client_address_trusted (halways : trusted.always_trust = false)
    {value : String} (hentries : ∀ entry ∈ parse_raw_hosts value, ¬Untrusted parsers trusted entry) :
    trusted.get_trusted_client_address parsers value =
      parse_host_port parsers.int ((parse_raw_hosts value).headD "") := by
  have hskipped : ((parse_raw_hosts value).reverse.map (parse_host_port parsers.int)).find?
      (fun found => !trusted.contains parsers found.1) = none := by
    rw [List.find?_eq_none]
    intro found hfound
    obtain ⟨entry, hentry, rfl⟩ := List.mem_map.mp hfound
    simpa [Untrusted] using hentries entry (List.mem_reverse.mp hentry)
  simp only [TrustedHosts.get_trusted_client_address, halways, hskipped]
  rfl

/-- In a list with an untrusted entry there is a right-most one. -/
theorem exists_rightmost_untrusted {entries : List String}
    (huntrusted : ∃ entry ∈ entries, Untrusted parsers trusted entry) :
    ∃ before entry after, entries = before ++ entry :: after ∧ Untrusted parsers trusted entry ∧
      ∀ later ∈ after, ¬Untrusted parsers trusted later := by
  induction entries with
  | nil => simp at huntrusted
  | cons first rest ih =>
    by_cases hrest : ∃ entry ∈ rest, Untrusted parsers trusted entry
    · obtain ⟨before, entry, after, rfl, hentry, hafter⟩ := ih hrest
      exact ⟨first :: before, entry, after, rfl, hentry, hafter⟩
    · obtain ⟨entry, hmem, hentry⟩ := huntrusted
      obtain rfl | hmem := List.mem_cons.mp hmem
      · exact ⟨[], entry, rest, rfl, hentry, fun later hlater huntrusted =>
          hrest ⟨later, hlater, huntrusted⟩⟩
      · exact absurd ⟨entry, hmem, hentry⟩ hrest

/-- Two chains with the same end that contains an untrusted entry name the same client. -/
theorem get_trusted_client_address_part (halways : trusted.always_trust = false)
    {value other : String} {before before' part : List String}
    (hvalue : parse_raw_hosts value = before ++ part)
    (hother : parse_raw_hosts other = before' ++ part)
    (huntrusted : ∃ entry ∈ part, Untrusted parsers trusted entry) :
    trusted.get_trusted_client_address parsers value =
      trusted.get_trusted_client_address parsers other := by
  obtain ⟨skipped, entry, after, rfl, hentry, hafter⟩ :=
    exists_rightmost_untrusted parsers trusted huntrusted
  rw [← List.append_assoc] at hvalue hother
  rw [get_trusted_client_address_untrusted parsers trusted halways hvalue hentry hafter,
    get_trusted_client_address_untrusted parsers trusted halways hother hentry hafter]

/-- A header that is there twice counts as much as one that is not there. -/
theorem single_value_filter (name other : Bytes) {headers : List (Bytes × Bytes)}
    (hcopies : 2 ≤ (header_values name headers).length) :
    single_value other (headers.filter (·.1 ≠ name)) = single_value other headers := by
  by_cases hname : other = name
  · subst hname
    have hnone : header_values other (headers.filter (·.1 ≠ other)) = [] := by
      simp [header_values, List.filter_filter]
    unfold single_value
    rw [hnone]
    match hvalues : header_values other headers with
    | [] => rfl
    | [value] => simp [hvalues] at hcopies
    | first :: second :: rest => rfl
  · have hsame : header_values other (headers.filter (·.1 ≠ name)) =
        header_values other headers := by
      rw [header_values, header_values, List.filter_filter]
      congr 1
      apply List.filter_congr
      intro header _
      by_cases hheader : header.1 = other
      · simp [hheader, hname]
      · simp [hheader]
    rw [single_value, single_value, hsame]

end

/-- What clients can and cannot say about their connection, under a proxy setting. -/
structure Unforgeable (parsers : Parsers Address Network) (urllib : Urllib) (allow_ips : AllowIps)
    (env : Option String) (trusted : TrustedHosts Address Network) : Prop where
  /-- A peer that is not trusted says nothing: only the two addresses count. -/
  untrusted_peer : ∀ core other : RequestCore, core.client = other.client →
    core.server = other.server →
    (∀ client ∈ core.client, trusted.contains parsers client.1 = false) →
    SameEntries parsers urllib trusted connection_keys core other
  /-- The client's address depends on a single `X-Forwarded-For`. -/
  single_forwarded_for : ∀ core other : RequestCore, core.client = other.client →
    single_value (ascii "x-forwarded-for") core.headers =
      single_value (ascii "x-forwarded-for") other.headers →
    SameEntries parsers urllib trusted remote_keys core other
  /-- Of its value only the part counts that has the right-most untrusted entry. -/
  untrusted_part : allow_ips.value env ≠ "*" → ∀ (core other : RequestCore) (value value' : Bytes)
    (before before' part : List String), core.client = other.client →
    single_value (ascii "x-forwarded-for") core.headers = some value →
    single_value (ascii "x-forwarded-for") other.headers = some value' →
    parse_raw_hosts (decode_latin1 value) = before ++ part →
    parse_raw_hosts (decode_latin1 value') = before' ++ part →
    (∃ entry ∈ part, Untrusted parsers trusted entry) →
    SameEntries parsers urllib trusted remote_keys core other
  /-- Text and a comma before a value with an untrusted entry change nothing. -/
  prepended : allow_ips.value env ≠ "*" → ∀ (core other : RequestCore) (value text : Bytes),
    core.client = other.client →
    single_value (ascii "x-forwarded-for") core.headers = some value →
    single_value (ascii "x-forwarded-for") other.headers = some (text ++ 44 :: value) →
    (∃ entry ∈ parse_raw_hosts (decode_latin1 value), Untrusted parsers trusted entry) →
    SameEntries parsers urllib trusted remote_keys core other
  /-- The host chosen is the right-most untrusted entry, or the left-most entry when all
  are trusted; where that host is empty the peer stays. -/
  chosen : allow_ips.value env ≠ "*" → ∀ (core : RequestCore) (client : String × Int)
    (value : Bytes) (before : List String) (entry : String) (after : List String),
    core.client = some client → trusted.contains parsers client.1 = true →
    single_value (ascii "x-forwarded-for") core.headers = some value →
    parse_raw_hosts (decode_latin1 value) = before ++ entry :: after →
    (∀ later ∈ after, ¬Untrusted parsers trusted later) →
    (Untrusted parsers trusted entry ∨ before = [] ∧ ¬Untrusted parsers trusted entry) →
    let found := parse_host_port parsers.int entry
    trusted.get_trusted_client_address parsers (decode_latin1 value) = found ∧
      core.overrides parsers trusted =
        ((core.overrides parsers trusted).1, if found.1 ≠ "" then some found else none)
  /-- Two copies of a forwarded header are as good as none. -/
  copies : ∀ (core : RequestCore) (name : Bytes),
    name = ascii "x-forwarded-for" ∨ name = ascii "x-forwarded-proto" →
    2 ≤ (header_values name core.headers).length →
    SameEntries parsers urllib trusted connection_keys core
      { core with headers := core.headers.filter (·.1 ≠ name) }

/-- Clients cannot forge the identity of their connection. -/
theorem connection_unforgeable (parsers : Parsers Address Network) (urllib : Urllib)
    (allow_ips : AllowIps) (env : Option String) :
    Unforgeable parsers urllib allow_ips env (trusted_hosts parsers allow_ips env) := by
  have halways : allow_ips.value env ≠ "*" →
      (trusted_hosts parsers allow_ips env).always_trust = false := by
    intro hvalue
    rw [← Bool.not_eq_true, trusted_hosts, always_trust_iff]
    exact hvalue
  have hremote : ∀ {core other : RequestCore}, core.client = other.client →
      (∀ peer, (forwarded_overrides parsers (trusted_hosts parsers allow_ips env) peer
          core.headers).2 =
        (forwarded_overrides parsers (trusted_hosts parsers allow_ips env) peer
          other.headers).2) →
      SameEntries parsers urllib (trusted_hosts parsers allow_ips env) remote_keys core other := by
    intro core other hclient hpeer
    apply remote_entries_of_overrides parsers urllib _ hclient
    unfold RequestCore.overrides
    rw [hclient]
    cases other.client with
    | none => rfl
    | some client => exact hpeer client.1
  have hpart : allow_ips.value env ≠ "*" → ∀ (core other : RequestCore) (value value' : Bytes)
      (before before' part : List String), core.client = other.client →
      single_value (ascii "x-forwarded-for") core.headers = some value →
      single_value (ascii "x-forwarded-for") other.headers = some value' →
      parse_raw_hosts (decode_latin1 value) = before ++ part →
      parse_raw_hosts (decode_latin1 value') = before' ++ part →
      (∃ entry ∈ part, Untrusted parsers (trusted_hosts parsers allow_ips env) entry) →
      SameEntries parsers urllib (trusted_hosts parsers allow_ips env) remote_keys core other := by
    intro hvalue core other value value' before before' part hclient hcore hother hbefore hbefore'
      huntrusted
    apply hremote hclient
    intro peer
    rw [forwarded_overrides_eq, forwarded_overrides_eq, hcore, hother, Option.bind_some,
      Option.bind_some, get_trusted_client_address_part parsers _ (halways hvalue) hbefore hbefore'
        huntrusted]
    split <;> rfl
  constructor
  case untrusted_peer =>
    intro core other hclient hserver huntrusted
    apply connection_entries_of_overrides parsers urllib _ hclient hserver
    unfold RequestCore.overrides
    rw [← hclient]
    cases hpeer : core.client with
    | none => rfl
    | some client =>
      have hclient_untrusted := huntrusted client hpeer
      simp only [forwarded_overrides_eq, hclient_untrusted, if_true]
  case single_forwarded_for =>
    intro core other hclient hsingle
    apply hremote hclient
    intro peer
    rw [forwarded_overrides_eq, forwarded_overrides_eq, hsingle]
    split <;> rfl
  case untrusted_part => exact hpart
  case prepended =>
    intro hvalue core other value text hclient hcore hother huntrusted
    exact hpart hvalue core other value (text ++ 44 :: value) [] _ _ hclient hcore hother rfl
      (parse_raw_hosts_append text value) huntrusted
  case chosen =>
    intro hvalue core client value before entry after hclient htrusted hcore hentries hafter hentry
    have haddress : (trusted_hosts parsers allow_ips env).get_trusted_client_address parsers
        (decode_latin1 value) = parse_host_port parsers.int entry := by
      obtain hentry | ⟨rfl, hentry⟩ := hentry
      · exact get_trusted_client_address_untrusted parsers _ (halways hvalue) hentries hentry hafter
      · rw [get_trusted_client_address_trusted parsers _ (halways hvalue), hentries]
        · rfl
        · rw [hentries]
          simpa using ⟨hentry, hafter⟩
    refine ⟨haddress, ?_⟩
    simp only [RequestCore.overrides, hclient, forwarded_overrides_eq, htrusted, hcore, haddress,
      Option.bind_some, Bool.true_eq_false, if_false]
  case copies =>
    intro core name _ hcopies
    refine connection_entries_of_overrides parsers urllib _ rfl rfl ?_
    unfold RequestCore.overrides
    dsimp only
    cases core.client with
    | none => rfl
    | some client =>
      dsimp only
      rw [forwarded_overrides_eq, forwarded_overrides_eq, single_value_filter _ _ hcopies,
        single_value_filter _ _ hcopies]

end massless.request
