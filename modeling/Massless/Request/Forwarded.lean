import Massless.Request.Headers

open python

namespace massless.request

/-- A text that stays one entry of a list. -/
def EntryText (text : String) : Prop :=
  ∀ c ∈ text.toList, c.toNat < 128 ∧ isspace c = false ∧ c ≠ ','

/-- An address in its text form. An IPv6 address has two colons at least, and no address has
a bracket. -/
structure HostText (host : String) : Prop where
  nonempty : host ≠ ""
  entry : EntryText host
  brackets : '[' ∉ host.toList ∧ ']' ∉ host.toList
  colons : host.toList.count ':' ≠ 1

instance (text : String) : Decidable (EntryText text) :=
  List.decidableBAll (fun c : Char => c.toNat < 128 ∧ isspace c = false ∧ c ≠ ',') text.toList

instance (host : String) : Decidable (HostText host) :=
  decidable_of_iff (host ≠ "" ∧ EntryText host ∧
    ('[' ∉ host.toList ∧ ']' ∉ host.toList) ∧ host.toList.count ':' ≠ 1)
    ⟨fun ⟨hnonempty, hentry, hbrackets, hcolons⟩ => ⟨hnonempty, hentry, hbrackets, hcolons⟩,
      fun hhost => ⟨hhost.nonempty, hhost.entry, hhost.brackets, hhost.colons⟩⟩

/-- `host:port` as proxies write it, where an IPv6 address with a port stands in brackets. -/
def write_host_port (host : String) : Option Nat → String
  | none => host
  | some port =>
    if ':' ∈ host.toList then "[" ++ host ++ "]:" ++ toString port
    else host ++ ":" ++ toString port

theorem digit_of_mem_toString {n : Nat} {c : Char} (hc : c ∈ (toString n).toList) :
    48 ≤ c.toNat ∧ c.toNat ≤ 57 := by
  have hdigits : c ∈ Nat.toDigits 10 n := by simpa using hc
  have hdigit := Nat.isDigit_of_mem_toDigits (by decide) (by decide) hdigits
  simp only [Char.isDigit, Bool.and_eq_true, decide_eq_true_eq, ge_iff_le,
    UInt32.le_iff_toNat_le] at hdigit
  exact hdigit

theorem EntryText.append {first second : String} (hfirst : EntryText first)
    (hsecond : EntryText second) : EntryText (first ++ second) := by
  intro c hc
  rw [String.toList_append, List.mem_append] at hc
  exact hc.elim (hfirst c) (hsecond c)

theorem entry_text_toString (n : Nat) : EntryText (toString n) := by
  intro c hc
  have hdigit := digit_of_mem_toString hc
  refine ⟨by omega, ?_, ?_⟩
  · simp only [isspace, decide_eq_false_iff_not]
    omega
  · rintro rfl
    exact absurd hdigit (by decide)

theorem HostText.entry_write_host_port {host : String} (hhost : HostText host)
    (port : Option Nat) : EntryText (write_host_port host port) := by
  cases port with
  | none => exact hhost.entry
  | some port =>
    have hport := entry_text_toString port
    have hmark (mark : String) (hmark : mark ∈ ["[", "]:", ":"]) : EntryText mark := by
      revert mark
      decide
    simp only [write_host_port]
    split
    · exact (((hmark "[" (by simp)).append hhost.entry).append (hmark "]:" (by simp))).append hport
    · exact (hhost.entry.append (hmark ":" (by simp))).append hport

/-- Round trip of an address with or without its port. -/
theorem parse_host_port_write_host_port {int : List Char → Option Int} {port : Option Nat}
    (hint : ∀ n ∈ port, int (toString n).toList = some (n : Int)) {host : String}
    (hhost : HostText host) :
    parse_host_port int (write_host_port host port) = (host, ((port.getD 0 : Nat) : Int)) := by
  have hclosing : ∀ c ∈ host.toList, (decide (c ≠ ']')) = true := fun c hc =>
    decide_eq_true fun heq => hhost.brackets.2 (heq ▸ hc)
  cases port with
  | none =>
    unfold parse_host_port write_host_port
    split
    · rename_i rest hopening
      exact absurd (by simp [hopening]) hhost.brackets.1
    · rw [if_neg hhost.colons]
      rfl
  | some port =>
    have hread : int (Nat.toDigits 10 port) = some (port : Int) := by simpa using hint port rfl
    simp only [write_host_port]
    split
    · have htext : ("[" ++ host ++ "]:" ++ toString port).toList =
          '[' :: (host.toList ++ ']' :: ':' :: (toString port).toList) := by
        simp
      have hhost_text : (host.toList ++ ']' :: ':' :: (toString port).toList).takeWhile
          (· ≠ ']') = host.toList := by
        rw [List.takeWhile_append_of_pos hclosing]
        simp
      have hport_text : (host.toList ++ ']' :: ':' :: (toString port).toList).dropWhile
          (· ≠ ']') = ']' :: ':' :: (toString port).toList := by
        rw [List.dropWhile_append_of_pos hclosing]
        simp
      simp only [parse_host_port, htext, hhost_text, hport_text]
      simp [hread]
    · rename_i hcolon
      have htext : (host ++ ":" ++ toString port).toList =
          host.toList ++ ':' :: (toString port).toList := by
        simp
      have hbefore : ∀ c ∈ host.toList, (decide (c ≠ ':')) = true := fun c hc =>
        decide_eq_true fun heq => hcolon (heq ▸ hc)
      have hhost_text : (host.toList ++ ':' :: (toString port).toList).takeWhile (· ≠ ':') =
          host.toList := by
        rw [List.takeWhile_append_of_pos hbefore]
        simp
      have hport_text : (host.toList ++ ':' :: (toString port).toList).dropWhile (· ≠ ':') =
          ':' :: (toString port).toList := by
        rw [List.dropWhile_append_of_pos hbefore]
        simp
      have hdigits : (toString port).toList.count ':' = 0 := List.count_eq_zero.mpr fun hmem =>
        absurd (digit_of_mem_toString hmem) (by decide)
      have hone : (host.toList ++ ':' :: (toString port).toList).count ':' = 1 := by
        rw [List.count_append, List.count_eq_zero.mpr hcolon, List.count_cons_self, hdigits]
      unfold parse_host_port
      split
      · rename_i rest hopening
        rw [htext] at hopening
        cases hchars : host.toList with
        | nil => exact absurd (String.toList_eq_nil_iff.mp hchars) hhost.nonempty
        | cons first later =>
          rw [hchars, List.cons_append] at hopening
          obtain ⟨rfl, -⟩ := List.cons.inj hopening
          exact absurd (by simp [hchars]) hhost.brackets.1
      · simp only [htext, hone, hhost_text, hport_text]
        simp [hread]

/-- One header in place of all of its name, whatever their case. -/
def replace_header (name value : Bytes) (headers : List (Bytes × Bytes)) : List (Bytes × Bytes) :=
  headers.filter (fun header => lower_bytes header.1 ≠ lower_bytes name) ++ [(name, value)]

theorem values_named_replace_header (query name value : Bytes) (headers : List (Bytes × Bytes)) :
    values_named query (replace_header name value headers) =
      if lower_bytes query = lower_bytes name then [value] else values_named query headers := by
  unfold values_named replace_header
  rw [List.filter_append, List.map_append, List.filter_filter]
  split
  · rename_i hsame
    simp [hsame]
  · rename_i hother
    have hkept : headers.filter (fun header => decide (lower_bytes header.1 = lower_bytes query) &&
        decide (lower_bytes header.1 ≠ lower_bytes name)) =
        headers.filter fun header => lower_bytes header.1 = lower_bytes query := by
      apply List.filter_congr
      intro header _
      by_cases hheader : lower_bytes header.1 = lower_bytes query
      · simp [hheader, hother]
      · simp [hheader]
    have hlast : [(name, value)].filter (fun header => lower_bytes header.1 = lower_bytes query) =
        [] := by
      simp [Ne.symm hother]
    rw [hkept, hlast, List.map_nil, List.append_nil]

/-- The values that the server sees under a name. -/
theorem header_values_lowered {name query : Bytes} (hname : lower_bytes query = name)
    (headers : List (Bytes × Bytes)) :
    header_values name (lowered headers) = values_named query headers := by
  unfold header_values values_named lowered
  rw [List.filter_map, List.map_map, hname]
  rfl

theorem single_value_eq {name value : Bytes} {headers : List (Bytes × Bytes)}
    (hvalues : header_values name headers = [value]) : single_value name headers = some value := by
  rw [single_value, hvalues]

/-- A proxy on the way to the server: the address that it has and the port it connects from,
and what it tells of the machine in front of it, which may be the port of that machine and the
scheme of the connection. -/
structure Proxy where
  address : String × Nat
  tells_port : Bool
  scheme : Option String

namespace Proxy

/-- A machine as the proxy writes it down. -/
def written (self : Proxy) (peer : String × Nat) : String :=
  write_host_port peer.1 (if self.tells_port then some peer.2 else none)

/-- The headers that the proxy sends on: its peer is behind the ones that it was told of. -/
def forward (self : Proxy) (peer : String × Nat) (headers : List (Bytes × Bytes)) :
    List (Bytes × Bytes) :=
  let told := values_named (ascii "X-Forwarded-For") headers ++ [ascii (self.written peer)]
  let headers := match self.scheme with
    | some scheme => replace_header (ascii "X-Forwarded-Proto") (ascii scheme) headers
    | none => headers
  replace_header (ascii "X-Forwarded-For") ((ascii ", ").intercalate told) headers

end Proxy

/-- A request on its way through proxies: the machine that it comes from in the end, and its
headers there. -/
def relay : List Proxy → String × Nat → List (Bytes × Bytes) →
    (String × Nat) × List (Bytes × Bytes)
  | [], peer, headers => (peer, headers)
  | proxy :: later, peer, headers => relay later proxy.address (proxy.forward peer headers)

theorem forward_values (proxy : Proxy) (peer : String × Nat) (headers : List (Bytes × Bytes)) :
    values_named (ascii "X-Forwarded-For") (proxy.forward peer headers) =
      [(ascii ", ").intercalate
        (values_named (ascii "X-Forwarded-For") headers ++ [ascii (proxy.written peer)])] ∧
    values_named (ascii "X-Forwarded-Proto") (proxy.forward peer headers) =
      proxy.scheme.elim (values_named (ascii "X-Forwarded-Proto") headers) fun scheme =>
        [ascii scheme] := by
  have hother : lower_bytes (ascii "X-Forwarded-Proto") ≠ lower_bytes (ascii "X-Forwarded-For") := by
    decide
  unfold Proxy.forward
  rw [values_named_replace_header, values_named_replace_header, if_pos rfl, if_neg hother]
  refine ⟨rfl, ?_⟩
  cases proxy.scheme with
  | none => rfl
  | some scheme =>
    dsimp only [Option.elim]
    rw [values_named_replace_header, if_pos rfl]

theorem strip_entry {text : String} (htext : EntryText text) : strip text.toList = text.toList := by
  have hkept {chars : List Char} (hchars : ∀ c ∈ chars, isspace c = false) :
      chars.dropWhile isspace = chars := by
    cases chars with
    | nil => rfl
    | cons c rest => exact List.dropWhile_cons_of_neg (by simp [hchars c])
  have hspaces : ∀ c ∈ text.toList, isspace c = false := fun c hc => (htext c hc).2.1
  have hreversed : ∀ c ∈ text.toList.reverse, isspace c = false := fun c hc =>
    hspaces c (List.mem_reverse.mp hc)
  rw [strip, hkept hspaces, hkept hreversed, List.reverse_reverse]

/-- An entry is itself, with a blank in front of it or none. -/
theorem parse_raw_hosts_entry {text : String} (htext : EntryText text) :
    parse_raw_hosts (decode_latin1 (ascii text)) = [text] ∧
      parse_raw_hosts (decode_latin1 (32 :: ascii text)) = [text] := by
  have hcomma : ',' ∉ text.toList := fun hmem => (htext ',' hmem).2.2 rfl
  have hdecoded : decode_latin1 (ascii text) = text :=
    decode_latin1_ascii fun c hc => Nat.lt_trans (htext c hc).1 (by decide)
  have hblank : (decode_latin1 (32 :: ascii text)).toList = ' ' :: text.toList := by
    conv_rhs => rw [← hdecoded]
    simp [decode_latin1]
  constructor
  · rw [hdecoded, parse_raw_hosts, List.splitOn_eq_singleton hcomma]
    simp [strip_entry htext]
  · have hblank_comma : ',' ∉ ' ' :: text.toList := by simpa using hcomma
    have hstripped : strip (' ' :: text.toList) = strip text.toList := by
      rw [strip, List.dropWhile_cons_of_pos (by decide), ← strip]
    rw [parse_raw_hosts, hblank, List.splitOn_eq_singleton hblank_comma]
    simp [hstripped, strip_entry htext]

theorem intercalate_concat {α : Type} (separator : List α) {values : List (List α)}
    (hvalues : values ≠ []) (last : List α) :
    separator.intercalate (values ++ [last]) =
      separator.intercalate values ++ (separator ++ last) := by
  induction values with
  | nil => exact absurd rfl hvalues
  | cons first rest ih =>
    cases rest with
    | nil => simp
    | cons second later =>
      have hlater := ih (List.cons_ne_nil second later)
      rw [List.cons_append, List.cons_append, List.intercalate_cons_cons, ← List.cons_append, hlater,
        List.intercalate_cons_cons]
      simp only [List.append_assoc]

/-- An entry behind a comma is the last of the list. -/
theorem parse_raw_hosts_intercalate (values : List Bytes) {text : String} (htext : EntryText text) :
    ∃ before, parse_raw_hosts (decode_latin1 ((ascii ", ").intercalate (values ++ [ascii text]))) =
      before ++ [text] ∧
      ∀ value, values = [value] → before = parse_raw_hosts (decode_latin1 value) := by
  obtain ⟨halone, hbehind⟩ := parse_raw_hosts_entry htext
  have hcomma : ascii ", " ++ ascii text = 44 :: 32 :: ascii text := by
    rw [show ascii ", " = [44, 32] by decide]
    rfl
  by_cases hvalues : values = []
  · subst hvalues
    exact ⟨[], by simpa using halone, by simp⟩
  · refine ⟨parse_raw_hosts (decode_latin1 ((ascii ", ").intercalate values)), ?_, ?_⟩
    · rw [intercalate_concat _ hvalues, hcomma, parse_raw_hosts_append, hbehind]
    · rintro value rfl
      simp

section
variable {Address Network : Type} [DecidableEq Address] {parsers : Parsers Address Network}
  {trusted : TrustedHosts Address Network}

/-- `int` reads the port of a machine. -/
def ReadsPort (parsers : Parsers Address Network) (machine : String × Nat) : Prop :=
  parsers.int (toString machine.2).toList = some (machine.2 : Int)

/-- The headers tell of a machine behind trusted ones: its entry is the right-most untrusted
one of a single `X-Forwarded-For`. -/
def TellsOf (parsers : Parsers Address Network) (trusted : TrustedHosts Address Network)
    (headers : List (Bytes × Bytes)) (machine : String × Int) : Prop :=
  ∃ value before entry after, values_named (ascii "X-Forwarded-For") headers = [value] ∧
    parse_raw_hosts (decode_latin1 value) = before ++ entry :: after ∧
    parse_host_port parsers.int entry = machine ∧ Untrusted parsers trusted entry ∧
    ∀ later ∈ after, ¬Untrusted parsers trusted later

variable {peer : String × Nat} (hint : ReadsPort parsers peer) (proxy : Proxy)
  (hpeer : HostText peer.1)
include hint hpeer

omit [DecidableEq Address] in
theorem parse_written : parse_host_port parsers.int (proxy.written peer) =
    (peer.1, ((if proxy.tells_port then peer.2 else 0 : Nat) : Int)) := by
  have hport : ∀ n ∈ if proxy.tells_port then some peer.2 else none,
      parsers.int (toString n).toList = some (n : Int) := by
    split
    · rintro _ ⟨⟩
      exact hint
    · exact nofun
  rw [Proxy.written, parse_host_port_write_host_port hport hpeer]
  split <;> rfl

/-- The proxy that an untrusted machine connects to tells of it, whatever that machine says. -/
theorem tells_of_peer (huntrusted : trusted.contains parsers peer.1 = false)
    (headers : List (Bytes × Bytes)) :
    TellsOf parsers trusted (proxy.forward peer headers)
      (peer.1, ((if proxy.tells_port then peer.2 else 0 : Nat) : Int)) := by
  have hwritten := parse_written hint proxy hpeer
  have htext : EntryText (proxy.written peer) := hpeer.entry_write_host_port _
  obtain ⟨before, hhosts, -⟩ := parse_raw_hosts_intercalate
    (values_named (ascii "X-Forwarded-For") headers) htext
  refine ⟨_, before, proxy.written peer, [], (forward_values proxy peer headers).1, hhosts, hwritten,
    ?_, by simp⟩
  rw [Untrusted, hwritten, huntrusted]

/-- A proxy that a trusted machine connects to tells of the same machine as that one. -/
theorem TellsOf.forward {headers : List (Bytes × Bytes)} {machine : String × Int}
    (htells : TellsOf parsers trusted headers machine)
    (htrusted : trusted.contains parsers peer.1 = true) :
    TellsOf parsers trusted (proxy.forward peer headers) machine := by
  obtain ⟨value, before, entry, after, hvalue, hentries, hentry, huntrusted, hafter⟩ := htells
  have htext : EntryText (proxy.written peer) := hpeer.entry_write_host_port _
  obtain ⟨front, hhosts, hfront⟩ := parse_raw_hosts_intercalate
    (values_named (ascii "X-Forwarded-For") headers) htext
  refine ⟨_, before, entry, after ++ [proxy.written peer], (forward_values proxy peer headers).1,
    ?_, hentry, huntrusted, ?_⟩
  · rw [hfront value hvalue, hentries] at hhosts
    rw [hhosts, List.append_assoc, List.cons_append]
  · simp only [List.forall_mem_append, List.forall_mem_singleton]
    refine ⟨hafter, ?_⟩
    simp [Untrusted, parse_written hint proxy hpeer, htrusted]

end

section
variable {Address Network : Type} [DecidableEq Address] {parsers : Parsers Address Network}
  {trusted : TrustedHosts Address Network}
  {proxies : List Proxy}
  (hproxies : ∀ proxy ∈ proxies, HostText proxy.address.1 ∧
    trusted.contains parsers proxy.address.1 = true ∧ ReadsPort parsers proxy.address)
include hproxies

/-- Trusted proxies behind a trusted machine go on to tell what it tells. -/
theorem TellsOf.relay {peer : String × Nat} {headers : List (Bytes × Bytes)}
    {machine : String × Int} (htells : TellsOf parsers trusted headers machine)
    (hpeer : HostText peer.1) (htrusted : trusted.contains parsers peer.1 = true)
    (hint : ReadsPort parsers peer) :
    TellsOf parsers trusted (relay proxies peer headers).2 machine ∧
      trusted.contains parsers (relay proxies peer headers).1.1 = true := by
  induction proxies generalizing peer headers with
  | nil => exact ⟨htells, htrusted⟩
  | cons proxy later ih =>
    rw [List.forall_mem_cons] at hproxies
    obtain ⟨⟨haddress, haddress_trusted, hport⟩, hlater⟩ := hproxies
    exact ih hlater (htells.forward hint proxy hpeer htrusted) haddress haddress_trusted hport

end

/-- The schemes that the proxies tell replace the one before, so that the last is left. -/
theorem relay_scheme (proxies : List Proxy) (peer : String × Nat) (headers : List (Bytes × Bytes)) :
    values_named (ascii "X-Forwarded-Proto") (relay proxies peer headers).2 =
      ((proxies.filterMap Proxy.scheme).getLast?).elim
        (values_named (ascii "X-Forwarded-Proto") headers) fun scheme => [ascii scheme] := by
  induction proxies generalizing peer headers with
  | nil => rfl
  | cons proxy later ih =>
    rw [relay, ih, (forward_values proxy peer headers).2]
    cases hscheme : proxy.scheme with
    | none => rw [List.filterMap_cons_none hscheme, Option.elim_none]
    | some scheme =>
      rw [List.filterMap_cons_some hscheme, List.getLast?_cons, Option.elim_some]
      cases (later.filterMap Proxy.scheme).getLast? <;> rfl

section
variable {Address Network : Type} [DecidableEq Address] {parsers : Parsers Address Network}
  {trusted : TrustedHosts Address Network} {core : RequestCore} {client : String × Int}
  (hclient : core.client = some client) (htrusted : trusted.contains parsers client.1 = true)
  {headers : List (Bytes × Bytes)} (hheaders : core.headers = lowered headers)
include hclient htrusted hheaders

/-- From a trusted peer, the machine that the headers tell of is the client. -/
theorem overrides_of_tells (halways : trusted.always_trust = false) {machine : String × Int}
    (htells : TellsOf parsers trusted headers machine) (hmachine : machine.1 ≠ "") :
    (core.overrides parsers trusted).2 = some machine := by
  obtain ⟨value, before, entry, after, hvalue, hentries, rfl, huntrusted, hafter⟩ := htells
  have hsingle : single_value (ascii "x-forwarded-for") core.headers = some value := by
    have hname : lower_bytes (ascii "X-Forwarded-For") = ascii "x-forwarded-for" := by decide
    rw [hheaders]
    exact single_value_eq ((header_values_lowered hname headers).trans hvalue)
  have haddress := get_trusted_client_address_untrusted parsers trusted halways hentries huntrusted
    hafter
  simp only [RequestCore.overrides, hclient, forwarded_overrides_eq, htrusted, Bool.true_eq_false,
    if_false, hsingle, Option.bind_some, haddress, if_pos hmachine]

/-- From a trusted peer, the scheme that the headers tell is the scheme. -/
theorem overrides_of_scheme {scheme : String} (hscheme : scheme ∈ ["http", "https"])
    (hvalue : values_named (ascii "X-Forwarded-Proto") headers = [ascii scheme]) :
    (core.overrides parsers trusted).1 = some scheme := by
  have hsingle : single_value (ascii "x-forwarded-proto") core.headers = some (ascii scheme) := by
    have hname : lower_bytes (ascii "X-Forwarded-Proto") = ascii "x-forwarded-proto" := by decide
    rw [hheaders]
    exact single_value_eq ((header_values_lowered hname headers).trans hvalue)
  have hread : String.ofList (strip (decode_latin1 (ascii scheme)).toList) = scheme := by
    simp only [List.mem_cons, List.not_mem_nil, or_false] at hscheme
    obtain rfl | rfl := hscheme <;> decide
  have hknown : scheme = "http" ∨ scheme = "https" := by simpa using hscheme
  simp only [RequestCore.overrides, hclient, forwarded_overrides_eq, htrusted, Bool.true_eq_false,
    if_false, hsingle, Option.bind_some, hread, if_pos hknown]

end

/-- The entries of the environ that name the client. -/
theorem remote_entries {Address Network : Type} [DecidableEq Address]
    {parsers : Parsers Address Network} (urllib : Urllib) {trusted : TrustedHosts Address Network}
    {core : RequestCore} {client : String × Int} (hclient : core.client = some client)
    {machine : String × Nat}
    (hmachine : (core.overrides parsers trusted).2.getD client = (machine.1, (machine.2 : Int))) :
    let vars := core.proxied_vars parsers urllib trusted
    vars.get? "REMOTE_ADDR" = some machine.1 ∧ vars.get? "REMOTE_HOST" = some machine.1 ∧
      vars.get? "REMOTE_PORT" = some (toString machine.2) := by
  obtain ⟨-, -, -, hhost, hport⟩ := core.connection_entries parsers urllib trusted
  simp only [hclient, Option.map_some, hmachine] at hhost hport
  exact ⟨hhost "REMOTE_ADDR" (by simp), hhost "REMOTE_HOST" (by simp), hport⟩

section
variable {Address Network : Type} [DecidableEq Address]

/-- However many trusted proxies a request goes through, and whatever an untrusted machine
puts in its headers, the environ names that machine as the client, with its port if the proxy
that it connects to tells the port, and has the scheme that a proxy told last. -/
theorem origin_named (parsers : Parsers Address Network) (urllib : Urllib) {allow_ips : AllowIps}
    {env : Option String} (hvalue : allow_ips.value env ≠ "*")
    {proxies : List Proxy}
    (hproxies : ∀ proxy ∈ proxies, HostText proxy.address.1 ∧
      (trusted_hosts parsers allow_ips env).contains parsers proxy.address.1 = true ∧
      ∀ scheme ∈ proxy.scheme, scheme ∈ ["http", "https"])
    {origin : String × Nat} (horigin : HostText origin.1)
    (hint : ∀ machine ∈ origin :: proxies.map Proxy.address, ReadsPort parsers machine)
    (huntrusted : (trusted_hosts parsers allow_ips env).contains parsers origin.1 = false)
    (sent : List (Bytes × Bytes)) (method : Bytes) (path : Option Bytes) (query body : Bytes)
    (server : Option (String × Int)) :
    let arrived := relay proxies origin sent
    let core := RequestCore.create method path query arrived.2 body
      (some (arrived.1.1, (arrived.1.2 : Int))) server
    let vars := core.proxied_vars parsers urllib (trusted_hosts parsers allow_ips env)
    vars.get? "REMOTE_ADDR" = some origin.1 ∧ vars.get? "REMOTE_HOST" = some origin.1 ∧
      vars.get? "REMOTE_PORT" =
        some (toString (if proxies.head?.all Proxy.tells_port then origin.2 else 0)) ∧
      (proxies = [] → vars.get? "wsgi.url_scheme" = some "http") ∧
      ∀ scheme ∈ (proxies.filterMap Proxy.scheme).getLast?,
        vars.get? "wsgi.url_scheme" = some scheme := by
  intro arrived core vars
  have halways : (trusted_hosts parsers allow_ips env).always_trust = false := by
    rw [← Bool.not_eq_true, trusted_hosts, always_trust_iff]
    exact hvalue
  obtain ⟨hscheme, -⟩ :=
    core.connection_entries parsers urllib (trusted_hosts parsers allow_ips env)
  cases proxies with
  | nil =>
    have hnone : core.overrides parsers (trusted_hosts parsers allow_ips env) = (none, none) := by
      have hclient : core.client = some (origin.1, (origin.2 : Int)) := rfl
      simp only [RequestCore.overrides, hclient, forwarded_overrides_eq, huntrusted, if_true]
    obtain ⟨haddr, hhost, hport⟩ := @remote_entries _ _ _ parsers urllib _ core _ rfl origin
      (by rw [hnone]; rfl)
    rw [hnone] at hscheme
    exact ⟨haddr, hhost, hport, fun _ => hscheme, by simp⟩
  | cons proxy later =>
    obtain ⟨⟨haddress, htrusted, -⟩, hlater⟩ := List.forall_mem_cons.mp hproxies
    rw [List.map_cons, List.forall_mem_cons, List.forall_mem_cons, List.forall_mem_map] at hint
    obtain ⟨hport, hproxy_port, hlater_ports⟩ := hint
    have hbehind : ∀ other ∈ later, HostText other.address.1 ∧
        (trusted_hosts parsers allow_ips env).contains parsers other.address.1 = true ∧
        ReadsPort parsers other.address := fun other hmem =>
      ⟨(hlater other hmem).1, (hlater other hmem).2.1, hlater_ports other hmem⟩
    have htold := tells_of_peer hport proxy horigin huntrusted sent
    obtain ⟨htells, harrived⟩ := htold.relay hbehind haddress htrusted hproxy_port
    have hoverride : (core.overrides parsers (trusted_hosts parsers allow_ips env)).2 =
        some (origin.1, ((if proxy.tells_port then origin.2 else 0 : Nat) : Int)) :=
      overrides_of_tells rfl harrived rfl halways htells horigin.nonempty
    obtain ⟨haddr, hhost, hremote⟩ := @remote_entries _ _ _ parsers urllib _ core _ rfl
      (origin.1, if proxy.tells_port then origin.2 else 0) (by rw [hoverride]; rfl)
    refine ⟨haddr, hhost, hremote, by simp, fun scheme htold => ?_⟩
    have hmem : scheme ∈ ["http", "https"] := by
      obtain ⟨teller, hteller, htells_scheme⟩ :=
        List.mem_filterMap.mp (List.mem_of_getLast? (Option.mem_def.mp htold))
      exact (hproxies teller hteller).2.2 scheme (Option.mem_def.mpr htells_scheme)
    have hvalues := relay_scheme (proxy :: later) origin sent
    rw [Option.mem_def.mp htold, Option.elim_some] at hvalues
    have hproto : (core.overrides parsers (trusted_hosts parsers allow_ips env)).1 = some scheme :=
      overrides_of_scheme rfl harrived rfl hmem hvalues
    rw [hscheme, hproto]
    rfl

end

/-- `int` of a text of digits. -/
def digits_int (chars : List Char) : Option Int :=
  if chars ≠ [] ∧ chars.all Char.isDigit then some (Nat.ofDigitChars 10 chars 0) else none

theorem digits_int_toString (n : Nat) : digits_int (toString n).toList = some (n : Int) := by
  have htext : (toString n).toList = Nat.toDigits 10 n := Nat.toList_repr
  have hdigits : ∀ c ∈ Nat.toDigits 10 n, c.isDigit = true := fun c hc =>
    Nat.isDigit_of_mem_toDigits (by decide) (by decide) hc
  rw [htext, digits_int, if_pos ⟨Nat.toDigits_ne_nil, List.all_eq_true.mpr hdigits⟩,
    Nat.ofDigitChars_ten_toDigits]

/-- A client that forges an address and a scheme comes through two proxies. -/
theorem origin_named_forged :
    let parsers : Parsers String Unit := ⟨digits_int, some, fun _ => none, fun _ _ => false⟩
    let urllib : Urllib := ⟨id, encode_utf8, fun _ _ => (none, none)⟩
    let allow_ips : AllowIps := .text "10.0.0.1, fd00::2"
    let proxies : List Proxy :=
      [⟨("fd00::2", 5000), true, some "https"⟩, ⟨("10.0.0.1", 6000), false, none⟩]
    let sent := [(ascii "x-forwarded-for", ascii "127.0.0.1"),
      (ascii "X-Forwarded-Proto", ascii "http"), (ascii "X-Forwarded-For", ascii "10.0.0.1")]
    let arrived := relay proxies ("2001:db8::7", 4711) sent
    let core := RequestCore.create (ascii "GET") (some (ascii "/")) [] arrived.2 []
      (some (arrived.1.1, (arrived.1.2 : Int))) none
    let vars := core.proxied_vars parsers urllib (trusted_hosts parsers allow_ips none)
    vars.get? "REMOTE_ADDR" = some "2001:db8::7" ∧ vars.get? "REMOTE_PORT" = some "4711" ∧
      vars.get? "wsgi.url_scheme" = some "https" := by
  intro parsers urllib allow_ips proxies sent arrived core vars
  have hproxies : ∀ proxy ∈ proxies, HostText proxy.address.1 ∧
      (trusted_hosts parsers allow_ips none).contains parsers proxy.address.1 = true ∧
      ∀ scheme ∈ proxy.scheme, scheme ∈ ["http", "https"] := by decide +kernel
  have horigin : HostText "2001:db8::7" := by decide +kernel
  have huntrusted : (trusted_hosts parsers allow_ips none).contains parsers "2001:db8::7" = false := by
    decide +kernel
  obtain ⟨haddr, -, hport, -, hscheme⟩ := @origin_named String Unit _ parsers urllib allow_ips none
    (by decide) _ hproxies ("2001:db8::7", 4711) horigin (fun _ _ => digits_int_toString _)
    huntrusted sent (ascii "GET") (some (ascii "/")) [] [] none
  exact ⟨haddr, hport.trans (by decide), hscheme "https" rfl⟩

end massless.request
