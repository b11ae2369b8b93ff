import Massless.Protocol.Segmentation

open python

namespace massless.protocol

/-- A captured request of the running program: its headers are a list object,
told apart from others by its place among those ever made. -/
structure Captured where
  method : Bytes
  url : Bytes
  headers : Nat
  body : Bytes
  keep_alive : Bool

/-- `_Collector`, with every header list it has made. -/
structure HeapCollector where
  lists : List (List (Bytes × Bytes))
  url : Bytes
  headers : Nat
  body : Bytes
  requests : List Captured

namespace HeapCollector

/-- The contents of a header list now. -/
def read (self : HeapCollector) (headers : Nat) : List (Bytes × Bytes) :=
  self.lists[headers]?.getD []

/-- `self.headers = []` -/
def new_headers (self : HeapCollector) : HeapCollector :=
  { self with lists := self.lists ++ [[]], headers := self.lists.length }

/-- `__cinit__` -/
def new : HeapCollector := new_headers ⟨[], [], 0, [], []⟩

def on_message_begin (self : HeapCollector) : HeapCollector :=
  new_headers { self with url := [], body := [] }

def on_url (self : HeapCollector) (url : Bytes) : HeapCollector :=
  { self with url := self.url ++ url }

/-- `self.headers.append((name, value))` -/
def on_header (self : HeapCollector) (name value : Bytes) : HeapCollector :=
  { self with lists := self.lists.modify self.headers (· ++ [(name, value)]) }

def on_body (self : HeapCollector) (body : Bytes) : HeapCollector :=
  { self with body := self.body ++ body }

/-- `_keep_alive` -/
def keep_alive (self : HeapCollector) (version : String) : Bool :=
  if version = "1.0" then false
  else !(self.read self.headers).any fun header =>
    lower_bytes header.1 = ascii "connection" ∧ lower_bytes header.2 = ascii "close"

/-- The captured request holds the header list itself, not a copy of it. -/
def on_message_complete (self : HeapCollector) (method : Bytes) (version : String) :
    HeapCollector :=
  new_headers { self with
    url := [], body := []
    requests := self.requests ++
      [⟨method, self.url, self.headers, self.body, self.keep_alive version⟩] }

def receive (self : HeapCollector) : Callback → HeapCollector
  | .on_message_begin => self.on_message_begin
  | .on_url url => self.on_url url
  | .on_header name value => self.on_header name value
  | .on_headers_complete _ => self
  | .on_body body => self.on_body body
  | .on_message_complete method version => self.on_message_complete method version

def take (self : HeapCollector) : List Captured × HeapCollector :=
  (self.requests, { self with requests := [] })

/-- What a captured request says now. -/
def message (self : HeapCollector) (captured : Captured) : Message :=
  ⟨captured.method, captured.url, self.read captured.headers, captured.body, captured.keep_alive⟩

end HeapCollector

/-- The parser calls back, or the program takes what is captured. -/
inductive Exchange where
  | callback (callback : Callback)
  | take

/-- The collector of a connection, and everything taken from it. -/
structure Session where
  collector : HeapCollector
  taken : List Captured

namespace Session

def new : Session := ⟨.new, []⟩

def step (self : Session) : Exchange → Session
  | .callback callback => { self with collector := self.collector.receive callback }
  | .take => ⟨self.collector.take.2, self.taken ++ self.collector.take.1⟩

def run (exchanges : List Exchange) : Session := exchanges.foldl step new

/-- The captured requests, taken ones first. -/
def captured (self : Session) : List Captured := self.taken ++ self.collector.requests

/-- The header lists in use. -/
def in_use (self : Session) : List Nat :=
  self.captured.map Captured.headers ++ [self.collector.headers]

/-- No header list is in use twice, and each one in use was made. -/
structure Separate (session : Session) : Prop where
  nodup : session.in_use.Nodup
  made : ∀ headers ∈ session.in_use, headers < session.collector.lists.length

/-- The session with its header lists as values, and nothing taken. -/
def view (self : Session) : Collector where
  url := self.collector.url
  headers := self.collector.read self.collector.headers
  body := self.collector.body
  requests := self.captured.map self.collector.message

end Session

/-- The callbacks among the exchanges. -/
def callbacks : List Exchange → List Callback
  | [] => []
  | .callback callback :: rest => callback :: callbacks rest
  | .take :: rest => callbacks rest

namespace HeapCollector

variable {self : HeapCollector} {headers : Nat}

theorem read_new_headers (hmade : headers < self.lists.length) :
    self.new_headers.read headers = self.read headers := by
  simp only [read, new_headers, List.getElem?_append_left hmade]

theorem read_new_headers_current : self.new_headers.read self.new_headers.headers = [] := by
  simp [read, new_headers]

theorem read_on_header (name value : Bytes) (hother : headers ≠ self.headers) :
    (self.on_header name value).read headers = self.read headers := by
  simp only [read, on_header, List.getElem?_modify_ne _ _ hother.symm]

theorem read_on_header_current (name value : Bytes) (hmade : self.headers < self.lists.length) :
    (self.on_header name value).read self.headers = self.read self.headers ++ [(name, value)] := by
  simp [read, on_header, List.getElem?_eq_getElem hmade]

end HeapCollector

namespace Session

variable {self : Session}

theorem Separate.captured_made (hself : self.Separate) {captured : Captured}
    (hin : captured ∈ self.captured) : captured.headers < self.collector.lists.length := by
  apply hself.made
  exact List.mem_append_left _ (List.mem_map_of_mem hin)

theorem Separate.current_made (hself : self.Separate) :
    self.collector.headers < self.collector.lists.length := by
  apply hself.made
  exact List.mem_append_right _ List.mem_cons_self

theorem Separate.captured_ne (hself : self.Separate) {captured : Captured}
    (hin : captured ∈ self.captured) : captured.headers ≠ self.collector.headers := by
  have hdisjoint := List.disjoint_of_nodup_append hself.nodup
  intro heq
  exact hdisjoint (List.mem_map_of_mem hin) (heq ▸ List.mem_cons_self)

theorem separate_new : new.Separate := by
  constructor
  · exact List.nodup_singleton _
  · intro headers hin
    rw [List.mem_singleton.mp hin]
    exact Nat.lt_add_one 0

/-- A header list of its own is made when a message starts or completes, for
whatever then is captured. -/
theorem Separate.new_headers (hself : self.Separate) (collector : HeapCollector)
    (captured : List Captured) (hlists : collector.lists = self.collector.lists)
    (hcaptured : ∀ headers ∈ captured.map Captured.headers, headers ∈ self.in_use)
    (hnodup : (captured.map Captured.headers).Nodup) :
    (captured.map Captured.headers ++ [collector.new_headers.headers]).Nodup ∧
      ∀ headers ∈ captured.map Captured.headers ++ [collector.new_headers.headers],
        headers < collector.new_headers.lists.length := by
  have hbound : ∀ headers ∈ captured.map Captured.headers, headers < collector.lists.length := by
    intro headers hin
    rw [hlists]
    exact hself.made headers (hcaptured headers hin)
  have hlength : collector.new_headers.lists.length = collector.lists.length + 1 :=
    List.length_append
  constructor
  · apply hnodup.append (List.nodup_singleton _)
    intro headers hin hcurrent
    have hnew := List.mem_singleton.mp hcurrent
    have hlt := hbound headers hin
    exact absurd (hnew ▸ hlt) (Nat.lt_irrefl _)
  · intro headers hin
    rw [hlength]
    rcases List.mem_append.mp hin with hold | hcurrent
    · exact Nat.lt_succ_of_lt (hbound headers hold)
    · rw [List.mem_singleton.mp hcurrent]
      exact Nat.lt_add_one _

theorem Separate.step (hself : self.Separate) (exchange : Exchange) :
    (self.step exchange).Separate := by
  have hold : (self.captured.map Captured.headers).Nodup := (List.nodup_append.mp hself.nodup).1
  cases exchange with
  | take =>
    have hcaptured : (self.step .take).captured = self.captured := by
      simp [captured, Session.step, HeapCollector.take]
    have hin_use : (self.step .take).in_use = self.in_use := by
      rw [in_use, hcaptured]
      rfl
    exact ⟨hin_use ▸ hself.nodup, hin_use ▸ hself.made⟩
  | callback callback =>
    cases callback with
    | on_url url => exact ⟨hself.nodup, hself.made⟩
    | on_headers_complete version => exact ⟨hself.nodup, hself.made⟩
    | on_body body => exact ⟨hself.nodup, hself.made⟩
    | on_header name value =>
      refine ⟨hself.nodup, ?_⟩
      intro headers hin
      have hlength : (self.step (.callback (.on_header name value))).collector.lists.length =
          self.collector.lists.length := List.length_modify _ _ _
      rw [hlength]
      exact hself.made headers hin
    | on_message_begin =>
      obtain ⟨hnodup, hmade⟩ := hself.new_headers
        { self.collector with url := [], body := [] } self.captured rfl
        (fun headers hin => List.mem_append_left _ hin) hold
      exact ⟨hnodup, hmade⟩
    | on_message_complete method version =>
      let message : Captured := ⟨method, self.collector.url, self.collector.headers,
        self.collector.body, self.collector.keep_alive version⟩
      have hin_use : (self.captured ++ [message]).map Captured.headers = self.in_use := by
        rw [List.map_append]
        rfl
      have hcaptured : (self.step (.callback (.on_message_complete method version))).captured =
          self.captured ++ [message] := (List.append_assoc _ _ _).symm
      obtain ⟨hnodup, hmade⟩ := hself.new_headers
        { self.collector with
          url := [], body := [], requests := self.collector.requests ++ [message] }
        (self.captured ++ [message]) rfl
        (fun headers hin => hin_use ▸ hin) (hin_use ▸ hself.nodup)
      constructor
      · rw [in_use, hcaptured]
        exact hnodup
      · rw [in_use, hcaptured]
        exact hmade

/-- What is captured says the same as long as its header lists read the same. -/
theorem map_message_congr {before after : HeapCollector} {captured : List Captured}
    (hread : ∀ message ∈ captured, after.read message.headers = before.read message.headers) :
    captured.map after.message = captured.map before.message := by
  apply List.map_congr_left
  intro message hin
  rw [HeapCollector.message, hread message hin, HeapCollector.message]

/-- Keeping a reference instead of a copy is not seen: the session goes as the
collector of values goes. -/
theorem view_step (hself : self.Separate) (exchange : Exchange) :
    (self.step exchange).view =
      match exchange with
      | .callback callback => self.view.receive callback
      | .take => self.view := by
  cases exchange with
  | take =>
    have hcaptured : (self.step .take).captured = self.captured := by
      simp [captured, Session.step, HeapCollector.take]
    rw [view, hcaptured]
    rfl
  | callback callback =>
    cases callback with
    | on_url url => rfl
    | on_headers_complete version => rfl
    | on_body body => rfl
    | on_header name value =>
      have hcurrent := HeapCollector.read_on_header_current name value hself.current_made
      have hcaptured : self.captured.map (self.collector.on_header name value).message =
          self.captured.map self.collector.message := by
        apply map_message_congr
        intro message hin
        exact HeapCollector.read_on_header name value (hself.captured_ne hin)
      exact Collector.mk.injEq .. ▸ ⟨rfl, hcurrent, rfl, hcaptured⟩
    | on_message_begin =>
      have hcaptured : self.captured.map self.collector.on_message_begin.message =
          self.captured.map self.collector.message := by
        apply map_message_congr
        intro message hin
        exact HeapCollector.read_new_headers (hself.captured_made hin)
      exact Collector.mk.injEq .. ▸ ⟨rfl, HeapCollector.read_new_headers_current, rfl, hcaptured⟩
    | on_message_complete method version =>
      let message : Captured := ⟨method, self.collector.url, self.collector.headers,
        self.collector.body, self.collector.keep_alive version⟩
      have hsplit : (self.step (.callback (.on_message_complete method version))).captured =
          self.captured ++ [message] := (List.append_assoc _ _ _).symm
      have hcaptured : (self.captured ++ [message]).map
            (self.collector.on_message_complete method version).message =
          (self.captured ++ [message]).map self.collector.message := by
        apply map_message_congr
        intro other hin
        apply HeapCollector.read_new_headers
        rcases List.mem_append.mp hin with hold | hnew
        · exact hself.captured_made hold
        · rw [List.mem_singleton.mp hnew]
          exact hself.current_made
      exact Collector.mk.injEq .. ▸ ⟨rfl, HeapCollector.read_new_headers_current, rfl,
        (congrArg _ hsplit).trans (hcaptured.trans List.map_append)⟩

theorem Separate.foldl_step (hself : self.Separate) (exchanges : List Exchange) :
    (exchanges.foldl Session.step self).Separate := by
  induction exchanges generalizing self with
  | nil => exact hself
  | cons exchange rest ih => exact ih (hself.step exchange)

/-- Whenever and however often the program takes, the session is what one
collector makes of the callbacks. -/
theorem view_foldl_step (hself : self.Separate) (exchanges : List Exchange) :
    (exchanges.foldl step self).view =
      (callbacks exchanges).foldl Collector.receive self.view := by
  induction exchanges generalizing self with
  | nil => rfl
  | cons exchange rest ih =>
    rw [List.foldl_cons, ih (hself.step exchange), view_step hself]
    cases exchange <;> rfl

end Session

/-- A request on the wire. -/
structure Incoming where
  method : Bytes
  version : String
  url : Bytes
  headers : List (Bytes × Bytes)
  body : Bytes

namespace Incoming

/-- The connection stays open: the request is not HTTP/1.0 and none of its
headers is `Connection: close`. -/
def keeps_alive (self : Incoming) : Prop :=
  self.version ≠ "1.0" ∧ ∀ header ∈ self.headers,
    ¬ (lower_bytes header.1 = ascii "connection" ∧ lower_bytes header.2 = ascii "close")

instance (self : Incoming) : Decidable self.keeps_alive := inferInstanceAs (Decidable (_ ∧ _))

/-- The request as it is to be captured. -/
def message (self : Incoming) : Message :=
  ⟨self.method, self.url, self.headers, self.body, decide self.keeps_alive⟩

/-- The callbacks that deliver a request, its URL and its body in fragments. -/
inductive Delivers (incoming : Incoming) : List Callback → Prop
  | cycle (url body : List Bytes) (hurl : url.flatten = incoming.url)
      (hbody : body.flatten = incoming.body) :
      Delivers incoming (.on_message_begin :: (url.map .on_url ++
        (incoming.headers.map (fun header => .on_header header.1 header.2) ++
          .on_headers_complete incoming.version :: (body.map .on_body ++
            [.on_message_complete incoming.method incoming.version]))))

/-- The callbacks of whole requests, and then of one that is still on its way. -/
inductive Stream : List Incoming → List Callback → Prop
  | on_its_way (incoming : Incoming) (first rest : List Callback)
      (hdelivers : incoming.Delivers (first ++ rest)) (hrest : rest ≠ []) : Stream [] first
  | whole (incoming : Incoming) (incomings : List Incoming) (first rest : List Callback)
      (hdelivers : incoming.Delivers first) (hrest : Stream incomings rest) :
      Stream (incoming :: incomings) (first ++ rest)

/-- A request completes with its last callback and no earlier. -/
theorem Delivers.incomplete {incoming : Incoming} {first rest : List Callback}
    (hdelivers : incoming.Delivers (first ++ rest)) (hrest : rest ≠ []) (method : Bytes)
    (version : String) : .on_message_complete method version ∉ first := by
  generalize hwhole : first ++ rest = whole at hdelivers
  obtain ⟨url, body, -, -⟩ := hdelivers
  have hinit := congrArg List.dropLast hwhole
  rw [List.dropLast_append_of_ne_nil hrest] at hinit
  intro hin
  have hin := List.mem_append_left rest.dropLast hin
  rw [hinit] at hin
  simp [List.dropLast_append_of_ne_nil, List.dropLast_cons_of_ne_nil] at hin

end Incoming

namespace Collector

theorem foldl_on_url (self : Collector) (fragments : List Bytes) :
    (fragments.map Callback.on_url).foldl receive self =
      { self with url := self.url ++ fragments.flatten } := by
  induction fragments generalizing self with
  | nil => simp
  | cons fragment rest ih => simp [ih, receive, on_url]

theorem foldl_on_header (self : Collector) (headers : List (Bytes × Bytes)) :
    (headers.map fun header => Callback.on_header header.1 header.2).foldl receive self =
      { self with headers := self.headers ++ headers } := by
  induction headers generalizing self with
  | nil => simp
  | cons header rest ih => simp [ih, receive, on_header]

theorem foldl_on_body (self : Collector) (fragments : List Bytes) :
    (fragments.map Callback.on_body).foldl receive self =
      { self with body := self.body ++ fragments.flatten } := by
  induction fragments generalizing self with
  | nil => simp
  | cons fragment rest ih => simp [ih, receive, on_body]

theorem keep_alive_eq (self : Collector) (incoming : Incoming)
    (hheaders : self.headers = incoming.headers) :
    self.keep_alive incoming.version = decide incoming.keeps_alive := by
  rw [Bool.eq_iff_iff, decide_eq_true_iff, Incoming.keeps_alive, ← hheaders, keep_alive]
  by_cases hversion : incoming.version = "1.0"
  · simp [hversion]
  · simp [hversion]

/-- The callbacks of a whole request capture that request, whatever came before. -/
theorem foldl_delivers (self : Collector) {incoming : Incoming} {callbacks : List Callback}
    (hdelivers : incoming.Delivers callbacks) :
    callbacks.foldl receive self = ⟨[], [], [], self.requests ++ [incoming.message]⟩ := by
  obtain ⟨url, body, hurl, hbody⟩ := hdelivers
  let read : Collector := ⟨incoming.url, incoming.headers, incoming.body, self.requests⟩
  have hcycle : (url.map Callback.on_url ++ (incoming.headers.map (fun header =>
        Callback.on_header header.1 header.2) ++ Callback.on_headers_complete incoming.version ::
        body.map Callback.on_body)).foldl receive self.on_message_begin = read := by
    rw [List.foldl_append, foldl_on_url, List.foldl_append, foldl_on_header, List.foldl_cons,
      receive, foldl_on_body, hurl, hbody]
    simp [on_message_begin, read]
  have hmessage : read.receive (.on_message_complete incoming.method incoming.version) =
      ⟨[], [], [], self.requests ++ [incoming.message]⟩ := by
    rw [receive, on_message_complete, keep_alive_eq read incoming rfl]
    rfl
  have hsplit : ∀ (before between after : List Callback) (callback last : Callback),
      before ++ (between ++ callback :: (after ++ [last])) =
        (before ++ (between ++ callback :: after)) ++ [last] := by
    simp
  rw [List.foldl_cons, hsplit, List.foldl_append, receive, hcycle, List.foldl_cons, hmessage]
  rfl

theorem requests_foldl_of_incomplete (self : Collector) {callbacks : List Callback}
    (hincomplete : ∀ method version, .on_message_complete method version ∉ callbacks) :
    (callbacks.foldl receive self).requests = self.requests := by
  induction callbacks generalizing self with
  | nil => rfl
  | cons callback rest ih =>
    have hrest := ih (self.receive callback) fun method version hin =>
      hincomplete method version (List.mem_cons_of_mem callback hin)
    rw [List.foldl_cons, hrest]
    cases callback with
    | on_message_complete method version => exact absurd List.mem_cons_self (hincomplete _ _)
    | _ => rfl

/-- The captured messages of a stream are its whole requests. -/
theorem requests_foldl_stream (self : Collector) {incomings : List Incoming}
    {callbacks : List Callback} (hstream : Incoming.Stream incomings callbacks) :
    (callbacks.foldl receive self).requests =
      self.requests ++ incomings.map Incoming.message := by
  induction hstream generalizing self with
  | on_its_way incoming first rest hdelivers hrest =>
    rw [requests_foldl_of_incomplete self (hdelivers.incomplete hrest), List.map_nil,
      List.append_nil]
  | whole incoming incomings first rest hdelivers hrest ih =>
    rw [List.foldl_append, foldl_delivers self hdelivers, ih, List.map_cons, List.append_assoc,
      List.singleton_append]

end Collector

namespace Session

/-- The messages taken at one time or another and the ones still captured are the
whole requests of the stream, in order and each with its own parts, and none of
them shares its header list with another or with the request on its way. -/
theorem reassembles (incomings : List Incoming) (exchanges : List Exchange)
    (hstream : Incoming.Stream incomings (callbacks exchanges)) :
    let session := run exchanges
    (session.taken ++ session.collector.requests).map session.collector.message =
        incomings.map Incoming.message ∧
      ((session.taken ++ session.collector.requests).map Captured.headers ++
        [session.collector.headers]).Nodup := by
  have hview := view_foldl_step separate_new exchanges
  constructor
  · have hrequests := Collector.requests_foldl_stream new.view hstream
    exact (congrArg Collector.requests hview).trans hrequests
  · exact (separate_new.foldl_step exchanges).nodup

/-- A pipelined pair: the second request has its URL and its body in two pieces. -/
def pipelined : List Incoming :=
  [⟨ascii "GET", "1.1", ascii "/", [(ascii "Host", ascii "a")], []⟩,
    ⟨ascii "POST", "1.0", ascii "/b", [], ascii "xy"⟩]

/-- The pair as it arrives, taken from in the middle of each request. -/
def pipelined_exchanges : List Exchange :=
  [.callback .on_message_begin, .callback (.on_url (ascii "/")), .take,
    .callback (.on_header (ascii "Host") (ascii "a")), .callback (.on_headers_complete "1.1"),
    .callback (.on_message_complete (ascii "GET") "1.1"),
    .callback .on_message_begin, .callback (.on_url (ascii "/")), .callback (.on_url (ascii "b")),
    .callback (.on_headers_complete "1.0"), .callback (.on_body (ascii "x")), .take,
    .callback (.on_body (ascii "y")), .callback (.on_message_complete (ascii "POST") "1.0")]

theorem pipelined_stream : Incoming.Stream pipelined (callbacks pipelined_exchanges) := by
  refine .whole _ _ _ _ (.cycle [ascii "/"] [] rfl rfl) ?_
  refine .whole _ _ _ _ (.cycle [ascii "/", ascii "b"] [ascii "x", ascii "y"] rfl rfl) ?_
  exact .on_its_way ⟨[], "", [], [], []⟩ [] _ (.cycle [] [] rfl rfl) (List.cons_ne_nil _ _)

theorem reassembles_pipelined :
    let session := run pipelined_exchanges
    (session.taken ++ session.collector.requests).map session.collector.message =
        pipelined.map Incoming.message ∧
      ((session.taken ++ session.collector.requests).map Captured.headers ++
        [session.collector.headers]).Nodup :=
  reassembles pipelined pipelined_exchanges pipelined_stream

end Session

end massless.protocol
