import Mathlib.Data.List.Forall2
import Massless.Protocol.Connection

open python
open massless.request massless.response

namespace massless.protocol

namespace Connection

/-- The requests that the loop of `data_received` puts on the queue: it stops at
the first URL that `parse_url` refuses. -/
def requests (parse_url : ParseUrl) (self : Connection) : Nat → List Message → List Request
  | _, [] => []
  | index, message :: rest =>
    match parse_url message.url with
    | .error _ => []
    | .ok parsed =>
      self.to_request index message parsed :: requests parse_url self (index + 1) rest

/-- How the loop of `data_received` ends. -/
def parse_urls (parse_url : ParseUrl) : List Message → Except HttptoolsError Unit
  | [] => .ok ()
  | message :: rest =>
    match parse_url message.url with
    | .error e => .error e
    | .ok _ => parse_urls parse_url rest

/-- A batch of callbacks: the collector gets them, and the transport at most some
`100 Continue`. -/
theorem foldl_receive (callbacks : List Callback) (self : Connection) :
    ∃ interim : List Op, (∀ op ∈ interim, ∃ request, op = .continue_100 request) ∧
      callbacks.foldl receive self =
        { self with
          collector := callbacks.foldl Collector.receive self.collector
          ops := self.ops ++ interim } := by
  induction callbacks generalizing self with
  | nil => exact ⟨[], by simp, by simp⟩
  | cons callback rest ih =>
    have hfirst : ∃ interim : List Op, (∀ op ∈ interim, ∃ request, op = .continue_100 request) ∧
        self.receive callback =
          { self with
            collector := self.collector.receive callback
            ops := self.ops ++ interim } := by
      cases callback with
      | on_headers_complete version =>
        simp only [receive, Collector.receive]
        split
        · exact ⟨[.continue_100 self.completed], by simp, rfl⟩
        · exact ⟨[], by simp, by simp⟩
      | _ => exact ⟨[], by simp, by simp [receive]⟩
    obtain ⟨first, hinterim, heq⟩ := hfirst
    obtain ⟨later, hlater, hrest⟩ := ih (self.receive callback)
    refine ⟨first ++ later, ?_, ?_⟩
    · intro op hop
      exact (List.mem_append.mp hop).elim (hinterim op) (hlater op)
    · rw [List.foldl_cons, hrest, heq]
      simp

/-- Callbacks open or close nothing. -/
theorem is_open_foldl_receive (callbacks : List Callback) (self : Connection) :
    (callbacks.foldl receive self).is_open = self.is_open := by
  obtain ⟨interim, hinterim, heq⟩ := foldl_receive callbacks self
  have hclose : .close ∉ interim := by
    intro hmem
    obtain ⟨request, hop⟩ := hinterim _ hmem
    cases hop
  have habort : .abort ∉ interim := by
    intro hmem
    obtain ⟨request, hop⟩ := hinterim _ hmem
    cases hop
  simp [heq, is_open, is_closing, hclose, habort]

/-- Requests put on the queue in order. -/
def put_requests (self : Connection) (rs : List Request) : Connection :=
  { self with queue := self.queue ++ rs.map .request, enqueued := self.enqueued ++ rs }

theorem requests_congr (parse_url : ParseUrl) {self other : Connection}
    (hpeer : self.peer = other.peer) (hsockname : self.sockname = other.sockname) (index : Nat)
    (messages : List Message) :
    requests parse_url self index messages = requests parse_url other index messages := by
  induction messages generalizing index with
  | nil => rfl
  | cons message rest ih =>
    simp only [requests, to_request, hpeer, hsockname, ih]

/-- The loop puts a prefix of the captured messages on the queue. -/
theorem enqueue_eq (parse_url : ParseUrl) (self : Connection) (index : Nat)
    (messages : List Message) :
    enqueue parse_url self index messages =
      (parse_urls parse_url messages,
        self.put_requests (requests parse_url self index messages)) := by
  induction messages generalizing self index with
  | nil => simp [enqueue, parse_urls, requests, put_requests]
  | cons message rest ih =>
    cases hparsed : parse_url message.url with
    | error e => simp [enqueue, parse_urls, requests, put_requests, hparsed]
    | ok parsed =>
      have hsame := requests_congr parse_url
        (show (self.put_request (self.to_request index message parsed)).peer = self.peer from rfl)
        rfl (index + 1) rest
      simp only [enqueue, parse_urls, requests, hparsed, ih, hsame]
      simp [put_requests, put_request]

/-- Consecutive places in the stream. -/
theorem requests_index (parse_url : ParseUrl) (self : Connection) (index : Nat)
    (messages : List Message) :
    (requests parse_url self index messages).map Request.index =
      List.range' index (requests parse_url self index messages).length := by
  induction messages generalizing index with
  | nil => rfl
  | cons message rest ih =>
    cases hparsed : parse_url message.url with
    | error e => simp [requests, hparsed]
    | ok parsed => simp [requests, hparsed, ih, to_request, List.range'_succ]

theorem length_requests (parse_url : ParseUrl) (self : Connection) (index : Nat)
    (messages : List Message) (hparsed : parse_urls parse_url messages = .ok ()) :
    (requests parse_url self index messages).length = messages.length := by
  induction messages generalizing index with
  | nil => rfl
  | cons message rest ih =>
    cases hurl : parse_url message.url with
    | error e => simp [parse_urls, hurl] at hparsed
    | ok parsed =>
      have hrest : parse_urls parse_url rest = .ok () := by
        simpa only [parse_urls, hurl] using hparsed
      simp only [requests, hurl, List.length_cons, ih (index + 1) hrest]

theorem parse_urls_ok_iff (parse_url : ParseUrl) (messages : List Message) :
    parse_urls parse_url messages = .ok () ↔
      ∀ message ∈ messages, ∃ parsed, parse_url message.url = .ok parsed := by
  induction messages with
  | nil => simp [parse_urls]
  | cons message rest ih =>
    cases hparsed : parse_url message.url with
    | error e => simp [parse_urls, hparsed]
    | ok parsed => simp [parse_urls, hparsed, ih]

/-- A captured message on the queue: as the `RequestCore` of its own data, with a
path. -/
def Delivers (parse_url : ParseUrl) (self : Connection) (message : Message) (item : Item) : Prop :=
  ∃ index parsed, parse_url message.url = .ok parsed ∧ parsed.path ≠ none ∧
    item = .request (self.to_request index message parsed)

/-- The connection was answered with a 400 and closed. -/
def Refused (self : Connection) : Prop :=
  (∃ request raw, .bad_request request raw ∈ self.ops) ∧ self.is_closing = true

/-- `data_received` returns, and the messages captured by then are either on the
queue, each once and in order, or the connection was answered with a 400 and
closed. -/
def LosesNothing (parse_url : ParseUrl) (date : Bytes) (self : Connection) (feed : Feed) : Prop :=
  let fed := feed.callbacks.foldl receive self
  let received := data_received parse_url date self feed
  received.1 = .ok () ∧
    ((∃ items, received.2.queue = fed.queue ++ items ∧
        List.Forall₂ (Delivers parse_url fed) fed.collector.requests items) ∨
      received.2.Refused)

/-- What `data_received` gets through: without an exception of the parser, URLs
that all parse and have a path; with one, a parser error that finds no captured
message or a transport to answer on. A connection refused before may also be fed
targets without a path, and malformed input. -/
def Manageable (parse_url : ParseUrl) (self : Connection) (feed : Feed) : Prop :=
  let fed := feed.callbacks.foldl receive self
  match feed.error with
  | none =>
    (∀ message ∈ fed.collector.requests, ∃ parsed, parse_url message.url = .ok parsed) ∧
      ((∀ message ∈ fed.collector.requests, ∀ parsed, parse_url message.url = .ok parsed →
          parsed.path ≠ none) ∨ fed.Refused)
  | some e =>
    e.is_parser_error = true ∧
      (fed.collector.requests = [] ∨ fed.is_open = true ∨ fed.Refused)

/-- The messages whose URLs parse are delivered when none lacks a path. -/
theorem delivers_requests_iff (parse_url : ParseUrl) (self : Connection) (index : Nat)
    (messages : List Message) (hparse : parse_urls parse_url messages = .ok ()) :
    List.Forall₂ (Delivers parse_url self) messages
        ((requests parse_url self index messages).map .request) ↔
      ∀ message ∈ messages, ∀ parsed, parse_url message.url = .ok parsed →
        parsed.path ≠ none := by
  induction messages generalizing index with
  | nil => simp [requests]
  | cons message rest ih =>
    cases hparsed : parse_url message.url with
    | error e => simp [parse_urls, hparsed] at hparse
    | ok parsed =>
      simp only [parse_urls, hparsed] at hparse
      simp only [requests, hparsed, List.map_cons, List.forall₂_cons, ih (index + 1) hparse,
        List.forall_mem_cons, Except.ok.injEq, forall_eq']
      refine and_congr_left fun _ => ⟨?_, fun hpath => ⟨index, parsed, hparsed, hpath, rfl⟩⟩
      rintro ⟨place, other, hother, hpath, hitem⟩
      rw [hparsed, Except.ok.injEq] at hother
      subst hother
      exact hpath

/-- The connection after `take`. -/
def taken_all (self : Connection) : Connection :=
  { self with collector := { self.collector with requests := [] }, taken := self.completed }

/-- A call without an exception of the parser puts what parses on the queue. -/
theorem data_received_fed (parse_url : ParseUrl) (date : Bytes) (self : Connection) {feed : Feed}
    (herror : feed.error = none) :
    let fed := feed.callbacks.foldl receive self
    data_received parse_url date self feed =
      (parse_urls parse_url fed.collector.requests,
        fed.taken_all.put_requests
          (requests parse_url fed fed.taken fed.collector.requests)) := by
  simp only [data_received, herror, Collector.take]
  rw [enqueue_eq, requests_congr]
  · rfl
  · rfl
  · rfl

/-- A parser error is answered on an open transport, and changes nothing else. -/
theorem data_received_refused (parse_url : ParseUrl) (date : Bytes) (self : Connection)
    {feed : Feed} {e : HttptoolsError} (herror : feed.error = some e)
    (hparser : e.is_parser_error = true) :
    let fed := feed.callbacks.foldl receive self
    data_received parse_url date self feed = (.ok (), if fed.is_open then
      (fed.push (.bad_request fed.completed (bad_request date))).push .close else fed) := by
  simp only [data_received, herror, hparser, if_true, close_transport]
  cases hopen : (feed.callbacks.foldl receive self).is_open with
  | false => simp
  | true =>
    have hpushed : ((feed.callbacks.foldl receive self).push
        (.bad_request (feed.callbacks.foldl receive self).completed (bad_request date))).is_open =
          true := by
      simpa [is_open, is_closing, push] using hopen
    simp [hpushed]

/-- What a segment can do to an open connection: some `100 Continue` are written and
some requests put on the queue, and behind that nothing, an abort, or the answer to
malformed input with a close. -/
theorem read_ready_cases (parse_url : ParseUrl) (date : Bytes) {self : Connection} (feed : Feed)
    (hopen : self.is_open = true) :
    ∃ interim tail collector taken rs,
      (∀ op ∈ interim, ∃ request, op = Op.continue_100 request) ∧
      self.read_ready parse_url date feed =
        { self with
          collector, taken
          ops := self.ops ++ interim ++ tail
          queue := self.queue ++ rs.map .request
          enqueued := self.enqueued ++ rs } ∧
      rs.map Request.index = List.range' self.taken rs.length ∧
      ((tail = [] ∧ taken = self.taken + rs.length ∧ feed.malformed = false) ∨
        (tail = [.abort] ∧ feed.malformed = false) ∨
        (tail = [.bad_request (feed.callbacks.foldl receive self).completed (bad_request date),
          .close] ∧ feed.malformed = true)) := by
  obtain ⟨interim, hinterim, heq⟩ := foldl_receive feed.callbacks self
  cases herror : feed.error with
  | none =>
    have hdata := data_received_fed parse_url date self herror
    have hindex := requests_index parse_url (feed.callbacks.foldl receive self)
      (feed.callbacks.foldl receive self).taken
      (feed.callbacks.foldl receive self).collector.requests
    have hcalm : feed.malformed = false := by simp [Feed.malformed, herror]
    generalize feed.callbacks.foldl receive self = fed at heq hdata hindex
    have htaken : fed.taken = self.taken := by rw [heq]
    rw [htaken] at hindex
    cases hurls : parse_urls parse_url fed.collector.requests with
    | ok _ =>
      have hlength := length_requests parse_url fed self.taken fed.collector.requests hurls
      refine ⟨interim, [], fed.taken_all.collector, self.taken + _, _, hinterim, ?_, hindex,
        Or.inl ⟨rfl, rfl, hcalm⟩⟩
      rw [read_ready, hdata, hurls, hlength, htaken]
      simp [put_requests, taken_all, completed, heq]
    | error e =>
      refine ⟨interim, [.abort], fed.taken_all.collector, fed.completed, _, hinterim, ?_, hindex,
        Or.inr (Or.inl ⟨rfl, hcalm⟩)⟩
      rw [read_ready, hdata, hurls, htaken]
      simp [put_requests, taken_all, push, heq]
  | some e =>
    cases hparser : e.is_parser_error with
    | true =>
      have hmalformed : feed.malformed = true := by simp [Feed.malformed, herror, hparser]
      refine ⟨interim, _, (feed.callbacks.foldl receive self).collector, self.taken, [], hinterim,
        ?_, rfl, Or.inr (Or.inr ⟨rfl, hmalformed⟩)⟩
      rw [read_ready, data_received_refused parse_url date self herror hparser,
        is_open_foldl_receive, hopen, if_pos rfl, heq]
      simp [push]
    | false =>
      have hcalm : feed.malformed = false := by simp [Feed.malformed, herror, hparser]
      refine ⟨interim, [.abort], (feed.callbacks.foldl receive self).collector, self.taken, [],
        hinterim, ?_, rfl, Or.inr (Or.inl ⟨rfl, hcalm⟩)⟩
      simp [read_ready, data_received, herror, hparser, heq, push]

/-- The call of `feed_data` ends without an exception, on URLs that all parse. -/
def intact (parse_url : ParseUrl) (self : Connection) (feed : Feed) : Bool :=
  feed.error.isNone && (feed.callbacks.foldl receive self).collector.requests.all fun message =>
    (parse_url message.url).isOk

/-- Such a segment writes `100 Continue` at most. -/
theorem ops_read_ready_intact {parse_url : ParseUrl} {self : Connection} {feed : Feed}
    (hintact : self.intact parse_url feed = true) (date : Bytes) :
    (self.read_ready parse_url date feed).attached = self.attached ∧
      ∃ interim, (∀ op ∈ interim, ∃ request, op = Op.continue_100 request) ∧
        (self.read_ready parse_url date feed).ops = self.ops ++ interim := by
  simp only [intact, Bool.and_eq_true, Option.isNone_iff_eq_none, List.all_eq_true] at hintact
  obtain ⟨herror, hurls⟩ := hintact
  obtain ⟨interim, hinterim, heq⟩ := foldl_receive feed.callbacks self
  have hdata := data_received_fed parse_url date self herror
  have hparsed : parse_urls parse_url (feed.callbacks.foldl receive self).collector.requests =
      .ok () := by
    refine (parse_urls_ok_iff parse_url _).mpr fun message hmessage => ?_
    have hurl := hurls message hmessage
    cases hfound : parse_url message.url with
    | ok parsed => exact ⟨parsed, rfl⟩
    | error e => simp [hfound, Except.isOk, Except.toBool] at hurl
  rw [read_ready, hdata, hparsed]
  generalize feed.callbacks.foldl receive self = fed at heq
  simp only [put_requests, taken_all, heq, true_and]
  exact ⟨interim, hinterim, rfl⟩

/-- `data_received` returns and loses no request exactly when the parser ends
without an exception on URLs that parse and have a path, or with a parser error
that finds nothing captured or a transport to answer on. -/
theorem data_received_loses_nothing_iff (parse_url : ParseUrl) (date : Bytes) (self : Connection)
    (feed : Feed) : LosesNothing parse_url date self feed ↔ Manageable parse_url self feed := by
  cases herror : feed.error with
  | none =>
    simp only [LosesNothing, Manageable, data_received_fed parse_url date self herror, herror]
    generalize feed.callbacks.foldl receive self = fed
    rw [← parse_urls_ok_iff]
    refine and_congr_right fun hparse => or_congr ?_ Iff.rfl
    rw [← delivers_requests_iff parse_url fed fed.taken fed.collector.requests hparse]
    simp only [put_requests, taken_all, List.append_cancel_left_eq, exists_eq_left']
  | some e =>
    simp only [Manageable, herror]
    cases hparser : e.is_parser_error with
    | false => simp [LosesNothing, data_received, herror, hparser]
    | true =>
      simp only [LosesNothing, data_received_refused parse_url date self herror hparser]
      generalize feed.callbacks.foldl receive self = fed
      cases hopen : fed.is_open with
      | true =>
        refine iff_of_true ⟨trivial, Or.inr ⟨⟨fed.completed, bad_request date, ?_⟩, ?_⟩⟩ (by simp)
        · simp [push]
        · simp [is_closing, push]
      | false =>
        simp only [Bool.false_eq_true, if_false, true_and, false_or]
        refine or_congr ⟨?_, fun hnone => ⟨[], by simp, by simp [hnone]⟩⟩ Iff.rfl
        rintro ⟨items, hqueue, hdelivers⟩
        have hitems : items = [] := by simpa using hqueue
        subst hitems
        exact List.forall₂_nil_right_iff.mp hdelivers

/-- An HTTP/1.1 request that asks to upgrade to HTTP/2: `feed_data` raises after the
request is captured, and the exception leaves `data_received`. -/
theorem upgrade_escapes :
    ¬LosesNothing (fun url => .ok ⟨some url, none⟩) (ascii "now")
      (connection_made none none)
      ⟨[.on_message_begin, .on_url (ascii "/"), .on_header (ascii "Connection") (ascii "Upgrade"),
        .on_header (ascii "Upgrade") (ascii "h2c"), .on_headers_complete "1.1",
        .on_message_complete (ascii "GET") "1.1"], some .HttpParserUpgrade⟩ := by
  rintro ⟨hreturned, -⟩
  cases hreturned

end Connection

end massless.protocol
