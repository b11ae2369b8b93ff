import Massless.Protocol.Received
import Massless.Transition.Machine

open python
open massless.request massless.response

namespace massless.protocol

/-- What `feed_data` promises about the cuts of a stream: nothing comes of no bytes,
a parser that got through the first part goes on as if there had been no cut, and
an exception comes from the call that contains its byte, whatever follows. -/
structure Segmentable {P : Type} (feed_data : P → Bytes → Feed × P) (parser : P) : Prop where
  nothing : feed_data parser [] = (⟨[], none⟩, parser)
  resumed : ∀ first second, (feed_data parser first).1.error = none →
    (feed_data parser (first ++ second)).1.error =
        (feed_data (feed_data parser first).2 second).1.error ∧
      join_fragments (feed_data parser (first ++ second)).1.callbacks =
        join_fragments ((feed_data parser first).1.callbacks ++
          (feed_data (feed_data parser first).2 second).1.callbacks) ∧
      (feed_data parser (first ++ second)).2 = (feed_data (feed_data parser first).2 second).2
  stopped : ∀ first second e, (feed_data parser first).1.error = some e →
    (feed_data parser (first ++ second)).1.error = some e

namespace Collector

/-- Messages captured before stay ahead of what the parser delivers next. -/
def after (captured : List Message) (self : Collector) : Collector :=
  { self with requests := captured ++ self.requests }

theorem receive_after (captured : List Message) (self : Collector) (callback : Callback) :
    (self.after captured).receive callback = (self.receive callback).after captured := by
  cases callback <;> simp [receive, after, on_message_begin, on_url, on_header, on_body,
    on_message_complete, keep_alive]

theorem foldl_receive_after (captured : List Message) (callbacks : List Callback)
    (self : Collector) : callbacks.foldl receive (self.after captured) =
      (callbacks.foldl receive self).after captured := by
  induction callbacks generalizing self with
  | nil => rfl
  | cons callback rest ih => rw [List.foldl_cons, receive_after, ih, List.foldl_cons]

/-- The collector does not see how a URL or a body was cut. -/
theorem foldl_receive_congr {callbacks other : List Callback}
    (hsame : join_fragments callbacks = join_fragments other) (self : Collector) :
    callbacks.foldl receive self = other.foldl receive self := by
  have hurl : ∀ (s : Collector) first second,
      (s.receive (.on_url first)).receive (.on_url second) =
        s.receive (.on_url (first ++ second)) := by
    intro s first second
    simp [receive, on_url]
  have hbody : ∀ (s : Collector) first second,
      (s.receive (.on_body first)).receive (.on_body second) =
        s.receive (.on_body (first ++ second)) := by
    intro s first second
    simp [receive, on_body]
  rw [← foldl_join_fragments hurl hbody callbacks self, hsame,
    foldl_join_fragments hurl hbody other self]

end Collector

namespace Connection

/-- The first message of a batch is refused by `parse_url`. -/
def RefusesFirst (parse_url : ParseUrl) (messages : List Message) : Prop :=
  ∃ message e, messages.head? = some message ∧ parse_url message.url = .error e

theorem parse_urls_append (parse_url : ParseUrl) (first second : List Message) :
    parse_urls parse_url (first ++ second) =
      match parse_urls parse_url first with
      | .ok _ => parse_urls parse_url second
      | .error e => .error e := by
  induction first with
  | nil => rfl
  | cons message rest ih =>
    cases hparsed : parse_url message.url with
    | error e => simp [parse_urls, hparsed]
    | ok parsed => simp [parse_urls, hparsed, ih]

theorem requests_append (parse_url : ParseUrl) (self : Connection) (index : Nat)
    (first second : List Message) (hparsed : parse_urls parse_url first = .ok ()) :
    requests parse_url self index (first ++ second) =
      requests parse_url self index first ++
        requests parse_url self (index + first.length) second := by
  induction first generalizing index with
  | nil => simp [requests]
  | cons message rest ih =>
    cases hurl : parse_url message.url with
    | error e => simp [parse_urls, hurl] at hparsed
    | ok parsed =>
      have hrest : parse_urls parse_url rest = .ok () := by
        simpa only [parse_urls, hurl] using hparsed
      have hindex : index + 1 + rest.length = index + (message :: rest).length := by
        simp only [List.length_cons]
        omega
      simp only [List.cons_append, requests, hurl, ih (index + 1) hrest, hindex]

/-- Nothing is put on the queue behind a URL that `parse_url` refuses. -/
theorem requests_append_refused (parse_url : ParseUrl) (self : Connection) (index : Nat)
    (first second : List Message) (hrefused : parse_urls parse_url first ≠ .ok ()) :
    requests parse_url self index (first ++ second) = requests parse_url self index first := by
  induction first generalizing index with
  | nil => simp [parse_urls] at hrefused
  | cons message rest ih =>
    cases hurl : parse_url message.url with
    | error e => simp only [List.cons_append, requests, hurl]
    | ok parsed =>
      have hrest : parse_urls parse_url rest ≠ .ok () := by
        simpa only [parse_urls, hurl] using hrefused
      simp only [List.cons_append, requests, hurl, ih (index + 1) hrest]

theorem requests_eq_nil_iff (parse_url : ParseUrl) (self : Connection) (index : Nat)
    (messages : List Message) :
    requests parse_url self index messages = [] ↔
      messages = [] ∨ RefusesFirst parse_url messages := by
  cases messages with
  | nil => simp [requests]
  | cons message rest =>
    cases hurl : parse_url message.url <;> simp [requests, RefusesFirst, hurl]

/-- What a client and the worker see of a stream: the requests put on the queue,
and whether a 400 was written. -/
def outcome (self : Connection) : List Request × Bool :=
  (self.enqueued, self.ops.any Op.is_bad_request)

section

variable {P : Type} (parse_url : ParseUrl) (date : Bytes) (feed_data : P → Bytes → Feed × P)

/-- One segment of the stream. A closing transport is not read any more. -/
def receive_segment (state : P × Connection) (segment : Bytes) : P × Connection :=
  if state.2.is_closing then state
  else ((feed_data state.1 segment).2,
    state.2.read_ready parse_url date (feed_data state.1 segment).1)

def receive_all (state : P × Connection) (segments : List Bytes) : P × Connection :=
  segments.foldl (receive_segment parse_url date feed_data) state

variable (parser : P) (peer sockname : Option (String × Int))

/-- What the callbacks for a part of the stream leave in the collector. -/
def collected (data : Bytes) : Collector :=
  (feed_data parser data).1.callbacks.foldl Collector.receive .new

/-- The messages that are complete in a part of the stream. -/
def captured (data : Bytes) : List Message := (collected feed_data parser data).requests

/-- Two ways of cutting a stream cannot be told apart. -/
def Indifferent (data : Bytes) : Prop :=
  ∀ segments other : List Bytes, segments.flatten = data → other.flatten = data →
    (receive_all parse_url date feed_data (parser, connection_made peer sockname) segments).2.outcome =
      (receive_all parse_url date feed_data (parser, connection_made peer sockname) other).2.outcome

/-- A stream on which no cut shows: where the parser raises, no message is complete
before that, or it is the upgrade and the first URL is refused all the same. -/
def Uniform (data : Bytes) : Prop :=
  ∀ e, (feed_data parser data).1.error = some e →
    ∀ first, first <+: data → (feed_data parser first).1.error = none →
      captured feed_data parser first = [] ∨
        (e = .HttpParserUpgrade ∧ RefusesFirst parse_url (captured feed_data parser first))

variable {parse_url date feed_data parser peer sockname}

/-- The outcome of a stream when `messages` were taken before the call that ended
with `error`. -/
def verdict (parse_url : ParseUrl) (peer sockname : Option (String × Int))
    (messages : List Message) (error : Option HttptoolsError) : List Request × Bool :=
  (requests parse_url (connection_made peer sockname) 0 messages,
    (parse_urls parse_url messages).isOk && error.any HttptoolsError.is_parser_error)

/-- A connection that got through the part `data` of the stream. -/
structure Fed (parse_url : ParseUrl) (feed_data : P → Bytes → Feed × P) (parser : P)
    (peer sockname : Option (String × Int)) (data : Bytes) (state : P × Connection) : Prop where
  clean : (feed_data parser data).1.error = none
  resumes : state.1 = (feed_data parser data).2
  parsed : parse_urls parse_url (captured feed_data parser data) = .ok ()
  opened : state.2.is_open = true
  collector : state.2.collector = { collected feed_data parser data with requests := [] }
  taken : state.2.taken = (captured feed_data parser data).length
  from_peer : state.2.peer = peer
  on_sockname : state.2.sockname = sockname
  outcome : state.2.outcome = verdict parse_url peer sockname (captured feed_data parser data) none

/-- A connection that is closing after the part `data` of the stream, of which
`first` was taken. -/
structure Stopped (parse_url : ParseUrl) (feed_data : P → Bytes → Feed × P) (parser : P)
    (peer sockname : Option (String × Int)) (first data : Bytes) (state : P × Connection) :
    Prop where
  clean : (feed_data parser first).1.error = none
  closing : state.2.is_closing = true
  outcome : state.2.outcome = verdict parse_url peer sockname (captured feed_data parser first)
    (feed_data parser data).1.error
  reason : parse_urls parse_url (captured feed_data parser first) ≠ .ok () ∨
    (feed_data parser data).1.error ≠ none

/-- A refused URL settles the outcome. -/
theorem verdict_refused {messages : List Message}
    (hrefused : parse_urls parse_url messages ≠ .ok ()) (error : Option HttptoolsError) :
    verdict parse_url peer sockname messages error =
      (requests parse_url (connection_made peer sockname) 0 messages, false) := by
  cases hparsed : parse_urls parse_url messages with
  | ok _ => exact absurd hparsed hrefused
  | error e => simp [verdict, hparsed, Except.isOk, Except.toBool]

/-- What follows a part that ends cleanly is collected on top of it. -/
theorem collected_append (hparser : Segmentable feed_data parser) {first : Bytes}
    (hclean : (feed_data parser first).1.error = none) (second : Bytes) :
    collected feed_data parser (first ++ second) =
      (feed_data (feed_data parser first).2 second).1.callbacks.foldl Collector.receive
        (collected feed_data parser first) := by
  have hjoined := (hparser.resumed first second hclean).2.1
  rw [collected, Collector.foldl_receive_congr hjoined, List.foldl_append, collected]

/-- The same, when the messages of the first part were taken in between. -/
theorem collected_append_taken (hparser : Segmentable feed_data parser) {first : Bytes}
    (hclean : (feed_data parser first).1.error = none) (second : Bytes) :
    collected feed_data parser (first ++ second) =
      ((feed_data (feed_data parser first).2 second).1.callbacks.foldl Collector.receive
        { collected feed_data parser first with requests := [] }).after
          (captured feed_data parser first) := by
  rw [collected_append hparser hclean, ← Collector.foldl_receive_after]
  simp [Collector.after, captured]

theorem fed_new (hparser : Segmentable feed_data parser) :
    Fed parse_url feed_data parser peer sockname [] (parser, connection_made peer sockname) := by
  have hnothing := hparser.nothing
  have hcollected : collected feed_data parser [] = .new := by
    simp [collected, hnothing]
  constructor <;> simp [captured, hcollected, hnothing, parse_urls, connection_made, new, is_open,
    is_closing, Collector.new, Connection.outcome, verdict, requests]

/-- Callbacks put nothing on the queue and refuse nothing. -/
theorem foldl_receive_outcome (callbacks : List Callback) (self : Connection) :
    (callbacks.foldl Connection.receive self).outcome = self.outcome := by
  obtain ⟨interim, hinterim, heq⟩ := foldl_receive callbacks self
  have hrefused : interim.any Op.is_bad_request = false := by
    rw [List.any_eq_false]
    intro op hmem
    obtain ⟨request, rfl⟩ := hinterim _ hmem
    simp [Op.is_bad_request]
  simp only [heq, Connection.outcome, List.any_append, hrefused, Bool.or_false]

theorem Fed.not_closing {data : Bytes} {state : P × Connection}
    (hfed : Fed parse_url feed_data parser peer sockname data state) :
    state.2.is_closing = false := by
  have hopened := hfed.opened
  simp only [is_open, Bool.and_eq_true, Bool.not_eq_true'] at hopened
  exact hopened.2

theorem verdict_none (messages : List Message) :
    verdict parse_url peer sockname messages none =
      (requests parse_url (connection_made peer sockname) 0 messages, false) := by
  simp [verdict]

/-- A segment that the parser gets through: the connection goes on, or it is aborted
over a URL. -/
theorem Fed.segment_clean {data : Bytes} {state : P × Connection}
    (hparser : Segmentable feed_data parser)
    (hfed : Fed parse_url feed_data parser peer sockname data state) {segment : Bytes}
    (hclean : (feed_data parser (data ++ segment)).1.error = none) :
    Fed parse_url feed_data parser peer sockname (data ++ segment)
        (receive_segment parse_url date feed_data state segment) ∨
      Stopped parse_url feed_data parser peer sockname (data ++ segment) (data ++ segment)
        (receive_segment parse_url date feed_data state segment) := by
  obtain ⟨herror, -, hresumes⟩ := hparser.resumed data segment hfed.clean
  have hcollected := collected_append_taken hparser hfed.clean segment
  rw [← hfed.resumes] at herror hresumes hcollected
  rw [← hfed.collector] at hcollected
  have hdata := data_received_fed parse_url date state.2 (herror.symm.trans hclean)
  have hopened := is_open_foldl_receive (feed_data state.1 segment).1.callbacks state.2
  have houtcome := foldl_receive_outcome (feed_data state.1 segment).1.callbacks state.2
  obtain ⟨interim, -, hreceived⟩ := foldl_receive (feed_data state.1 segment).1.callbacks state.2
  rw [hfed.opened] at hopened
  rw [hfed.outcome, verdict_none] at houtcome
  -- What the segment completed comes behind what was taken before.
  let later := ((feed_data state.1 segment).1.callbacks.foldl Collector.receive
    state.2.collector).requests
  have hcaptured : captured feed_data parser (data ++ segment) =
      captured feed_data parser data ++ later := by
    rw [captured, hcollected]
    rfl
  have hparsed : parse_urls parse_url (captured feed_data parser (data ++ segment)) =
      parse_urls parse_url later := by
    rw [hcaptured, parse_urls_append, hfed.parsed]
  have henqueued : requests parse_url (connection_made peer sockname) 0
      (captured feed_data parser (data ++ segment)) =
        requests parse_url (connection_made peer sockname) 0 (captured feed_data parser data) ++
          requests parse_url (connection_made peer sockname)
            (captured feed_data parser data).length later := by
    rw [hcaptured, requests_append _ _ _ _ _ hfed.parsed, Nat.zero_add]
  have hread : receive_segment parse_url date feed_data state segment =
      ((feed_data state.1 segment).2,
        state.2.read_ready parse_url date (feed_data state.1 segment).1) := by
    simp [receive_segment, hfed.not_closing]
  rw [hread, read_ready, hdata]
  generalize (feed_data state.1 segment).1.callbacks.foldl Connection.receive state.2 = fed
    at hopened houtcome hreceived
  have hfed_later : fed.collector.requests = later := by rw [hreceived]
  have hput : (fed.taken_all.put_requests
      (requests parse_url fed fed.taken fed.collector.requests)).outcome =
        verdict parse_url peer sockname (captured feed_data parser (data ++ segment)) none := by
    have hrequests : requests parse_url fed fed.taken fed.collector.requests =
        requests parse_url (connection_made peer sockname)
          (captured feed_data parser data).length later := by
      rw [hfed_later, hreceived, hfed.taken]
      exact requests_congr parse_url hfed.from_peer hfed.on_sockname _ _
    obtain ⟨hqueued, hrefused⟩ := Prod.mk.inj houtcome
    rw [verdict_none, henqueued, hrequests]
    exact Prod.ext (congrArg (· ++ _) hqueued) hrefused
  rw [hfed_later] at hput ⊢
  cases hurls : parse_urls parse_url later with
  | ok _ =>
    left
    refine ⟨hclean, hresumes.symm, hparsed.trans hurls, hopened, ?_, ?_, ?_, ?_, hput⟩
    · rw [hcollected, hreceived]
      rfl
    · rw [hcaptured, List.length_append, ← hfed.taken, ← hfed_later]
      simp [taken_all, put_requests, completed, hreceived]
    · rw [hreceived]
      exact hfed.from_peer
    · rw [hreceived]
      exact hfed.on_sockname
  | error e =>
    right
    have hrefused :
        parse_urls parse_url (captured feed_data parser (data ++ segment)) ≠ .ok () := by
      rw [hparsed, hurls]
      simp
    refine ⟨hclean, by simp [is_closing, push], ?_, Or.inl hrefused⟩
    rw [hclean, ← hput]
    simp [Connection.outcome, push, Op.is_bad_request]

/-- A segment that the parser raises on: what was taken before it stands, and a
parser error is answered. -/
theorem Fed.segment_error {data : Bytes} {state : P × Connection}
    (hparser : Segmentable feed_data parser)
    (hfed : Fed parse_url feed_data parser peer sockname data state) {segment : Bytes}
    {e : HttptoolsError} (herror : (feed_data parser (data ++ segment)).1.error = some e) :
    Stopped parse_url feed_data parser peer sockname data (data ++ segment)
      (receive_segment parse_url date feed_data state segment) := by
  have hraised := (hparser.resumed data segment hfed.clean).1
  rw [← hfed.resumes, herror] at hraised
  have hopened := is_open_foldl_receive (feed_data state.1 segment).1.callbacks state.2
  have houtcome := foldl_receive_outcome (feed_data state.1 segment).1.callbacks state.2
  rw [hfed.opened] at hopened
  rw [hfed.outcome, verdict_none] at houtcome
  have hread : receive_segment parse_url date feed_data state segment =
      ((feed_data state.1 segment).2,
        state.2.read_ready parse_url date (feed_data state.1 segment).1) := by
    simp [receive_segment, hfed.not_closing]
  have hverdict : verdict parse_url peer sockname (captured feed_data parser data) (some e) =
      (requests parse_url (connection_made peer sockname) 0 (captured feed_data parser data),
        e.is_parser_error) := by
    simp [verdict, hfed.parsed, Except.isOk, Except.toBool]
  obtain ⟨hqueued, hrefused⟩ := Prod.mk.inj houtcome
  rw [hread]
  cases hparser_error : e.is_parser_error with
  | true =>
    have hdata := data_received_refused parse_url date state.2 hraised.symm hparser_error
    rw [read_ready, hdata, hopened, if_pos rfl]
    refine ⟨hfed.clean, by simp [is_closing, push], ?_, Or.inr (by simp [herror])⟩
    rw [herror, hverdict, hparser_error, ← hqueued]
    simp [Connection.outcome, push, Op.is_bad_request]
  | false =>
    have hdata : data_received parse_url date state.2 (feed_data state.1 segment).1 =
        (.error e, (feed_data state.1 segment).1.callbacks.foldl Connection.receive state.2) := by
      simp [data_received, hraised.symm, hparser_error]
    rw [read_ready, hdata]
    refine ⟨hfed.clean, by simp [is_closing, push], ?_, Or.inr (by simp [herror])⟩
    rw [herror, hverdict, hparser_error, ← hqueued, ← hrefused]
    simp [Connection.outcome, push, Op.is_bad_request]

/-- A closing connection is not read: what follows in the stream changes nothing. -/
theorem Stopped.segment {first data : Bytes} {state : P × Connection}
    (hparser : Segmentable feed_data parser)
    (hstopped : Stopped parse_url feed_data parser peer sockname first data state)
    (segment : Bytes) :
    Stopped parse_url feed_data parser peer sockname first (data ++ segment)
      (receive_segment parse_url date feed_data state segment) := by
  have hread : receive_segment parse_url date feed_data state segment = state := by
    simp [receive_segment, hstopped.closing]
  rw [hread]
  refine ⟨hstopped.clean, hstopped.closing, ?_, ?_⟩
  · cases herror : (feed_data parser data).1.error with
    | some e => rw [hstopped.outcome, herror, hparser.stopped data segment e herror]
    | none =>
      have hrefused := hstopped.reason.resolve_right (fun hraised => hraised herror)
      rw [hstopped.outcome, verdict_refused hrefused, verdict_refused hrefused]
  · refine hstopped.reason.imp_right fun hraised => ?_
    obtain ⟨e, herror⟩ := Option.ne_none_iff_exists'.mp hraised
    simp [hparser.stopped data segment e herror]

/-- Where the connection is after the part `data` of the stream: it got through all
of it, or it stopped behind some first part. -/
def Reads (parse_url : ParseUrl) (feed_data : P → Bytes → Feed × P) (parser : P)
    (peer sockname : Option (String × Int)) (data : Bytes) (state : P × Connection) : Prop :=
  Fed parse_url feed_data parser peer sockname data state ∨
    ∃ first, first <+: data ∧ Stopped parse_url feed_data parser peer sockname first data state

theorem Reads.segment {data : Bytes} {state : P × Connection}
    (hparser : Segmentable feed_data parser)
    (hreads : Reads parse_url feed_data parser peer sockname data state) (segment : Bytes) :
    Reads parse_url feed_data parser peer sockname (data ++ segment)
      (receive_segment parse_url date feed_data state segment) := by
  obtain hfed | ⟨first, hprefix, hstopped⟩ := hreads
  · cases herror : (feed_data parser (data ++ segment)).1.error with
    | none =>
      refine (hfed.segment_clean hparser herror).imp_right fun hstopped => ?_
      exact ⟨_, List.prefix_rfl, hstopped⟩
    | some e => exact Or.inr ⟨_, List.prefix_append _ _, hfed.segment_error hparser herror⟩
  · exact Or.inr ⟨first, hprefix.trans (List.prefix_append _ _), hstopped.segment hparser segment⟩

theorem receive_all_reads (hparser : Segmentable feed_data parser) (segments : List Bytes) :
    Reads parse_url feed_data parser peer sockname segments.flatten
      (receive_all parse_url date feed_data (parser, connection_made peer sockname) segments) :=
  transition.foldl_segments (I := Reads parse_url feed_data parser peer sockname)
    (fun _ _ segment hreads => hreads.segment hparser segment) segments (Or.inl (fed_new hparser))

/-- What is complete in a first part that ends cleanly is complete in the whole. -/
theorem captured_append (hparser : Segmentable feed_data parser) {first : Bytes}
    (hclean : (feed_data parser first).1.error = none) (second : Bytes) :
    ∃ later, captured feed_data parser (first ++ second) =
      captured feed_data parser first ++ later := by
  rw [captured, collected_append_taken hparser hclean]
  exact ⟨_, rfl⟩

/-- Every cut of a stream without an exception has one outcome. -/
theorem Reads.outcome_clean {data : Bytes} {state : P × Connection}
    (hparser : Segmentable feed_data parser)
    (hreads : Reads parse_url feed_data parser peer sockname data state)
    (hclean : (feed_data parser data).1.error = none) :
    state.2.outcome =
      verdict parse_url peer sockname (captured feed_data parser data) none := by
  obtain hfed | ⟨first, ⟨second, rfl⟩, hstopped⟩ := hreads
  · exact hfed.outcome
  · have hrefused := hstopped.reason.resolve_right (fun hraised => hraised hclean)
    obtain ⟨later, hcaptured⟩ := captured_append hparser hstopped.clean second
    rw [hstopped.outcome, verdict_refused hrefused, verdict_none, hcaptured,
      requests_append_refused _ _ _ _ _ hrefused]

/-- A cut of a stream with an exception has the outcome of some first part. -/
theorem Reads.outcome_error {data : Bytes} {state : P × Connection} {e : HttptoolsError}
    (hreads : Reads parse_url feed_data parser peer sockname data state)
    (herror : (feed_data parser data).1.error = some e) :
    ∃ first, first <+: data ∧ (feed_data parser first).1.error = none ∧ state.2.outcome =
      verdict parse_url peer sockname (captured feed_data parser first) (some e) := by
  obtain hfed | ⟨first, hprefix, hstopped⟩ := hreads
  · have hclean := hfed.clean
    rw [herror] at hclean
    cases hclean
  · exact ⟨first, hprefix, hstopped.clean, by rw [hstopped.outcome, herror]⟩

/-- The cut behind a first part that ends cleanly has the outcome of that part. -/
theorem receive_all_cut (hparser : Segmentable feed_data parser) {first second : Bytes}
    {e : HttptoolsError} (hclean : (feed_data parser first).1.error = none)
    (herror : (feed_data parser (first ++ second)).1.error = some e) :
    (receive_all parse_url date feed_data (parser, connection_made peer sockname)
        [first, second]).2.outcome =
      verdict parse_url peer sockname (captured feed_data parser first) (some e) := by
  have hstart : Fed parse_url feed_data parser peer sockname []
      (parser, connection_made peer sockname) := fed_new hparser
  change (receive_segment parse_url date feed_data (receive_segment parse_url date feed_data
    (parser, connection_made peer sockname) first) second).2.outcome = _
  rw [← herror]
  obtain hfed | hstopped := hstart.segment_clean hparser hclean
  · exact (hfed.segment_error hparser herror).outcome
  · exact (hstopped.segment hparser second).outcome

theorem parse_urls_refused {messages : List Message} (hrefuses : RefusesFirst parse_url messages) :
    parse_urls parse_url messages ≠ .ok () := by
  obtain ⟨message, e, hhead, hurl⟩ := hrefuses
  cases messages with
  | nil => cases hhead
  | cons first rest =>
    obtain rfl := Option.some.inj hhead
    simp [parse_urls, hurl]

/-- The outcome of a first part is that of no part at all when nothing was taken
either way. -/
theorem verdict_eq_nil_iff (messages : List Message) (e : HttptoolsError) :
    verdict parse_url peer sockname messages (some e) =
        verdict parse_url peer sockname [] (some e) ↔
      messages = [] ∨ (e = .HttpParserUpgrade ∧ RefusesFirst parse_url messages) := by
  have hnil : verdict parse_url peer sockname [] (some e) = ([], e.is_parser_error) := by
    simp [verdict, requests, parse_urls, Except.isOk, Except.toBool]
  constructor
  · intro hsame
    rw [hnil] at hsame
    obtain ⟨hrequests, hanswered⟩ := Prod.mk.inj hsame
    refine ((requests_eq_nil_iff _ _ _ _).mp hrequests).imp_right fun hrefuses => ⟨?_, hrefuses⟩
    have hrefused := parse_urls_refused hrefuses
    rw [verdict_refused hrefused, Prod.mk.injEq] at hsame
    cases e <;> simp [HttptoolsError.is_parser_error] at hsame ⊢
  · rintro (rfl | ⟨rfl, hrefuses⟩)
    · rfl
    · rw [verdict_refused (parse_urls_refused hrefuses), hnil]
      exact Prod.ext ((requests_eq_nil_iff _ _ _ _).mpr (Or.inr hrefuses)) rfl

/-- Segmentation does not matter exactly for the streams on which the parser raises
before any message is complete, or not at all, or to upgrade behind a first URL that
is refused. -/
theorem segmentation_indifferent_iff (hparser : Segmentable feed_data parser) (data : Bytes) :
    Indifferent parse_url date feed_data parser peer sockname data ↔
      Uniform parse_url feed_data parser data := by
  have hreads : ∀ segments : List Bytes, segments.flatten = data →
      Reads parse_url feed_data parser peer sockname data (receive_all parse_url date feed_data
        (parser, connection_made peer sockname) segments) := by
    rintro segments rfl
    exact receive_all_reads hparser segments
  have hempty : (feed_data parser []).1.error = none := by simp [hparser.nothing]
  have hcaptured : captured feed_data parser [] = [] := by
    simp [captured, collected, hparser.nothing, Collector.new]
  constructor
  · rintro hindifferent e herror first ⟨second, rfl⟩ hclean
    have hsame := hindifferent [first, second] [[], first ++ second] (by simp) (by simp)
    have hwhole : (feed_data parser ([] ++ (first ++ second))).1.error = some e := herror
    rw [receive_all_cut hparser hclean herror, receive_all_cut hparser hempty hwhole,
      hcaptured] at hsame
    exact (verdict_eq_nil_iff _ e).mp hsame
  · intro huniform segments other hsegments hother
    cases herror : (feed_data parser data).1.error with
    | none =>
      rw [(hreads segments hsegments).outcome_clean hparser herror,
        (hreads other hother).outcome_clean hparser herror]
    | some e =>
      have hall : ∀ cut : List Bytes, cut.flatten = data → (receive_all parse_url date feed_data
          (parser, connection_made peer sockname) cut).2.outcome =
            verdict parse_url peer sockname [] (some e) := by
        intro cut hcut
        obtain ⟨first, hprefix, hclean, houtcome⟩ := (hreads cut hcut).outcome_error herror
        rw [houtcome]
        exact (verdict_eq_nil_iff _ e).mpr (huniform e herror first hprefix hclean)
      rw [hall segments hsegments, hall other hother]

/-- A parser that goes byte by byte, and stops at the first byte it does not
expect. -/
def feed_bytes (step : P → UInt8 → Except HttptoolsError (List Callback × P)) :
    P → Bytes → Feed × P
  | parser, [] => (⟨[], none⟩, parser)
  | parser, byte :: rest =>
    match step parser byte with
    | .error e => (⟨[], some e⟩, parser)
    | .ok (callbacks, next) =>
      let (feed, last) := feed_bytes step next rest
      (⟨callbacks ++ feed.callbacks, feed.error⟩, last)

theorem segmentable_feed_bytes (step : P → UInt8 → Except HttptoolsError (List Callback × P))
    (parser : P) : Segmentable (feed_bytes step) parser := by
  refine ⟨rfl, ?_, ?_⟩
  · intro first second hclean
    suffices hsplit : feed_bytes step parser (first ++ second) =
        (⟨(feed_bytes step parser first).1.callbacks ++
            (feed_bytes step (feed_bytes step parser first).2 second).1.callbacks,
          (feed_bytes step (feed_bytes step parser first).2 second).1.error⟩,
          (feed_bytes step (feed_bytes step parser first).2 second).2) by
      rw [hsplit]
      exact ⟨rfl, rfl, rfl⟩
    induction first generalizing parser with
    | nil => rfl
    | cons byte rest ih =>
      cases htaken : step parser byte with
      | error e => simp [feed_bytes, htaken] at hclean
      | ok taken =>
        simp only [feed_bytes, htaken] at hclean
        simp only [List.cons_append, feed_bytes, htaken, ih taken.2 hclean, List.append_assoc]
  · intro first second e herror
    induction first generalizing parser with
    | nil => simp [feed_bytes] at herror
    | cons byte rest ih =>
      cases htaken : step parser byte with
      | error raised => simpa [feed_bytes, htaken] using herror
      | ok taken =>
        simp only [feed_bytes, htaken] at herror
        simp only [List.cons_append, feed_bytes, htaken, ih taken.2 herror]

end

/-- The bytes of a request without headers, each with the callbacks it completes. -/
def get_root : List (UInt8 × List Callback) :=
  [(71, [.on_message_begin]), (69, []), (84, []), (32, []), (47, [.on_url (ascii "/")]), (32, []),
   (72, []), (84, []), (84, []), (80, []), (47, []), (49, []), (46, []), (49, []), (13, []),
   (10, []), (13, []), (10, [.on_headers_complete "1.1", .on_message_complete (ascii "GET") "1.1"])]

/-- A parser for streams of that request; its state is what is left of the current
one. -/
def parse_get_root (left : List (UInt8 × List Callback)) (byte : UInt8) :
    Except HttptoolsError (List Callback × List (UInt8 × List Callback)) :=
  match if left.isEmpty then get_root else left with
  | [] => .error .HttpParserError
  | (expected, callbacks) :: rest =>
    if byte = expected then .ok (callbacks, rest) else .error .HttpParserError

theorem segmentation_indifferent_iff_get : Indifferent (fun url => .ok ⟨some url, none⟩)
    (ascii "now") (feed_bytes parse_get_root) [] none none (ascii "GET / HTTP/1.1\r\n\r\n") := by
  refine (segmentation_indifferent_iff (segmentable_feed_bytes parse_get_root []) _).mpr ?_
  intro e herror
  have hclean : (feed_bytes parse_get_root [] (ascii "GET / HTTP/1.1\r\n\r\n")).1.error = none := by
    decide
  rw [hclean] at herror
  cases herror

/-- A request and a byte that starts no other: in two segments the request is served
and the byte answered with a 400, in one the request is lost. -/
theorem segmentation_shows : ¬Indifferent (fun url => .ok ⟨some url, none⟩) (ascii "now")
    (feed_bytes parse_get_root) [] none none (ascii "GET / HTTP/1.1\r\n\r\n" ++ [0]) := by
  intro hindifferent
  have hsame := congrArg (fun seen => seen.1.length)
    (hindifferent [ascii "GET / HTTP/1.1\r\n\r\n", [0]]
      [ascii "GET / HTTP/1.1\r\n\r\n" ++ [0]] (by simp) (by simp))
  revert hsame
  decide +kernel

end Connection

end massless.protocol
