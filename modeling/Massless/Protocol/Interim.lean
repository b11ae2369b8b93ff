import Massless.Protocol.Order

open python
open transition

namespace massless.protocol

/-- The request that a `100 Continue` is about. -/
def Op.continues : Op → Option Nat
  | .continue_100 request => some request
  | _ => none

/-- The places in the stream of the messages whose headers are completed, from a
given one on. -/
def heads : Nat → List Callback → List Nat
  | _, [] => []
  | k, .on_headers_complete _ :: rest => k :: heads k rest
  | k, .on_message_complete _ _ :: rest => heads (k + 1) rest
  | k, _ :: rest => heads k rest

/-- The places of those that get a `100 Continue`, behind messages already taken. -/
def awaited (taken : Nat) : Collector → List Callback → List Nat
  | _, [] => []
  | collector, callback :: rest =>
    (match callback with
      | .on_headers_complete version =>
        if collector.expects_continue version then [taken + collector.requests.length] else []
      | _ => []) ++ awaited taken (collector.receive callback) rest

/-- Message `k` of a stream is HTTP/1.1 and has an `Expect: 100-continue` header by
the time its headers are completed. -/
def Expects (heard : List Callback) (k : Nat) : Prop :=
  ∃ before version after, heard = before ++ .on_headers_complete version :: after ∧
    (before.foldl Collector.receive .new).requests.length = k ∧ version = "1.1" ∧
    ∃ header ∈ (before.foldl Collector.receive .new).headers,
      lower_bytes header.1 = ascii "expect" ∧
        contains_bytes (ascii "100-continue") (lower_bytes header.2) = true

/-- What holds of every `100 Continue` on a transport and what was done before it. -/
def Throughout (C : List Op → Nat → Prop) (ops : List Op) : Prop :=
  ∀ before k after, ops = before ++ .continue_100 k :: after → C before k

/-- Every earlier request has had its final response. -/
def InTurn (before : List Op) (k : Nat) : Prop := ∀ j < k, j ∈ before.filterMap Op.finishes

/-- The request itself has not, and nothing has ended the connection. -/
def InTime (before : List Op) (k : Nat) : Prop :=
  k ∉ before.filterMap Op.finishes ∧ .close ∉ before ∧ .abort ∉ before

theorem throughout_append (C : List Op → Nat → Prop) (ops tail : List Op) :
    Throughout C (ops ++ tail) ↔
      Throughout C ops ∧ Throughout (fun before => C (ops ++ before)) tail := by
  constructor
  · intro hall
    refine ⟨fun before k after hops => ?_, fun before k after htail => ?_⟩
    · exact hall before k (after ++ tail) (by rw [hops]; simp)
    · exact hall (ops ++ before) k after (by rw [htail]; simp)
  · rintro ⟨hops, htail⟩ before k after hsplit
    obtain ⟨mid, hbefore, hmid⟩ | ⟨mid, hbefore, hmid⟩ := List.append_eq_append_iff.mp hsplit
    · rw [hbefore]
      exact htail mid k after hmid
    · cases mid with
      | nil =>
        have hlast : C (ops ++ []) k := htail [] k after hmid.symm
        rw [List.append_nil] at hbefore hlast
        rwa [← hbefore]
      | cons op rest =>
        obtain ⟨rfl, -⟩ := List.cons.inj hmid
        exact hops before k rest hbefore

theorem throughout_of_none {C : List Op → Nat → Prop} {ops : List Op}
    (hnone : ∀ op ∈ ops, op.continues = none) : Throughout C ops := by
  intro before k after hops
  have hfound := hnone (.continue_100 k) (by simp [hops])
  cases hfound

/-- A step that writes no `100 Continue` keeps what holds of all of them. -/
theorem throughout_append_of_none {C : List Op → Nat → Prop} {ops tail : List Op}
    (hnone : ∀ op ∈ tail, op.continues = none) :
    Throughout C (ops ++ tail) ↔ Throughout C ops := by
  rw [throughout_append, and_iff_left (throughout_of_none hnone)]

/-- Where the answers before it are all that counts, a batch is judged one by one. -/
theorem throughout_continues_iff {C : List Op → Nat → Prop} {D : Nat → Prop} {ks : List Nat}
    (hsame : ∀ before k, C (List.map Op.continue_100 before) k ↔ D k) :
    Throughout C (ks.map .continue_100) ↔ ∀ k ∈ ks, D k := by
  constructor
  · intro hall k hk
    obtain ⟨before, after, rfl⟩ := List.append_of_mem hk
    exact (hsame before k).mp
      (hall (before.map .continue_100) k (after.map .continue_100) (by simp))
  · intro hall before k after hsplit
    obtain ⟨first, rest, rfl, rfl, hrest⟩ := List.map_eq_append_iff.mp hsplit
    obtain ⟨k', rest, rfl, hk, -⟩ := List.map_eq_cons_iff.mp hrest
    obtain rfl := Op.continue_100.inj hk
    exact (hsame first k').mpr (hall k' (by simp))

/-- Only the headers and the number of messages count. -/
theorem awaited_congr {taken taken' : Nat} {collector collector' : Collector}
    (hheaders : collector.headers = collector'.headers)
    (hplace : taken + collector.requests.length = taken' + collector'.requests.length)
    (callbacks : List Callback) :
    awaited taken collector callbacks = awaited taken' collector' callbacks := by
  induction callbacks generalizing collector collector' with
  | nil => rfl
  | cons callback rest ih =>
    have hexpects : ∀ version, collector.expects_continue version =
        collector'.expects_continue version := by
      intro version
      rw [Collector.expects_continue, hheaders, Collector.expects_continue]
    have hrest : awaited taken (collector.receive callback) rest =
        awaited taken' (collector'.receive callback) rest := by
      refine ih ?_ ?_
      · cases callback <;> simp [Collector.receive, Collector.on_message_begin, Collector.on_url,
          Collector.on_header, Collector.on_body, Collector.on_message_complete, hheaders]
      · cases callback <;> simp [Collector.receive, Collector.on_message_begin, Collector.on_url,
          Collector.on_header, Collector.on_body, Collector.on_message_complete] <;> omega
    cases callback <;> simp only [awaited, hrest, hexpects, hplace]

theorem awaited_append (taken : Nat) (collector : Collector) (first second : List Callback) :
    awaited taken collector (first ++ second) = awaited taken collector first ++
      awaited taken (first.foldl Collector.receive collector) second := by
  induction first generalizing collector with
  | nil => rfl
  | cons callback rest ih =>
    simp only [List.cons_append, awaited, ih, List.append_assoc, List.foldl_cons]

theorem awaited_sublist_heads (taken : Nat) (collector : Collector) (callbacks : List Callback) :
    (awaited taken collector callbacks).Sublist
      (heads (taken + collector.requests.length) callbacks) := by
  induction callbacks generalizing collector with
  | nil => exact List.Sublist.refl _
  | cons callback rest ih =>
    have hrest := ih (collector.receive callback)
    cases callback with
    | on_headers_complete version =>
      simp only [awaited, heads]
      split
      · exact hrest.cons_cons _
      · exact hrest.cons _
    | on_message_complete method version =>
      simp only [awaited, heads, List.nil_append]
      simpa [Collector.receive, Collector.on_message_complete, Nat.add_assoc] using hrest
    | _ => exact hrest

theorem mem_awaited_iff {taken : Nat} {collector : Collector} {callbacks : List Callback}
    {k : Nat} : k ∈ awaited taken collector callbacks ↔
      ∃ before version after, callbacks = before ++ .on_headers_complete version :: after ∧
        (before.foldl Collector.receive collector).expects_continue version = true ∧
        k = taken + (before.foldl Collector.receive collector).requests.length := by
  constructor
  · intro hk
    induction callbacks generalizing collector with
    | nil => simp [awaited] at hk
    | cons callback rest ih =>
      have hlater : k ∈ awaited taken (collector.receive callback) rest →
          ∃ before version after,
            callback :: rest = before ++ .on_headers_complete version :: after ∧
            (before.foldl Collector.receive collector).expects_continue version = true ∧
            k = taken + (before.foldl Collector.receive collector).requests.length := by
        intro hrest
        obtain ⟨before, version, after, rfl, hexpects, rfl⟩ := ih hrest
        exact ⟨callback :: before, version, after, rfl, hexpects, rfl⟩
      cases callback with
      | on_headers_complete version =>
        simp only [awaited, List.mem_append] at hk
        refine hk.elim (fun hhere => ?_) hlater
        split at hhere
        · next hexpects => exact ⟨[], version, rest, rfl, hexpects, List.mem_singleton.mp hhere⟩
        · cases hhere
      | _ => exact hlater hk
  · rintro ⟨before, version, after, rfl, hexpects, rfl⟩
    rw [awaited_append, awaited, hexpects]
    simp

namespace Connection

variable {self next : Connection}

/-- The requests that a `100 Continue` was written for. -/
def interim (self : Connection) : List Nat := self.ops.filterMap Op.continues

/-- The callbacks of a segment answer what awaits it, while nothing has ended the
connection. -/
theorem ops_foldl_receive (callbacks : List Callback) (hmade : self.made = true)
    (hopen : self.is_closing = false) : (callbacks.foldl receive self).ops =
      self.ops ++ (awaited self.taken self.collector callbacks).map .continue_100 := by
  induction callbacks generalizing self with
  | nil => simp [awaited]
  | cons callback rest ih =>
    rw [List.foldl_cons]
    cases callback with
    | on_headers_complete version =>
      cases hexpects : self.collector.expects_continue version with
      | true =>
        have hreceive : self.receive (.on_headers_complete version) =
            self.push (.continue_100 self.completed) := by
          simp [receive, hmade, hexpects, hopen]
        rw [hreceive, @ih (self.push (.continue_100 self.completed)) hmade
          (by simpa [is_closing, push] using hopen)]
        simp [awaited, hexpects, push, completed, Collector.receive]
      | false =>
        have hreceive : self.receive (.on_headers_complete version) = self := by
          simp [receive, hexpects]
        rw [hreceive, ih hmade hopen]
        simp [awaited, hexpects, Collector.receive]
    | _ => exact ih hmade hopen

/-- Behind the callbacks, `data_received` writes no `100 Continue`, and keeps the
message that is being received. -/
theorem read_ready_from (parse_url : ParseUrl) (date : Bytes) (self : Connection) (feed : Feed) :
    let fed := feed.callbacks.foldl receive self
    let next := self.read_ready parse_url date feed
    next.made = fed.made ∧ next.collector.headers = fed.collector.headers ∧
      next.completed = fed.completed ∧
      ∃ tail, next.ops = fed.ops ++ tail ∧ ∀ op ∈ tail, op.continues = none := by
  cases herror : feed.error with
  | none =>
    have hdata := data_received_fed parse_url date self herror
    generalize feed.callbacks.foldl receive self = fed at hdata
    cases hurls : parse_urls parse_url fed.collector.requests with
    | ok _ =>
      rw [read_ready, hdata, hurls]
      exact ⟨rfl, rfl, rfl, [], (List.append_nil _).symm, by simp⟩
    | error e =>
      rw [read_ready, hdata, hurls]
      exact ⟨rfl, rfl, rfl, [.abort], rfl, by simp [Op.continues]⟩
  | some e =>
    cases hparser : e.is_parser_error with
    | true =>
      rw [read_ready, data_received_refused parse_url date self herror hparser]
      generalize feed.callbacks.foldl receive self = fed
      cases hopen : fed.is_open with
      | true =>
        refine ⟨rfl, rfl, rfl, [.bad_request fed.completed (bad_request date), .close], ?_, ?_⟩
        · simp [push]
        · simp [Op.continues]
      | false => exact ⟨rfl, rfl, rfl, [], (List.append_nil _).symm, by simp⟩
    | false =>
      refine ⟨?_, ?_, ?_, [.abort], ?_, by simp [Op.continues]⟩ <;>
        simp [read_ready, data_received, herror, hparser, push, completed]

/-- A step that is no segment: what is being received stays, and no `100 Continue` is
written. -/
structure Apart (conn next : Connection) : Prop where
  made : next.made = conn.made
  collector : next.collector = conn.collector
  taken : next.taken = conn.taken
  ops : ∃ tail, next.ops = conn.ops ++ tail ∧ ∀ op ∈ tail, op.continues = none

theorem Works.apart {tail : List Op} (hworks : Works tail self next)
    (hnone : ∀ op ∈ tail, op.continues = none) : self.Apart next := by
  obtain ⟨queue, worker, waker, sentinels, later, rfl⟩ := hworks
  exact ⟨rfl, rfl, rfl, tail, rfl, hnone⟩

theorem Silent.continues {tail : List Op} (hsilent : Silent tail) :
    ∀ op ∈ tail, op.continues = none := by
  obtain rfl | rfl := hsilent <;> simp [Op.continues]

/-- A step on a connection, apart from the segments. -/
theorem apart_act {Data : Type} {parse_url : ParseUrl} {handler : Handler} {act : Act Data}
    (hnext : self.act parse_url handler act = some next)
    (hother : ∀ date feed, act ≠ .data_received date feed) : self.Apart next := by
  cases act with
  | data_received date feed => exact absurd rfl (hother date feed)
  | transport_closed =>
    obtain ⟨-, rfl⟩ := act_transport_closed hnext
    exact ⟨rfl, rfl, rfl, [.abort], rfl, by simp [Op.continues]⟩
  | connection_lost =>
    obtain ⟨-, rfl⟩ := act_connection_lost hnext
    exact ⟨rfl, rfl, rfl, [], (List.append_nil _).symm, by simp⟩
  | worker =>
    obtain ⟨tail, hsilent, hworks⟩ := works_run_worker hnext
    exact hworks.apart hsilent.continues
  | waker => exact (works_run_waker hnext).apart (by simp)
  | dispatched date calls =>
    obtain ⟨tail, hsilent, hworks | ⟨-, r, raw, -, hworks⟩⟩ := works_finish_dispatch hnext
    · exact hworks.apart hsilent.continues
    · exact hworks.apart (List.forall_mem_cons.mpr ⟨rfl, hsilent.continues⟩)

/-- The callbacks of a step. -/
def heard_in {Data : Type} : Act Data → List Callback
  | .data_received _ feed => feed.callbacks
  | _ => []

/-- The connection has received exactly these callbacks: the message at hand and the
number of those before it come from them, and each that awaited it was answered. -/
structure Heard (heard : List Callback) (conn : Connection) : Prop where
  made : conn.made = true
  headers : conn.collector.headers = (heard.foldl Collector.receive .new).headers
  completed : conn.completed = (heard.foldl Collector.receive .new).requests.length
  interim : conn.interim = awaited 0 .new heard

theorem heard_connection_made (peer sockname : Option (String × Int)) :
    (connection_made peer sockname).Heard [] := ⟨rfl, rfl, rfl, rfl⟩

/-- More callbacks, from collectors that agree on the message at hand. -/
theorem foldl_receive_congr {collector other : Collector} {taken : Nat}
    (hheaders : collector.headers = other.headers)
    (hplace : taken + collector.requests.length = other.requests.length)
    (callbacks : List Callback) :
    (callbacks.foldl Collector.receive collector).headers =
        (callbacks.foldl Collector.receive other).headers ∧
      taken + (callbacks.foldl Collector.receive collector).requests.length =
        (callbacks.foldl Collector.receive other).requests.length := by
  induction callbacks generalizing collector other with
  | nil => exact ⟨hheaders, hplace⟩
  | cons callback rest ih =>
    refine ih ?_ ?_
    · cases callback <;> simp [Collector.receive, Collector.on_message_begin, Collector.on_url,
        Collector.on_header, Collector.on_body, Collector.on_message_complete, hheaders]
    · cases callback <;> simp [Collector.receive, Collector.on_message_begin, Collector.on_url,
        Collector.on_header, Collector.on_body, Collector.on_message_complete] <;> omega

/-- What a segment writes: what awaits it, and nothing that continues behind that. -/
theorem ops_data_received (hmade : self.made = true) (hopen : self.is_open = true)
    (parse_url : ParseUrl) (date : Bytes) (feed : Feed) : ∃ tail,
      (self.read_ready parse_url date feed).ops = self.ops ++
        ((awaited self.taken self.collector feed.callbacks).map .continue_100 ++ tail) ∧
      ∀ op ∈ tail, op.continues = none := by
  have hclosing : self.is_closing = false := by
    simp only [is_open, Bool.and_eq_true, Bool.not_eq_true'] at hopen
    exact hopen.2
  obtain ⟨-, -, -, tail, hops, hnone⟩ := read_ready_from parse_url date self feed
  exact ⟨tail, by rw [hops, ops_foldl_receive _ hmade hclosing, List.append_assoc], hnone⟩

theorem filterMap_continues (ks : List Nat) :
    (ks.map Op.continue_100).filterMap Op.continues = ks := by
  rw [List.filterMap_map]
  exact List.filterMap_some

theorem Heard.data_received {heard : List Callback} (hheard : self.Heard heard)
    (hopen : self.is_open = true) (parse_url : ParseUrl) (date : Bytes) (feed : Feed) :
    (self.read_ready parse_url date feed).Heard (heard ++ feed.callbacks) := by
  obtain ⟨continues, -, hfed⟩ := foldl_receive feed.callbacks self
  obtain ⟨hmade, hheaders, hcompleted, -⟩ := read_ready_from parse_url date self feed
  obtain ⟨tail, hops, hnone⟩ := ops_data_received hheard.made hopen parse_url date feed
  have hplace : self.taken + self.collector.requests.length =
      (heard.foldl Collector.receive .new).requests.length := hheard.completed
  obtain ⟨hsame, hlength⟩ := foldl_receive_congr hheard.headers hplace feed.callbacks
  refine ⟨?_, ?_, ?_, ?_⟩
  · rw [hmade, hfed]
    exact hheard.made
  · rw [hheaders, hfed, List.foldl_append]
    exact hsame
  · rw [hcompleted, Connection.completed, hfed, List.foldl_append]
    exact hlength
  · have hlater : awaited self.taken self.collector feed.callbacks =
        awaited 0 (heard.foldl Collector.receive .new) feed.callbacks :=
      awaited_congr hheard.headers (hplace.trans (Nat.zero_add _).symm) feed.callbacks
    rw [Connection.interim, hops, List.filterMap_append, List.filterMap_append, filterMap_continues,
      List.filterMap_eq_nil_iff.mpr hnone, List.append_nil, awaited_append, ← hlater]
    exact congrArg (· ++ _) hheard.interim

theorem Heard.apart {heard : List Callback} (hheard : self.Heard heard) (hapart : self.Apart next) :
    next.Heard heard := by
  obtain ⟨tail, hops, hnone⟩ := hapart.ops
  refine ⟨hapart.made.trans hheard.made, ?_, ?_, ?_⟩
  · rw [hapart.collector, hheard.headers]
  · rw [Connection.completed, hapart.collector, hapart.taken]
    exact hheard.completed
  · rw [Connection.interim, hops, List.filterMap_append, List.filterMap_eq_nil_iff.mpr hnone,
      List.append_nil]
    exact hheard.interim

/-- A step leaves what was heard, or adds a segment to it. -/
theorem Heard.act {Data : Type} {parse_url : ParseUrl} {handler : Handler} {act : Act Data}
    {heard : List Callback} (hheard : self.Heard heard)
    (hnext : self.act parse_url handler act = some next) :
    next.Heard (heard ++ heard_in act) := by
  cases act with
  | data_received date feed =>
    obtain ⟨hopen, rfl⟩ := act_data_received hnext
    exact hheard.data_received hopen parse_url date feed
  | _ =>
    simp only [heard_in, List.append_nil]
    exact hheard.apart (apart_act hnext (by simp))

/-- The requests of a segment that await a `100 Continue`, each with the callbacks
before it. -/
theorem mem_awaited_segment_iff {callbacks : List Callback} {k : Nat} :
    k ∈ awaited self.taken self.collector callbacks ↔
      ∃ before version after, callbacks = before ++ .on_headers_complete version :: after ∧
        (before.foldl Collector.receive self.collector).expects_continue version = true ∧
        k = (before.foldl receive self).completed := by
  have hplace : ∀ before, (List.foldl receive self before).completed =
      self.taken + (before.foldl Collector.receive self.collector).requests.length := by
    intro before
    obtain ⟨continues, -, heq⟩ := foldl_receive before self
    rw [completed, heq]
  simp only [mem_awaited_iff, hplace]

/-- A segment that completes the headers of a request that awaits a `100 Continue` meets
a connection with nothing to answer, up to there, and no request that a view answered
with a 1xx. -/
def ContinuesInTurn {Data : Type} (self : Connection) : Act Data → Prop
  | .data_received _ feed => ∀ before version after,
    feed.callbacks = before ++ .on_headers_complete version :: after →
    (before.foldl Collector.receive self.collector).expects_continue version = true →
    self.NothingToAnswer ⟨before, none⟩ ∧ self.answered_1xx = false
  | _ => True

theorem filterMap_finishes_append (ops : List Op) (ks : List Nat) :
    (ops ++ List.map Op.continue_100 ks).filterMap Op.finishes = ops.filterMap Op.finishes := by
  have hnone : (ks.map Op.continue_100).filterMap Op.finishes = [] := by
    simp [List.filterMap_map, Op.finishes, Function.comp_def]
  rw [List.filterMap_append, hnone, List.append_nil]

/-- Where the final responses are to some of the first `n` requests, a place that is not
before those is in turn when there are as many. -/
theorem in_turn_iff {ops : List Op} {n k : Nat}
    (hfinals : (ops.filterMap Op.finishes).Sublist (List.range n)) (hle : n ≤ k) :
    InTurn ops k ↔ k = (ops.filterMap Op.finishes).length := by
  have hfew := hfinals.length_le
  rw [List.length_range] at hfew
  constructor
  · intro hall
    have hmost : (List.range k).length ≤ (ops.filterMap Op.finishes).length :=
      List.nodup_range.length_le_of_subset fun j hj => hall j (List.mem_range.mp hj)
    rw [List.length_range] at hmost
    omega
  · intro hplace j hj
    have hall : ops.filterMap Op.finishes = List.range n :=
      hfinals.eq_of_length (by rw [List.length_range]; omega)
    rw [hall, List.mem_range]
    omega

/-- The final responses on an open connection are to requests that have a response. -/
theorem finals_sublist_range (hsound : self.Sound draining) (hopen : self.is_open = true) :
    (self.ops.filterMap Op.finishes).Sublist (List.range self.responses.length) := by
  have hfinals := finals_sublist (hsound.books.undisturbed hopen).2.2
  rwa [show self.responses = List.range self.responses.length from hsound.books.wire.in_order,
    finals] at hfinals

/-- A step keeps every `100 Continue` in turn exactly when it meets that condition. -/
theorem in_turn_act_iff {Data : Type} {parse_url : ParseUrl} {handler : Handler}
    (hsound : self.Sound handler.draining) (hmade : self.made = true) {act : Act Data}
    (hnext : self.act parse_url handler act = some next) :
    Throughout InTurn next.ops ↔ Throughout InTurn self.ops ∧ self.ContinuesInTurn act := by
  cases act with
  | data_received date feed =>
    obtain ⟨hopen, rfl⟩ := act_data_received hnext
    obtain ⟨tail, hops, hnone⟩ := ops_data_received hmade hopen parse_url date feed
    have hfinals := finals_sublist_range hsound hopen
    have hbatch : ∀ before k, InTurn (self.ops ++ List.map Op.continue_100 before) k ↔
        InTurn self.ops k := by
      intro before k
      simp only [InTurn, filterMap_finishes_append]
    rw [hops, throughout_append, throughout_append_of_none hnone, throughout_continues_iff hbatch]
    refine and_congr_right fun _ => ?_
    constructor
    · intro hall before version after hcallbacks hexpects
      have hturn := hall _ (mem_awaited_segment_iff.mpr
        ⟨before, version, after, hcallbacks, hexpects, rfl⟩)
      rw [in_turn_iff hfinals (responses_le_completed hsound hopen before)] at hturn
      exact (completed_eq_iff hsound hopen ⟨before, none⟩).mp hturn
    · intro hcontinues k hk
      obtain ⟨before, version, after, hcallbacks, hexpects, rfl⟩ := mem_awaited_segment_iff.mp hk
      rw [in_turn_iff hfinals (responses_le_completed hsound hopen before)]
      exact (completed_eq_iff hsound hopen ⟨before, none⟩).mpr
        (hcontinues before version after hcallbacks hexpects)
  | _ =>
    obtain ⟨tail, hops, hnone⟩ := (apart_act hnext (by simp)).ops
    rw [hops, throughout_append_of_none hnone]
    exact (and_iff_left trivial).symm

/-- No step writes a `100 Continue` too late. -/
theorem in_time_act_iff {Data : Type} {parse_url : ParseUrl} {handler : Handler}
    (hsound : self.Sound handler.draining) (hmade : self.made = true) {act : Act Data}
    (hnext : self.act parse_url handler act = some next) :
    Throughout InTime next.ops ↔ Throughout InTime self.ops := by
  cases act with
  | data_received date feed =>
    obtain ⟨hopen, rfl⟩ := act_data_received hnext
    obtain ⟨tail, hops, hnone⟩ := ops_data_received hmade hopen parse_url date feed
    obtain ⟨-, hclose, habort⟩ := is_open_iff.mp hopen
    have hbatch : ∀ before k, InTime (self.ops ++ List.map Op.continue_100 before) k ↔
        k ∉ self.ops.filterMap Op.finishes := by
      intro before k
      rw [InTime, filterMap_finishes_append]
      simp [hclose, habort]
    rw [hops, throughout_append, throughout_append_of_none hnone, throughout_continues_iff hbatch]
    refine and_iff_left fun k hk hmem => ?_
    obtain ⟨before, -, -, -, -, rfl⟩ := mem_awaited_segment_iff.mp hk
    have hearlier := List.mem_range.mp ((finals_sublist_range hsound hopen).mem hmem)
    exact absurd (responses_le_completed hsound hopen before) (Nat.not_le.mpr hearlier)
  | _ =>
    obtain ⟨tail, hops, hnone⟩ := (apart_act hnext (by simp)).ops
    rw [hops, throughout_append_of_none hnone]

/-- Every `100 Continue` on a connection that has received these callbacks is the only
one for its request, which is HTTP/1.1 and expects it, and comes in turn and in time. -/
structure InterimOrdered (heard : List Callback) (conn : Connection) : Prop where
  once : ∀ k, conn.interim.count k ≤ 1
  expected : ∀ k ∈ conn.interim, Expects heard k
  in_turn : Throughout InTurn conn.ops
  in_time : Throughout InTime conn.ops

theorem Heard.once {heard : List Callback} (hheard : self.Heard heard)
    (hheads : (heads 0 heard).Nodup) (k : Nat) : self.interim.count k ≤ 1 := by
  rw [hheard.interim]
  exact List.nodup_iff_count_le_one.mp ((awaited_sublist_heads 0 .new heard).nodup hheads) k

theorem Heard.expected {heard : List Callback} (hheard : self.Heard heard) :
    ∀ k ∈ self.interim, Expects heard k := by
  intro k hk
  rw [hheard.interim] at hk
  obtain ⟨before, version, after, hsplit, hexpects, hplace⟩ := mem_awaited_iff.mp hk
  simp only [Collector.expects_continue, Bool.and_eq_true, decide_eq_true_eq, List.any_eq_true]
    at hexpects
  obtain ⟨hversion, header, hheader, hmatch⟩ := hexpects
  exact ⟨before, version, after, hsplit, by rw [hplace, Nat.zero_add], hversion, header, hheader,
    hmatch⟩

end Connection

namespace Server

variable {Data : Type} {parse_url : ParseUrl} {s t : Server}

/-- The callbacks that the parser of a connection made in a run. -/
def heard (c : Nat) (steps : List (Server × Action Data)) : List Callback :=
  steps.flatMap fun taken => match taken.2 with
    | .connection d act => if d = c then Connection.heard_in act else []
    | _ => []

/-- No step completes the headers of a request that awaits a `100 Continue` while an
earlier request of its connection has no final response yet. -/
def ContinuesInTurn (c : Nat) (s : Server) (a : Action Data) : Prop :=
  ∀ act conn, a = .connection c act → s.conns[c]? = some conn → conn.ContinuesInTurn act

theorem heard_append (c : Nat) (steps : List (Server × Action Data))
    (taken : Server × Action Data) :
    heard c (steps ++ [taken]) = heard c steps ++ heard c [taken] := by
  simp [heard]

/-- Each connection has received the callbacks of its own parser. -/
theorem heard_run {steps : List (Server × Action Data)}
    (hrun : (server Data parse_url).Run steps s) (c : Nat) :
    (s.conns.length ≤ c → heard c steps = []) ∧
      ∀ conn, s.conns[c]? = some conn → conn.Heard (heard c steps) := by
  refine hrun.invariant_steps (I := fun steps s => (s.conns.length ≤ c → heard c steps = []) ∧
    ∀ conn, s.conns[c]? = some conn → conn.Heard (heard c steps)) ?_ ?_
  · rintro s rfl
    exact ⟨fun _ => rfl, by simp [new]⟩
  · intro steps s a t hbefore hkept hstep
    change s.step parse_url a = some t at hstep
    obtain ⟨hnew, hheard⟩ := hkept
    rw [heard_append]
    cases a with
    | connection_made peer sockname =>
      simp only [Server.step, Option.some.injEq] at hstep
      subst hstep
      simp only [heard, List.flatMap_cons, List.flatMap_nil, List.append_nil, List.length_append,
        List.length_singleton] at hnew hheard ⊢
      refine ⟨fun hle => hnew (by omega), fun conn hconn => ?_⟩
      by_cases hbound : c < s.conns.length
      · rw [List.getElem?_append_left hbound] at hconn
        exact hheard conn hconn
      · obtain hearlier | rfl := getElem?_joined hconn
        · exact hheard conn hearlier
        · rw [hnew (by omega)]
          exact Connection.heard_connection_made peer sockname
    | connection d act =>
      obtain ⟨conn, next, hconn, hnext, rfl⟩ := step_connection hstep
      have hbound := (List.getElem?_eq_some_iff.mp hconn).1
      by_cases hsame : d = c
      · subst hsame
        have hmore : heard d [(s, .connection d act)] = Connection.heard_in act := by
          simp [heard]
        rw [hmore]
        refine ⟨fun hle => absurd hle (by simpa using hbound), fun found hfound => ?_⟩
        obtain ⟨-, rfl⟩ | ⟨hne, -⟩ := getElem?_stepped hfound
        · exact (hheard conn hconn).act hnext
        · exact absurd rfl hne
      · have hnone : heard c [(s, .connection d act)] = [] := by simp [heard, hsame]
        rw [hnone, List.append_nil]
        refine ⟨by simpa using hnew, fun found hfound => ?_⟩
        obtain ⟨rfl, -⟩ | ⟨-, hearlier⟩ := getElem?_stepped hfound
        · exact absurd rfl hsame
        · exact hheard found hearlier
    | stop =>
      obtain ⟨-, rfl⟩ := step_stop hstep
      have hnone : heard c [(s, (.stop : Action Data))] = [] := rfl
      rw [hnone, List.append_nil]
      refine ⟨by simpa using hnew, fun found hfound => ?_⟩
      simp only [List.getElem?_map, Option.map_eq_some_iff] at hfound
      obtain ⟨conn, hconn, rfl⟩ := hfound
      obtain ⟨hmade, hheaders, hcompleted, hinterim⟩ := hheard conn hconn
      exact ⟨hmade, hheaders, hcompleted, hinterim⟩
    | drain act =>
      have hnone : heard c [(s, (.drain act : Action Data))] = [] := rfl
      rw [hnone, List.append_nil, (drain_act_kept hstep).2.1]
      exact ⟨hnew, hheard⟩

theorem throughout_connection_made (C : List Op → Nat → Prop)
    (peer sockname : Option (String × Int)) :
    Throughout C (Connection.connection_made peer sockname).ops :=
  throughout_of_none fun _ hop => by cases hop

theorem in_time_run {steps : List (Server × Action Data)}
    (hrun : (server Data parse_url).Run steps s) (c : Nat) :
    ∀ conn, s.conns[c]? = some conn → Throughout InTime conn.ops := by
  refine hrun.invariant_steps
    (I := fun _ s => ∀ conn, s.conns[c]? = some conn → Throughout InTime conn.ops) ?_ ?_
  · rintro s rfl conn hconn
    simp [new] at hconn
  · intro steps s a t hbefore hkept hstep
    refine (conn_step_iff (P := fun conn => Throughout InTime conn.ops) (G := fun _ _ => True)
      (throughout_connection_made InTime) (fun _ => Iff.rfl)
      (fun conn next act hconn hnext => ?_) hstep).mpr ⟨hkept, by simp⟩
    rw [and_iff_left trivial]
    exact Connection.in_time_act_iff ((sound_run hbefore).conns conn (List.mem_of_getElem? hconn))
      ((heard_run hbefore c).2 conn hconn).made hnext

/-- Every `100 Continue` of a connection is in order after exactly the runs in which the
requests that await one were met with every earlier request answered. The parser
completes the headers of each message once. -/
theorem interim_ordered_iff_in_turn {steps : List (Server × Action Data)}
    (hrun : (server Data parse_url).Run steps s) (c : Nat)
    (hheads : (heads 0 (heard c steps)).Nodup) :
    (∀ conn, s.conns[c]? = some conn → conn.InterimOrdered (heard c steps)) ↔
      ∀ taken ∈ steps, ContinuesInTurn c taken.1 taken.2 := by
  have hturns : (∀ conn, s.conns[c]? = some conn → Throughout InTurn conn.ops) ↔
      ∀ taken ∈ steps, ContinuesInTurn c taken.1 taken.2 := by
    refine hrun.iff_forall_steps
      (P := fun s => ∀ conn, s.conns[c]? = some conn → Throughout InTurn conn.ops)
      (G := ContinuesInTurn c) ?_ ?_
    · rintro s rfl conn hconn
      simp [new] at hconn
    · intro steps s a t hbefore hstep
      refine conn_step_iff (throughout_connection_made InTurn) (fun _ => Iff.rfl)
        (fun conn next act hconn hnext => ?_) hstep
      exact Connection.in_turn_act_iff
        ((sound_run hbefore).conns conn (List.mem_of_getElem? hconn))
        ((heard_run hbefore c).2 conn hconn).made hnext
  rw [← hturns]
  refine forall₂_congr fun conn hconn => ⟨fun hordered => hordered.in_turn, fun hturn => ?_⟩
  have hheard := (heard_run hrun c).2 conn hconn
  exact ⟨hheard.once hheads, hheard.expected, hturn, in_time_run hrun c conn hconn⟩

/-- The callbacks for the headers of a request that waits for a `100 Continue`. -/
def expecting_feed : Feed :=
  ⟨[.on_message_begin, .on_url (ascii "/"), .on_header (ascii "Expect") (ascii "100-continue"),
    .on_headers_complete "1.1"], none⟩

theorem expecting_split {before after : List Callback} {version : String}
    (hsplit : expecting_feed.callbacks = before ++ .on_headers_complete version :: after) :
    before = [.on_message_begin, .on_url (ascii "/"),
      .on_header (ascii "Expect") (ascii "100-continue")] ∧ version = "1.1" := by
  rcases before with _ | ⟨first, _ | ⟨second, _ | ⟨third, _ | ⟨fourth, rest⟩⟩⟩⟩ <;>
    simp [expecting_feed] at hsplit
  obtain ⟨rfl, rfl, rfl, rfl, -⟩ := hsplit
  exact ⟨rfl, rfl⟩

/-- The body comes behind the `100 Continue`, and the request is served. -/
def expecting_served : List (Action Unit) :=
  [.connection_made none none, .connection 0 .worker,
   .connection 0 (.data_received (ascii "now") expecting_feed),
   .connection 0 (.data_received (ascii "now")
    ⟨[.on_body (ascii "x"), .on_message_complete (ascii "POST") "1.1"], none⟩),
   .connection 0 .worker,
   .connection 0 (.dispatched (ascii "now") (json_calls fun _ => some []))]

theorem interim_ordered_iff_in_turn_served : ∃ steps s,
    (server Unit fun url => .ok ⟨some url, none⟩).trace new expecting_served = some (steps, s) ∧
      ∀ conn, s.conns[0]? = some conn → conn.InterimOrdered (heard 0 steps) := by
  obtain ⟨⟨steps, s⟩, htrace⟩ := Option.isSome_iff_exists.mp (show
    ((server Unit fun url => .ok ⟨some url, none⟩).trace new expecting_served).isSome = true
      from rfl)
  refine ⟨steps, s, htrace, (interim_ordered_iff_in_turn
    (Machine.run_of_trace expecting_served rfl htrace) 0 ?_).mpr ?_⟩
  · cases htrace
    decide
  · cases htrace
    simp only [List.forall_mem_cons]
    refine ⟨?_, ?_, ?_, ?_, ?_, ?_, by simp⟩
    · intro act conn hact hconn
      cases hact
    · intro act conn hact hconn
      cases hact
      trivial
    · intro act conn hact hconn
      cases hact
      cases hconn
      intro before version after hsplit hexpects
      obtain ⟨rfl, -⟩ := expecting_split hsplit
      exact ⟨⟨rfl, rfl, fun r hr => (by cases hr), fun hcancelled => (by cases hcancelled)⟩, rfl⟩
    · intro act conn hact hconn
      cases hact
      cases hconn
      intro before version after hsplit hexpects
      have hmem : Callback.on_headers_complete version ∈
          before ++ .on_headers_complete version :: after := by simp
      rw [← hsplit] at hmem
      simp at hmem
    · intro act conn hact hconn
      cases hact
      trivial
    · intro act conn hact hconn
      cases hact
      trivial

/-- A request waits for its `100 Continue` while the view of the one before it is still
running, and gets it. -/
def slow_then_expecting : List (Action Unit) :=
  [.connection_made none none, .connection 0 .worker,
   .connection 0 (.data_received (ascii "now") (get_feed none)), .connection 0 .worker,
   .connection 0 (.data_received (ascii "now") expecting_feed)]

theorem continue_overtakes : ¬∀ steps s,
    (server Unit fun url => .ok ⟨some url, none⟩).Run steps s → (heads 0 (heard 0 steps)).Nodup →
      ∀ conn, s.conns[0]? = some conn → conn.InterimOrdered (heard 0 steps) := by
  intro hordered
  have hturn := (hordered _ _ (Machine.run_of_trace (s := new) slow_then_expecting rfl rfl)
    (by decide) _ rfl).in_turn [] 1 [] rfl 0 (by decide)
  cases hturn

end Server

end massless.protocol
