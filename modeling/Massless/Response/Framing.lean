import Massless.Http.Client
import Massless.Response.Fold

open python

namespace massless.response

/-- The two ways in which a response gets on the wire. -/
inductive Writer where
  | to_bytes (response : Response)
  | build_http_response (status : Int) (content_type body : Bytes)

def Writer.written : Writer → Response
  | .to_bytes response => response
  | .build_http_response status content_type body => .new status body content_type []

def Writer.wire (date : Bytes) (keep_alive : Bool) (method : Bytes) : Writer → Option Bytes
  | .to_bytes response => response.to_bytes date keep_alive method
  | .build_http_response status content_type body =>
    some (response.build_http_response date status content_type body keep_alive method)

/-- Both write the same for the same response. -/
theorem Writer.wire_eq (writer : Writer) (date : Bytes) (keep_alive : Bool) (method : Bytes) :
    writer.wire date keep_alive method = writer.written.to_bytes date keep_alive method := by
  cases writer with
  | to_bytes response => rfl
  | build_http_response status content_type body =>
    simp [wire, Writer.written, response.build_http_response, Response.to_bytes, Response.new,
      header_lines, cookie_lines, Dict.empty, line_if]

/-- A text that Django admits in a header: in its charset, and on one line. -/
def FieldText (bound : Nat) (text : String) : Prop :=
  ∀ c ∈ text.toList, c.toNat < bound ∧ c ≠ '\r' ∧ c ≠ '\n'

instance (bound : Nat) (text : String) : Decidable (FieldText bound text) :=
  List.decidableBAll (fun c : Char => c.toNat < bound ∧ c ≠ '\r' ∧ c ≠ '\n') text.toList

def OneLine (data : Bytes) : Prop := 13 ∉ data ∧ 10 ∉ data

instance (data : Bytes) : Decidable (OneLine data) := inferInstanceAs (Decidable (_ ∧ _))

/-- A response to a request, as it is written: status and headers are ones that Django
admits, without the headers that `dispatch` strips. -/
structure Reply where
  writer : Writer
  date : Bytes
  keep_alive : Bool
  method : Bytes
  status_admitted : 100 ≤ writer.written.status ∧ writer.written.status ≤ 599
  headers_admitted : ∀ entry ∈ writer.written.headers.entries,
    FieldText 128 entry.1 ∧ FieldText 256 entry.2
  headers_stripped : ∀ entry ∈ writer.written.headers.entries,
    lower_str entry.1 ∉ serializer_headers
  content_type_whole : OneLine writer.written.content_type
  date_whole : OneLine date

namespace Reply

def wire (reply : Reply) : Option Bytes :=
  reply.writer.wire reply.date reply.keep_alive reply.method

def status (reply : Reply) : Int := reply.writer.written.status

def body (reply : Reply) : Bytes := reply.writer.written.body

def is_head (reply : Reply) : Bool := reply.method = ascii "HEAD"

/-- The body that the client is meant to get. -/
def intended_body (reply : Reply) : Bytes :=
  if reply.is_head ∨ reply.status / 100 = 1 ∨ reply.status = 204 ∨ reply.status = 304 then []
  else reply.body

def latin1 (text : String) : Bytes := (encode_latin1 text).getD []

/-- The line `name: value`, without its end. -/
def field_line (name value : Bytes) : Bytes := name ++ ascii ": " ++ value

/-- The lines of the response's own headers. -/
def own_lines (reply : Reply) : List Bytes :=
  reply.writer.written.headers.entries.map fun entry =>
    field_line (latin1 entry.1) (latin1 entry.2)

/-- The response's own headers, as the client reads them. -/
def own_fields (reply : Reply) : List http.Field := http.read_fields reply.own_lines

def has_date (reply : Reply) : Bool :=
  reply.writer.written.headers.entries.any fun entry => lower_str entry.1 = "date"

/-- The response's own headers come right behind `Content-Length`, and the name of the
first one starts with a blank: the client takes it for more of the length. -/
def folds_length (reply : Reply) : Bool :=
  reply.keep_alive && reply.has_date && reply.own_lines.head?.any http.is_continuation

/-- The client finds the end of the body by the `Content-Length` of the serializer:
nothing but that line says where it is, and no body follows where none may. A transfer
encoding hides that line, and the body then ends with the connection at the best. -/
def Delimited (reply : Reply) (last : Prop) : Prop :=
  if reply.is_head ∨ reply.status = 204 ∨ reply.status = 304 then True
  else if reply.status / 100 = 1 then reply.body = []
  else match http.field_values http.transfer_encoding reply.own_fields with
    | [] => reply.folds_length = false ∧
        ∀ length ∈ http.field_values http.content_length reply.own_fields,
          http.parse_decimal length = some reply.body.length
    | first :: rest =>
      http.lower ((first :: rest).getLast (List.cons_ne_nil first rest)) ≠ http.chunked ∧ last

/-- No line ends in the reason phrase or in a cookie, neither of which anything checks. -/
structure Unbroken (reply : Reply) : Prop where
  reason : OneLine reply.writer.written.reason
  cookies : ∀ cookie ∈ reply.writer.written.cookies, '\r' ∉ cookie.toList ∧ '\n' ∉ cookie.toList

/-- The serializer can encode the cookies. -/
def Encodes (reply : Reply) : Prop :=
  ∀ cookie ∈ reply.writer.written.cookies, ∀ c ∈ cookie.toList, c.toNat < 256

/-- The reason phrase and the cookies go out, on one line each. -/
structure Whole (reply : Reply) : Prop where
  reason : OneLine reply.writer.written.reason
  cookies : ∀ cookie ∈ reply.writer.written.cookies, FieldText 256 cookie

end Reply

/-- What is made of a whole list is made of each of its members. -/
theorem exists_of_mapM {α β : Type} {f : α → Option β} {list : List α} {made : List β}
    (hmade : list.mapM f = some made) : ∀ x ∈ list, ∃ y, f x = some y := by
  induction list generalizing made with
  | nil => simp
  | cons x later ih =>
    simp only [List.mapM_cons, Option.bind_eq_bind, Option.bind_eq_some_iff] at hmade
    obtain ⟨y, hy, rest, hrest, -⟩ := hmade
    rw [List.forall_mem_cons]
    exact ⟨⟨y, hy⟩, ih hrest⟩

namespace Reply

theorem latin1_eq {bound : Nat} (hbound : bound ≤ 256) {text : String}
    (htext : FieldText bound text) :
    encode_latin1 text = some (latin1 text) ∧ 13 ∉ latin1 text := by
  have hmap : ∀ chars : List Char, (∀ c ∈ chars, c.toNat < bound ∧ c ≠ '\r' ∧ c ≠ '\n') →
      ∃ octets, chars.mapM (fun c => if c.toNat < 256 then some (UInt8.ofNat c.toNat) else none) =
        some octets ∧ 13 ∉ octets := by
    intro chars hchars
    induction chars with
    | nil => exact ⟨[], rfl, by simp⟩
    | cons c later ih =>
      rw [List.forall_mem_cons] at hchars
      obtain ⟨octets, hoctets, hlater⟩ := ih hchars.2
      refine ⟨UInt8.ofNat c.toNat :: octets, ?_, ?_⟩
      · rw [List.mapM_cons, hoctets, if_pos (by omega)]
        rfl
      · rw [List.mem_cons, not_or]
        refine ⟨?_, hlater⟩
        intro hreturn
        have hcode := congrArg UInt8.toNat hreturn
        rw [UInt8.toNat_ofNat'] at hcode
        have hnot : c.toNat ≠ '\r'.toNat := fun heq => hchars.1.2.1 (Char.toNat_inj.mp heq)
        have hr : '\r'.toNat = 13 := rfl
        have h13 : (13 : UInt8).toNat = 13 := rfl
        omega
  obtain ⟨octets, hoctets, hreturn⟩ := hmap text.toList htext
  have hencode : encode_latin1 text = some octets := hoctets
  rw [latin1, hencode]
  exact ⟨rfl, hreturn⟩

theorem header_lines_eq {headers : List (String × String)}
    (hheaders : ∀ entry ∈ headers, FieldText 128 entry.1 ∧ FieldText 256 entry.2) :
    header_lines headers =
      some (headers.map fun entry => header_line (latin1 entry.1) (latin1 entry.2)) := by
  induction headers with
  | nil => rfl
  | cons entry later ih =>
    rw [List.forall_mem_cons] at hheaders
    obtain ⟨⟨hname, hvalue⟩, hlater⟩ := hheaders
    have ih := ih hlater
    simp only [header_lines, Option.bind_eq_bind] at ih ⊢
    rw [List.mapM_cons, ih, (latin1_eq (by decide) hname).1, (latin1_eq (by decide) hvalue).1]
    rfl

theorem cookie_lines_eq {cookies : List String} (hcookies : ∀ cookie ∈ cookies, FieldText 256 cookie) :
    cookie_lines cookies =
      some (cookies.map fun cookie => header_line (ascii "Set-Cookie") (latin1 cookie)) := by
  induction cookies with
  | nil => rfl
  | cons cookie later ih =>
    rw [List.forall_mem_cons] at hcookies
    have ih := ih hcookies.2
    simp only [cookie_lines, Option.bind_eq_bind] at ih ⊢
    rw [List.mapM_cons, ih, (latin1_eq (by decide) hcookies.1).1]
    rfl

def start_line (reply : Reply) : Bytes :=
  ascii "HTTP/1.1 " ++ ascii (toString reply.status) ++ ascii " " ++
    if reply.writer.written.reason.isEmpty then reason_phrase reply.status
    else reply.writer.written.reason

def type_lines (reply : Reply) : List Bytes :=
  let response := reply.writer.written
  if !response.content_type.isEmpty || response.ct_present then
    [field_line (ascii "Content-Type") response.content_type] else []

def length_line (reply : Reply) : Bytes :=
  field_line (ascii "Content-Length") (ascii (toString reply.writer.written.body.length))

/-- The lines of the serializer behind `Content-Length`. -/
def closing_lines (reply : Reply) : List Bytes :=
  (if !reply.keep_alive then [field_line (ascii "Connection") (ascii "close")] else []) ++
  (if !reply.has_date then [field_line (ascii "Date") reply.date] else [])

/-- The lines of the serializer before those of the response's own headers. -/
def serializer_lines (reply : Reply) : List Bytes :=
  reply.type_lines ++ [reply.length_line] ++ reply.closing_lines

def own_cookies (reply : Reply) : List Bytes :=
  reply.writer.written.cookies.map fun cookie => field_line (ascii "Set-Cookie") (latin1 cookie)

def head_lines (reply : Reply) : List Bytes :=
  reply.serializer_lines ++ reply.own_lines ++ reply.own_cookies

/-- Octets of a reply: its lines, an empty line and the body that goes out. -/
theorem wire_eq {reply : Reply} (hwhole : reply.Whole) : reply.wire =
    some (http.block (reply.start_line :: reply.head_lines) ++ http.crlf ++
      sent_body reply.status reply.method reply.body) := by
  rw [wire, Writer.wire_eq, Response.to_bytes, header_lines_eq reply.headers_admitted,
    cookie_lines_eq hwhole.cookies]
  have hcrlf : http.crlf = crlf := rfl
  have hline : ∀ name value : Bytes, header_line name value = field_line name value ++ crlf :=
    fun name value => rfl
  have hdate : (reply.writer.written.headers.entries.any fun entry =>
      lower_str entry.1 = "date") = reply.has_date := rfl
  simp only [Option.bind_eq_bind, Option.bind_some, Option.some.injEq, http.block, head_lines,
    serializer_lines, type_lines, length_line, closing_lines, own_lines, own_cookies, hdate,
    start_line, status_line, content_length_line, connection_close_line, line_if,
    hcrlf, hline, List.flatMap_cons, List.flatMap_append, List.flatMap_map, List.flatMap_nil,
    ← List.flatMap_def, status, body]
  split_ifs <;> simp

theorem ascii_toString (n : Nat) : ascii (toString n) = http.decimal n := by
  rw [ascii, http.decimal, Nat.toString_eq_repr, Nat.toList_repr]

theorem status_eq (reply : Reply) : ∃ n : Nat, reply.status = n ∧ n ≤ 599 := by
  have hadmitted := reply.status_admitted
  exact ⟨reply.status.toNat, by unfold status; omega, by unfold status; omega⟩

theorem field_line_unbroken {name value : Bytes} (hname : 13 ∉ name) (hvalue : 13 ∉ value) :
    http.Unbroken (field_line name value) := by
  have hseparator : 13 ∉ ascii ": " := by decide
  simp only [http.Unbroken, field_line, ne_eq, List.append_eq_nil_iff, List.mem_append, not_or]
  exact ⟨fun hnil => absurd hnil.1.2 (by decide), ⟨hname, hseparator⟩, hvalue⟩

theorem decimal_unbroken (n : Nat) : 13 ∉ http.decimal n := fun hreturn =>
  absurd (http.decimal_digits n 13 hreturn) (by decide)

theorem start_line_unbroken {reply : Reply} (hwhole : reply.Whole) : http.Unbroken reply.start_line := by
  obtain ⟨n, hn, -⟩ := reply.status_eq
  have hreason : 13 ∉ (if reply.writer.written.reason.isEmpty then reason_phrase reply.status
      else reply.writer.written.reason) := by
    split
    · exact reason_phrase_unbroken reply.status
    · exact hwhole.reason.1
  have hnumber : 13 ∉ ascii (toString (n : Int)) := by
    have hsame : ascii (toString (n : Int)) = http.decimal n := ascii_toString n
    rw [hsame]
    exact decimal_unbroken n
  have hversion : 13 ∉ ascii "HTTP/1.1 " ∧ 13 ∉ ascii " " := by decide
  rw [http.Unbroken, start_line, hn] at *
  simp only [ne_eq, List.append_eq_nil_iff, List.mem_append, not_or]
  exact ⟨fun hnil => absurd hnil.1.1.1 (by decide), ⟨⟨hversion.1, hnumber⟩, hversion.2⟩, hreason⟩

theorem serializer_lines_unbroken (reply : Reply) :
    ∀ line ∈ reply.serializer_lines, http.Unbroken line := by
  intro line hline
  have hlength : 13 ∉ ascii (toString reply.writer.written.body.length) := by
    rw [ascii_toString]
    exact decimal_unbroken _
  simp only [serializer_lines, type_lines, length_line, closing_lines, List.mem_append,
    List.mem_ite_nil_right, List.mem_singleton, or_assoc] at hline
  obtain ⟨-, rfl⟩ | rfl | ⟨-, rfl⟩ | ⟨-, rfl⟩ := hline
  · exact field_line_unbroken (by decide) reply.content_type_whole.1
  · exact field_line_unbroken (by decide) hlength
  · exact field_line_unbroken (by decide) (by decide)
  · exact field_line_unbroken (by decide) reply.date_whole.1

theorem head_unbroken {reply : Reply} (hwhole : reply.Whole) :
    ∀ line ∈ reply.start_line :: reply.head_lines, http.Unbroken line := by
  intro line hline
  simp only [head_lines, own_lines, own_cookies, List.mem_cons, List.mem_append,
    List.mem_map] at hline
  obtain rfl | (hline | ⟨entry, hentry, rfl⟩) | ⟨cookie, hcookie, rfl⟩ := hline
  · exact start_line_unbroken hwhole
  · exact reply.serializer_lines_unbroken line hline
  · obtain ⟨hname, hvalue⟩ := reply.headers_admitted entry hentry
    exact field_line_unbroken (latin1_eq (by decide) hname).2 (latin1_eq (by decide) hvalue).2
  · exact field_line_unbroken (by decide)
      (latin1_eq (by decide) (hwhole.cookies cookie hcookie)).2

theorem parse_status_start_line {reply : Reply} {n : Nat} (hn : reply.status = n) :
    http.parse_status reply.start_line = some n := by
  have hversion : ascii "HTTP/1.1 " = [72, 84, 84, 80, 47, 49, 46, 49, 32] := by decide
  have hnumber : ascii (toString reply.status) = http.decimal n := by
    rw [hn]
    exact ascii_toString n
  have hdigits : ∀ c ∈ http.decimal n, (c ≠ 32) := by
    rintro c hc rfl
    exact absurd (http.decimal_digits n 32 hc) (by decide)
  rw [start_line, hnumber, hversion, http.parse_status]
  generalize (if reply.writer.written.reason.isEmpty then _ else _) = reason
  have htaken : (http.decimal n ++ (ascii " " ++ reason)).takeWhile (· ≠ 32) = http.decimal n := by
    rw [List.takeWhile_append_of_pos (by simpa using hdigits)]
    exact List.append_nil _
  simp only [List.append_assoc]
  rw [if_pos (by simp)]
  exact (congrArg http.parse_decimal htaken).trans (http.parse_decimal_decimal n)

theorem parse_field_line {name : Bytes} (hname : 58 ∉ name) (value : Bytes) :
    http.parse_field (field_line name value) = ⟨http.lower (http.trim name), http.trim value⟩ := by
  have hseparator : ascii ": " = [58, 32] := by decide
  rw [field_line, hseparator, http.parse_field_eq hname]

theorem field_line_name {name : Bytes} (hname : 58 ∉ name) (value : Bytes) :
    (http.parse_field (field_line name value)).name = http.lower (http.trim name) := by
  rw [parse_field_line hname]

/-- A line with a known name is a field of its own. -/
theorem field_line_whole {name : Bytes} (hstart : name.head?.all http.blank = false)
    (hcolon : 58 ∉ name) (value : Bytes) :
    http.is_continuation (field_line name value) = false ∧
      ∃ known rest, 58 ∉ known ∧ field_line name value = known ++ 58 :: rest := by
  refine ⟨?_, name, 32 :: value, hcolon, by simp [field_line, show ascii ": " = [58, 32] by decide]⟩
  cases name with
  | nil => cases hstart
  | cons c later => simpa [http.is_continuation, field_line] using hstart

theorem serializer_lines_start (reply : Reply) :
    ∀ line ∈ reply.serializer_lines, http.is_continuation line = false := by
  intro line hline
  simp only [serializer_lines, type_lines, length_line, closing_lines, List.mem_append,
    List.mem_ite_nil_right, List.mem_singleton, or_assoc] at hline
  obtain ⟨-, rfl⟩ | rfl | ⟨-, rfl⟩ | ⟨-, rfl⟩ := hline <;>
    exact (field_line_whole (by decide) (by decide) _).1

theorem own_cookies_start (reply : Reply) :
    ∀ line ∈ reply.own_cookies, http.is_continuation line = false := by
  intro line hline
  obtain ⟨cookie, -, rfl⟩ := List.mem_map.mp hline
  exact (field_line_whole (by decide) (by decide) _).1

/-- The fields of the head, as the client reads them. -/
def fields (reply : Reply) : List http.Field := http.read_fields reply.head_lines

/-- The lines of a reply as fields: what its own headers fold goes on the serializer's
last line. -/
theorem fields_eq (reply : Reply) : ∃ closing cookies : List http.Field,
    reply.fields = reply.type_lines.map http.parse_field ++
      http.parse_field (((reply.closing_lines ++ reply.own_lines).takeWhile
        http.is_continuation).foldl http.join_lines reply.length_line) ::
      (closing ++ reply.own_fields ++ cookies) ∧
    (∀ field ∈ closing, field.name = ascii "connection" ∨ field.name = ascii "date") ∧
    ∀ field ∈ cookies, field.name = ascii "set-cookie" := by
  have hstart := reply.serializer_lines_start
  simp only [serializer_lines, List.mem_append, List.mem_singleton, or_imp, forall_and,
    forall_eq] at hstart
  obtain ⟨⟨htype, hlength⟩, -⟩ := hstart
  have hclosing : ∀ line ∈ reply.closing_lines,
      (http.is_continuation line = false ∧ ∃ known rest, 58 ∉ known ∧ line = known ++ 58 :: rest) ∧
      ((http.parse_field line).name = ascii "connection" ∨
        (http.parse_field line).name = ascii "date") := by
    intro line hline
    simp only [closing_lines, List.mem_append, List.mem_ite_nil_right, List.mem_singleton] at hline
    obtain ⟨-, rfl⟩ | ⟨-, rfl⟩ := hline
    · refine ⟨field_line_whole (by decide) (by decide) _, .inl ?_⟩
      rw [field_line_name (by decide)]
      decide
    · refine ⟨field_line_whole (by decide) (by decide) _, .inr ?_⟩
      rw [field_line_name (by decide)]
      decide
  obtain ⟨closing, hclosing_fields, hnames⟩ :=
    http.read_fields_behind (fun line hline => (hclosing line hline).1) reply.own_lines
  refine ⟨closing, reply.own_cookies.map http.parse_field, ?_, ?_, ?_⟩
  · rw [fields, head_lines, http.read_fields_append reply.own_cookies_start, serializer_lines]
    simp only [List.append_assoc, List.cons_append, List.nil_append]
    rw [http.read_fields, http.unfold_lines_whole htype hlength, http.unfold_lines_cons hlength,
      List.map_append, List.map_cons, ← http.read_fields, hclosing_fields, own_fields]
    simp
  · intro field hfield
    have hname := hnames ▸ List.mem_map_of_mem (f := http.Field.name) hfield
    obtain ⟨line, hline, hname⟩ := List.mem_map.mp hname
    rw [← hname]
    exact (hclosing line hline).2
  · intro field hfield
    obtain ⟨line, hline, rfl⟩ := List.mem_map.mp hfield
    obtain ⟨cookie, -, rfl⟩ := List.mem_map.mp hline
    rw [field_line_name (by decide)]
    decide

/-- The fields that are neither the length nor the response's own say nothing about
where the body ends. -/
theorem field_values_fields (reply : Reply) {name : Bytes}
    (hname : name = http.transfer_encoding ∨ name = http.content_length) :
    http.field_values name reply.fields =
      http.field_values name [http.parse_field (((reply.closing_lines ++
        reply.own_lines).takeWhile http.is_continuation).foldl http.join_lines
        reply.length_line)] ++ http.field_values name reply.own_fields := by
  obtain ⟨closing, cookies, hfields, hclosing, hcookies⟩ := reply.fields_eq
  have htype : http.field_values name (reply.type_lines.map http.parse_field) = [] := by
    apply http.field_values_eq_nil
    intro field hfield
    obtain ⟨line, hline, rfl⟩ := List.mem_map.mp hfield
    obtain ⟨-, hline⟩ := List.mem_ite_nil_right.mp hline
    rw [List.mem_singleton.mp hline, field_line_name (by decide)]
    obtain rfl | rfl := hname <;> decide
  have hnone : http.field_values name closing = [] := by
    apply http.field_values_eq_nil
    intro field hfield
    obtain heq | heq := hclosing field hfield <;> obtain rfl | rfl := hname <;> rw [heq] <;> decide
  have hcookie : http.field_values name cookies = [] := by
    apply http.field_values_eq_nil
    intro field hfield
    rw [hcookies field hfield]
    obtain rfl | rfl := hname <;> decide
  rw [hfields, http.field_values_append, htype, List.nil_append, ← List.singleton_append,
    http.field_values_append, http.field_values_append, http.field_values_append, hnone, hcookie,
    List.nil_append, List.append_nil]

theorem length_line_eq (reply : Reply) :
    reply.length_line = ascii "Content-Length" ++ 58 :: 32 :: http.decimal reply.body.length := by
  have hseparator : ascii ": " = [58, 32] := by decide
  rw [length_line, field_line, hseparator, ascii_toString, List.append_assoc]
  rfl

theorem transfer_encoding_fields (reply : Reply) :
    http.field_values http.transfer_encoding reply.fields =
      http.field_values http.transfer_encoding reply.own_fields := by
  obtain ⟨folded, hfolded, -⟩ := http.foldl_join_lines_field (ascii "Content-Length")
    (32 :: http.decimal reply.body.length)
    ((reply.closing_lines ++ reply.own_lines).takeWhile http.is_continuation)
  have hnone : http.field_values http.transfer_encoding
      [http.parse_field (ascii "Content-Length" ++ 58 :: folded)] = [] := by
    apply http.field_values_eq_nil
    intro field hfield
    rw [List.mem_singleton.mp hfield, http.parse_field_name (by decide)]
    decide
  rw [reply.field_values_fields (.inl rfl), length_line_eq, hfolded, hnone, List.nil_append]

/-- What goes on the length are the response's own lines, with their colons. -/
theorem folded_length (reply : Reply) :
    (reply.folds_length = false →
      (reply.closing_lines ++ reply.own_lines).takeWhile http.is_continuation = []) ∧
    (reply.folds_length = true →
      ∃ line ∈ (reply.closing_lines ++ reply.own_lines).takeWhile http.is_continuation,
        58 ∈ line) := by
  have hclosing : (reply.keep_alive && reply.has_date) = false →
      (reply.closing_lines ++ reply.own_lines).takeWhile http.is_continuation = [] := by
    intro hlines
    have hwhole : ∀ name value, name = ascii "Connection" ∨ name = ascii "Date" →
        http.is_continuation (field_line name value) = false := by
      rintro name value (rfl | rfl) <;>
        exact (field_line_whole (by decide) (by decide) _).1
    cases hkeep : reply.keep_alive with
    | false => simp [closing_lines, hkeep, hwhole]
    | true =>
      have hdate : reply.has_date = false := by simpa [hkeep] using hlines
      simp [closing_lines, hkeep, hdate, hwhole]
  cases hbetween : reply.keep_alive && reply.has_date with
  | false => simp [folds_length, hbetween, hclosing]
  | true =>
    obtain ⟨hkeep, hdate⟩ := Bool.and_eq_true_iff.mp hbetween
    have hnone : reply.closing_lines = [] := by simp [closing_lines, hkeep, hdate]
    rw [folds_length, hbetween, Bool.true_and, hnone, List.nil_append]
    cases hlines : reply.own_lines with
    | nil => simp
    | cons line later =>
      refine ⟨fun hfirst => List.takeWhile_cons_of_neg (by simpa using hfirst), fun hfirst =>
        ⟨line, ?_, ?_⟩⟩
      · rw [List.takeWhile_cons_of_pos (by simpa using hfirst)]
        exact List.mem_cons_self
      · have hline : line ∈ reply.own_lines := by simp [hlines]
        obtain ⟨entry, -, rfl⟩ := List.mem_map.mp hline
        simp [field_line, show ascii ": " = [58, 32] by decide]

theorem content_length_fields {reply : Reply} (hfolds : reply.folds_length = false) :
    http.field_values http.content_length reply.fields =
      http.decimal reply.body.length :: http.field_values http.content_length reply.own_fields := by
  have hlength : http.parse_field reply.length_line =
      ⟨http.content_length, http.decimal reply.body.length⟩ := by
    rw [length_line, parse_field_line (by decide), ascii_toString,
      http.trim_eq_self (http.decimal_not_blank _)]
    rfl
  rw [reply.field_values_fields (.inr rfl), reply.folded_length.1 hfolds, List.foldl_nil, hlength,
    http.field_values_decimal]
  rfl

/-- A length that goes on is not a number. -/
theorem content_length_folded {reply : Reply} (hfolds : reply.folds_length = true) :
    ∃ found ∈ http.field_values http.content_length reply.fields,
      http.parse_decimal found = none := by
  obtain ⟨line, hline, hcolon⟩ := reply.folded_length.2 hfolds
  obtain ⟨folded, hfolded, hmem⟩ := http.foldl_join_lines_field (ascii "Content-Length")
    (32 :: http.decimal reply.body.length)
    ((reply.closing_lines ++ reply.own_lines).takeWhile http.is_continuation)
  have hvalue := hmem 58 (by decide) (.inr ⟨line, hline, hcolon⟩)
  rw [reply.field_values_fields (.inr rfl), length_line_eq, hfolded]
  have hfield : (⟨http.content_length, http.trim folded⟩ : http.Field) ∈
      [⟨http.content_length, http.trim folded⟩] := List.mem_singleton_self _
  obtain ⟨found, hfound, hnone⟩ :=
    http.exists_not_decimal hfield (http.mem_trim (by decide) hvalue)
  refine ⟨found, List.mem_append_left _ ?_, hnone⟩
  have hfield : http.parse_field (ascii "Content-Length" ++ 58 :: folded) =
      ⟨http.content_length, http.trim folded⟩ := by
    rw [http.parse_field_colon (by decide)]
    rfl
  rwa [hfield]

/-- The length that the client makes out of a reply. -/
def length (reply : Reply) (n : Nat) : http.BodyLength :=
  http.body_length reply.is_head n reply.fields

theorem length_eq (reply : Reply) {n : Nat} (hbodied : ¬http.Bodiless reply.is_head n) :
    reply.length n = match http.field_values http.transfer_encoding reply.own_fields with
      | first :: rest =>
        if http.lower ((first :: rest).getLast (List.cons_ne_nil first rest)) = http.chunked then
          .chunked
        else .until_close
      | [] =>
        if reply.folds_length = false ∧
            ∀ length ∈ http.field_values http.content_length reply.own_fields,
              http.parse_decimal length = some reply.body.length then
          .octets reply.body.length
        else .invalid := by
  rw [length, http.body_length, if_neg hbodied, reply.transfer_encoding_fields]
  cases http.field_values http.transfer_encoding reply.own_fields with
  | cons first rest => rfl
  | nil =>
    cases hfolds : reply.folds_length with
    | false =>
      rw [content_length_fields hfolds]
      simp [http.agreed_length, http.parse_decimal_decimal, List.all_eq_true]
    | true =>
      obtain ⟨found, hfound, hnone⟩ := content_length_folded hfolds
      simp only [Bool.true_eq_false, false_and, if_false]
      exact http.agreed_length_invalid hfound hnone

theorem length_eq_empty_iff (reply : Reply) (n : Nat) :
    reply.length n = .empty ↔ http.Bodiless reply.is_head n := by
  by_cases hbodied : http.Bodiless reply.is_head n
  · simp [length, http.body_length, hbodied]
  · rw [length_eq reply hbodied]
    split <;> split <;> simp [hbodied]

theorem bodiless_iff {reply : Reply} {n : Nat} (hn : reply.status = n) :
    http.Bodiless reply.is_head n ↔
      reply.is_head = true ∨ reply.status / 100 = 1 ∨ reply.status = 204 ∨ reply.status = 304 := by
  have hhundreds : reply.status / 100 = 1 ↔ n / 100 = 1 := by
    rw [hn]
    omega
  have hno_content : reply.status = 204 ↔ n = 204 := by omega
  have hnot_modified : reply.status = 304 ↔ n = 304 := by omega
  rw [http.Bodiless, hhundreds, hno_content, hnot_modified]

/-- The client's length fits the octets that go out exactly when the reply is
delimited. -/
theorem length_fits_iff {reply : Reply} {n : Nat} (hn : reply.status = n) (last : Prop) :
    (reply.length n).Fits (sent_body reply.status reply.method reply.body).length last ↔
      reply.Delimited last := by
  have hbodiless := (length_eq_empty_iff reply n).trans (bodiless_iff hn)
  rw [Delimited, sent_body]
  by_cases hsilent : reply.is_head = true ∨ reply.status = 204 ∨ reply.status = 304
  · have hmethod : reply.method = ascii "HEAD" ∨ reply.status = 204 ∨ reply.status = 304 := by
      simpa [is_head] using hsilent
    have hempty : reply.length n = .empty := hbodiless.mpr (by tauto)
    rw [if_pos hsilent, if_pos hmethod, hempty]
    simp [http.BodyLength.Fits]
  · have hmethod : ¬(reply.method = ascii "HEAD" ∨ reply.status = 204 ∨ reply.status = 304) := by
      simpa [is_head] using hsilent
    rw [if_neg hsilent, if_neg hmethod]
    split
    · rename_i hinterim
      have hempty : reply.length n = .empty := hbodiless.mpr (.inr (.inl hinterim))
      rw [hempty, http.BodyLength.Fits, List.length_eq_zero_iff]
    · rename_i hinterim
      have hbodied : ¬http.Bodiless reply.is_head n := by
        rw [bodiless_iff hn]
        tauto
      rw [length_eq reply hbodied]
      split <;> split <;> simp_all [http.BodyLength.Fits]

/-- A reply as the client's library sees it. -/
def writing (reply : Reply) : http.Writing where
  head_request := reply.is_head
  wire := reply.wire.getD []
  body := reply.intended_body

theorem framed_iff {reply : Reply} (hwhole : reply.Whole) (rest : Bytes) :
    reply.writing.Framed rest ↔ reply.Delimited (rest = []) := by
  obtain ⟨n, hn, -⟩ := reply.status_eq
  have hbodiless := (length_eq_empty_iff reply n).trans (bodiless_iff hn)
  have hbody : reply.intended_body = if reply.length n = .empty then []
      else sent_body reply.status reply.method reply.body := by
    rw [intended_body]
    by_cases hempty : reply.length n = .empty
    · rw [if_pos hempty, if_pos (hbodiless.mp hempty)]
    · have hbodied := mt hbodiless.mpr hempty
      rw [if_neg hempty, if_neg hbodied, sent_body, if_neg]
      simp only [is_head, decide_eq_true_eq] at hbodied
      tauto
  have hwriting : reply.writing = ⟨reply.is_head,
      http.block (reply.start_line :: reply.head_lines) ++ http.crlf ++
        sent_body reply.status reply.method reply.body,
      if reply.length n = .empty then []
        else sent_body reply.status reply.method reply.body⟩ := by
    rw [writing, wire_eq hwhole, hbody]
    rfl
  rw [hwriting, ← length_fits_iff hn]
  exact http.framed_iff (head_unbroken hwhole) (parse_status_start_line hn) rfl _ rest

theorem encodes_of_wire {reply : Reply} {wire : Bytes} (hwire : reply.wire = some wire) :
    reply.Encodes := by
  rw [Reply.wire, Writer.wire_eq, Response.to_bytes] at hwire
  simp only [Option.bind_eq_bind, Option.bind_eq_some_iff] at hwire
  obtain ⟨headers, -, lines, hlines, -⟩ := hwire
  intro cookie hcookie
  obtain ⟨line, hline⟩ := exists_of_mapM hlines cookie hcookie
  obtain ⟨value, hvalue, -⟩ := Option.bind_eq_some_iff.mp hline
  intro c hc
  obtain ⟨octet, hoctet⟩ := exists_of_mapM hvalue c hc
  exact (Option.ite_none_right_eq_some.mp hoctet).1

theorem Unbroken.whole {reply : Reply} (hunbroken : reply.Unbroken) (hencodes : reply.Encodes) :
    reply.Whole := by
  refine ⟨hunbroken.reason, fun cookie hcookie c hc => ⟨hencodes cookie hcookie c hc, ?_, ?_⟩⟩
  · exact ne_of_mem_of_not_mem hc (hunbroken.cookies cookie hcookie).1
  · exact ne_of_mem_of_not_mem hc (hunbroken.cookies cookie hcookie).2

end Reply

/-- Neither fold leaves a header of the serializer among the others. -/
theorem carry_headers_stripped (headers : Headers) :
    ∀ entry ∈ (carry_headers headers).entries, lower_str entry.1 ∉ serializer_headers := by
  have hkeys : ∀ (entries : List (String × String)) (carried : Dict String String),
      (∀ name ∈ carried.entries.map Prod.fst, lower_str name ∉ serializer_headers) →
      ∀ name ∈ (entries.foldl
        (fun carried entry =>
          if lower_str entry.1 ∈ serializer_headers then carried else carried.set entry.1 entry.2)
        carried).entries.map Prod.fst, lower_str name ∉ serializer_headers := by
    intro entries
    induction entries with
    | nil => exact fun carried hcarried => hcarried
    | cons entry later ih =>
      intro carried hcarried
      rw [List.foldl_cons]
      apply ih
      split
      · exact hcarried
      · rename_i hstripped
        intro name hname
        obtain rfl | hold := mem_keys_setEntries hname
        · exact hstripped
        · exact hcarried name hold
  intro entry hentry
  exact hkeys headers.entries .empty (by simp [Dict.empty]) entry.1 (List.mem_map_of_mem hentry)

/-- What is read off the connection is one message for each response, in order and
with its body, and nothing else. -/
def ReadApart (replies : List Reply) : Prop :=
  ∃ wires, replies.mapM Reply.wire = some wires ∧
    http.read_messages (replies.map Reply.is_head) wires.flatten =
      some (List.zipWith (fun reply wire => ⟨wire, reply.intended_body⟩) replies wires)

instance (replies : List Reply) : Decidable (ReadApart replies) :=
  match hwires : replies.mapM Reply.wire with
  | none => isFalse fun ⟨_, hread, _⟩ => by simp [hwires] at hread
  | some wires => decidable_of_iff (http.read_messages (replies.map Reply.is_head) wires.flatten =
      some (List.zipWith (fun reply wire => ⟨wire, reply.intended_body⟩) replies wires))
      (by simp [ReadApart, hwires])

variable {replies : List Reply}

theorem wires_eq (hwhole : ∀ reply ∈ replies, reply.Whole) :
    replies.mapM Reply.wire = some (replies.map fun reply => reply.writing.wire) := by
  induction replies with
  | nil => rfl
  | cons reply later ih =>
    rw [List.forall_mem_cons] at hwhole
    have hwire : reply.wire = some reply.writing.wire := by
      rw [Reply.writing, Reply.wire_eq hwhole.1]
      rfl
    rw [List.mapM_cons, ih hwhole.2, hwire]
    rfl

theorem wire_ne_nil {reply : Reply} (hwhole : reply.Whole) : reply.writing.wire ≠ [] := by
  simp [Reply.writing, Reply.wire_eq hwhole, http.crlf]

/-- The responses are read apart when each is found in what is left of them. -/
theorem read_apart_iff_framed (hwhole : ∀ reply ∈ replies, reply.Whole) :
    ReadApart replies ↔ ∀ before reply after, replies = before ++ reply :: after →
      reply.writing.Framed (after.flatMap fun reply => reply.writing.wire) := by
  have hwritten : ReadApart replies ↔
      http.read_messages ((replies.map Reply.writing).map http.Writing.head_request)
        ((replies.map Reply.writing).flatMap http.Writing.wire) =
      some ((replies.map Reply.writing).map fun writing => ⟨writing.wire, writing.body⟩) := by
    have hmessages : List.zipWith (fun reply wire => http.Message.mk wire reply.intended_body)
        replies (replies.map fun reply => reply.writing.wire) =
        (replies.map Reply.writing).map fun writing => ⟨writing.wire, writing.body⟩ := by
      rw [List.zipWith_map_right, List.zipWith_self, List.map_map]
      rfl
    simp only [ReadApart, wires_eq hwhole, Option.some.injEq, exists_eq_left', hmessages,
      List.map_map, List.flatMap_map]
    rfl
  rw [hwritten, http.read_messages_iff]
  constructor
  · intro hframed before reply after hsplit
    have hreply := hframed (before.map Reply.writing) reply.writing (after.map Reply.writing)
      (by rw [hsplit, List.map_append, List.map_cons])
    rwa [List.flatMap_map] at hreply
  · intro hframed before writing after hsplit
    obtain ⟨before, rest, hreplies, rfl, hrest⟩ := List.map_eq_append_iff.mp hsplit
    obtain ⟨reply, after, rfl, rfl, rfl⟩ := List.map_eq_cons_iff.mp hrest
    rw [List.flatMap_map]
    exact hframed before reply after hreplies

theorem read_apart_iff_delimited (hwhole : ∀ reply ∈ replies, reply.Whole) :
    ReadApart replies ↔
      ∀ before reply after, replies = before ++ reply :: after → reply.Delimited (after = []) := by
  rw [read_apart_iff_framed hwhole]
  have hframed : ∀ before reply after, replies = before ++ reply :: after →
      (reply.writing.Framed (after.flatMap fun reply => reply.writing.wire) ↔
        reply.Delimited (after = [])) := by
    rintro before reply after rfl
    have hlast : (after.flatMap fun reply => reply.writing.wire) = [] ↔ after = [] := by
      cases after with
      | nil => simp
      | cons next later => simp [wire_ne_nil (hwhole next (by simp))]
    rw [Reply.framed_iff (hwhole reply (by simp)), hlast]
  exact ⟨fun hall before reply after hsplit => (hframed before reply after hsplit).mp
      (hall before reply after hsplit),
    fun hall before reply after hsplit => (hframed before reply after hsplit).mpr
      (hall before reply after hsplit)⟩

/-- What is read was written, so the cookies were encoded. -/
theorem ReadApart.encodes (hread : ReadApart replies) : ∀ reply ∈ replies, reply.Encodes := by
  obtain ⟨wires, hwires, -⟩ := hread
  intro reply hreply
  obtain ⟨wire, hwire⟩ := exists_of_mapM hwires reply hreply
  exact Reply.encodes_of_wire hwire

def hello : Reply where
  writer := .to_bytes (Response.new 200 (ascii "hello") (ascii "text/plain") (ascii "Fine"))
  date := ascii "Thu, 01 Jan 1970 00:00:00 GMT"
  keep_alive := true
  method := ascii "GET"
  status_admitted := by decide
  headers_admitted := by decide
  headers_stripped := by decide
  content_type_whole := by decide
  date_whole := by decide

theorem hello_unbroken : hello.Unbroken := ⟨by decide, by decide⟩

theorem hello_delimited (last : Prop) : hello.Delimited last := by
  rw [Reply.Delimited, if_neg (by decide), if_neg (by decide)]
  have hnone : hello.own_fields = [] := rfl
  rw [hnone]
  exact ⟨rfl, by simp [http.field_values]⟩

/-- A `103` whose body is written behind its head. -/
def early_hints : Reply where
  writer := .build_http_response 103 (ascii "text/plain") (ascii "hints")
  date := ascii "Thu, 01 Jan 1970 00:00:00 GMT"
  keep_alive := true
  method := ascii "GET"
  status_admitted := by decide
  headers_admitted := by decide
  headers_stripped := by decide
  content_type_whole := by decide
  date_whole := by decide

/-- A `200` whose view names a transfer coding that nobody applies. -/
def coded : Reply where
  writer := .to_bytes
    { Response.new 200 (ascii "hello") (ascii "text/plain") [] with
      headers := Dict.empty.set "Transfer-Encoding" "chunked" }
  date := ascii "Thu, 01 Jan 1970 00:00:00 GMT"
  keep_alive := true
  method := ascii "GET"
  status_admitted := by decide
  headers_admitted := by decide
  headers_stripped := by decide
  content_type_whole := by decide
  date_whole := by decide

/-- A `200` whose first header starts with a blank, behind its length. -/
def folding : Reply where
  writer := .to_bytes
    { Response.new 200 (ascii "hello") (ascii "text/plain") [] with
      headers := (Dict.empty.set " X" "y").set "Date" "Thu, 01 Jan 1970 00:00:00 GMT" }
  date := ascii "Thu, 01 Jan 1970 00:00:00 GMT"
  keep_alive := true
  method := ascii "GET"
  status_admitted := by decide
  headers_admitted := by decide
  headers_stripped := by decide
  content_type_whole := by decide
  date_whole := by decide

/-- A `204` whose reason phrase ends its head. -/
def broken : Reply where
  writer := .to_bytes (Response.new 204 [] (ascii "text/plain") (ascii "Done\r\n\r\n"))
  date := ascii "Thu, 01 Jan 1970 00:00:00 GMT"
  keep_alive := true
  method := ascii "GET"
  status_admitted := by decide
  headers_admitted := by decide
  headers_stripped := by decide
  content_type_whole := by decide
  date_whole := by decide

end massless.response
