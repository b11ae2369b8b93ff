import Massless.Python.Simulation
import Massless.Response.Fold

open python

namespace massless.response

/-- The data of a `JsonResponse`, as `serialize_body` tells it apart. -/
inductive Payload (Obj : Type) where
  | bytes (data : Bytes)
  | str (text : String)
  | object (object : Obj)

/-- `serialize_body`, with `msgspec.json.encode` as a parameter: `none` is its
exception. -/
def serialize_body {Obj : Type} (encode : Obj → Option Bytes) :
    Payload Obj → Option (Bytes × Bytes)
  | .bytes data => some (data, ascii "application/octet-stream")
  | .str text => some (encode_utf8 text, ascii "text/plain; charset=utf-8")
  | .object object => (encode object).map fun body => (body, ascii "application/json")

/-- A value for `make_bytes`: bytes, or the text of a `str` or of `str(value)`. -/
inductive Chunk where
  | bytes (data : Bytes)
  | text (value : String)

/-- A value assigned to `content`: one chunk, or an iterable of chunks. -/
inductive Content where
  | chunk (chunk : Chunk)
  | chunks (chunks : List Chunk)

/-- What the response classes call in Django: `text.encode(self.charset)`, where the
charset follows from the content type, and the check and conversion of a header name
and value. Their errors are exception classes other than `AttributeError`. -/
structure Codecs where
  encode : (content_type : Option String) → String → Except String Bytes
  convert : String → String → Except String (String × String)

/-- The entries of a header block after `headers[name] = value`: a name that is there
in some case keeps its place. -/
def set_header_entries (name value : String) (entries : List (String × String)) :
    List (String × String) :=
  (setEntries (lower_str name) (name, value)
    (entries.map fun entry => (lower_str entry.1, entry))).map Prod.snd

theorem lower_of_mem_setEntries {name value : String} {entries : List (String × (String × String))}
    (hlower : ∀ entry ∈ entries, entry.1 = lower_str entry.2.1) :
    ∀ entry ∈ setEntries (lower_str name) (name, value) entries,
      entry.1 = lower_str entry.2.1 := by
  induction entries with
  | nil => simp [setEntries]
  | cons entry rest ih =>
    rw [List.forall_mem_cons] at hlower
    unfold setEntries
    split
    · rename_i hkey
      exact List.forall_mem_cons.mpr ⟨hkey, hlower.2⟩
    · exact List.forall_mem_cons.mpr ⟨hlower.1, ih hlower.2⟩

theorem nodup_set_header_entries (name value : String) {entries : List (String × String)}
    (hnodup : (entries.map fun entry => lower_str entry.1).Nodup) :
    ((set_header_entries name value entries).map fun entry => lower_str entry.1).Nodup := by
  have hkeys : (set_header_entries name value entries).map (fun entry => lower_str entry.1) =
      (setEntries (lower_str name) (name, value)
        (entries.map fun entry => (lower_str entry.1, entry))).map Prod.fst := by
    rw [set_header_entries, List.map_map]
    apply List.map_congr_left
    intro entry hentry
    refine (lower_of_mem_setEntries (fun stored hstored => ?_) entry hentry).symm
    obtain ⟨header, -, rfl⟩ := List.mem_map.mp hstored
    rfl
  rw [hkeys]
  apply nodup_keys_setEntries
  rwa [List.map_map]

/-- `headers[name] = value` -/
def Headers.set (self : Headers) (name value : String) : Headers :=
  ⟨set_header_entries name value self.entries, nodup_set_header_entries name value self.nodup⟩

/-- `del headers[name]` -/
def Headers.erase (self : Headers) (name : String) : Headers :=
  ⟨self.entries.filter fun entry => lower_str entry.1 ≠ lower_str name,
    self.nodup.sublist (List.filter_sublist.map _)⟩

/-- The attributes of a response. `_container` is there from the first assignment
of a body on. -/
structure Fields where
  status_code : Int
  reason_phrase : String
  headers : Headers
  cookies : Dict String String
  container : Option (List Bytes)

/-- The attributes that the serializer reads, with the body given. -/
def Fields.to_http (self : Fields) (content : Bytes) : HttpResponse :=
  { status_code := self.status_code, reason_phrase := self.reason_phrase
    headers := self.headers, cookies := self.cookies.entries.map Prod.snd, content }

/-- `HttpResponseBase.__init__(content_type="application/json", status=status)` -/
def Fields.new (status : Int) (reason_phrase : String) : Fields :=
  { status_code := status, reason_phrase
    headers := ⟨[("Content-Type", "application/json")], List.nodup_singleton _⟩
    cookies := .empty, container := none }

/-- One use of a response that no subclass changes. -/
inductive Inherited where
  | write (chunk : Chunk)
  | iterate
  | get_header (name : String)
  | set_header (name value : String)
  | del_header (name : String)
  | set_cookie (key output : String)

/-- One use of a response. -/
inductive Use where
  | get_content
  | set_content (value : Content)
  | tell
  | getvalue
  | serialize
  | inherited (use : Inherited)

/-- What a use returns. -/
inductive Result where
  | none
  | bytes (data : Bytes)
  | chunks (data : List Bytes)
  | size (count : Nat)
  | header (value : Option String)
  | serialized (body content_type : Bytes)
  deriving DecidableEq

namespace DjangoHttpResponse

variable (codecs : Codecs)

/-- `make_bytes`, given the headers that the charset follows from. -/
def make_bytes (headers : Headers) : Chunk → Except Exc Bytes
  | .bytes data => .ok data
  | .text value => (codecs.encode (headers.get? "Content-Type") value).mapError .other

/-- The bytes of a body: an iterable is joined. -/
def body_bytes (headers : Headers) : Content → Except Exc Bytes
  | .chunk chunk => make_bytes codecs headers chunk
  | .chunks chunks => do
    let parts ← chunks.mapM (make_bytes codecs headers)
    .ok parts.flatten

/-- `self._container` -/
def container : Py Fields (List Bytes) := fun self =>
  match self.container with
  | some chunks => (.ok chunks, self)
  | none => (.error (.AttributeError "_container"), self)

def set_container (chunks : List Bytes) : Py Fields Unit :=
  Py.modify fun self => { self with container := some chunks }

/-- The getter of `content`. -/
def content : Py Fields Bytes := do
  let chunks ← container
  pure chunks.flatten

/-- The setter of `content`. -/
def set_content (value : Content) : Py Fields Unit := do
  let headers ← Py.gets Fields.headers
  let body ← Py.lift (body_bytes codecs headers value)
  set_container [body]

/-- `write` -/
def write (chunk : Chunk) : Py Fields Unit := do
  let chunks ← container
  let headers ← Py.gets Fields.headers
  let data ← Py.lift (make_bytes codecs headers chunk)
  set_container (chunks ++ [data])

/-- `self.headers[name] = value` -/
def set_header (name value : String) : Py Fields Unit := do
  let converted ← Py.lift ((codecs.convert name value).mapError .other)
  Py.modify fun self => { self with headers := self.headers.set converted.1 converted.2 }

def inherited : Inherited → Py Fields Result
  | .write chunk => do
    write codecs chunk
    pure .none
  | .iterate => do
    let chunks ← container
    pure (.chunks chunks)
  | .get_header name => Py.gets fun self => .header (self.headers.get? name)
  | .set_header name value => do
    set_header codecs name value
    pure .none
  | .del_header name => do
    Py.modify fun self => { self with headers := self.headers.erase name }
    pure .none
  | .set_cookie key output => do
    Py.modify fun self => { self with cookies := self.cookies.set key output }
    pure .none

/-- The body and the content type as they are now. -/
def serialized (body : Bytes) : Py Fields Result := fun self =>
  match content_type_bytes (self.to_http body) with
  | some ctype => (.ok (.serialized body ctype), self)
  | none => (.error (.other "UnicodeEncodeError"), self)

/-- A use of `django.http.HttpResponse`. -/
def use : Use → Py Fields Result
  | .get_content => do
    let data ← content
    pure (.bytes data)
  | .set_content value => do
    set_content codecs value
    pure .none
  | .tell => do
    let data ← content
    pure (.size data.length)
  | .getvalue => do
    let data ← content
    pure (.bytes data)
  | .serialize => do
    let data ← content
    serialized data
  | .inherited use => inherited codecs use

/-- `HttpResponse(body, content_type="application/json", status=status)` -/
def new (status : Int) (reason_phrase : String) (body : Bytes) : Fields :=
  (set_content codecs (.chunk (.bytes body)) (Fields.new status reason_phrase)).2

end DjangoHttpResponse

/-- The attributes of a `JsonResponse`. -/
structure LazyFields (Obj : Type) extends Fields where
  data : Payload Obj
  materialized : Bool

variable {Obj A : Type}

/-- A method of `HttpResponse` on a `JsonResponse`. -/
def inherit (method : Py Fields A) : Py (LazyFields Obj) A := fun self =>
  ((method self.toFields).1, { self with toFields := (method self.toFields).2 })

namespace JsonResponse

variable (codecs : Codecs) (encode : Obj → Option Bytes)

/-- `serialize_body(self.data)`, for the body. -/
def encoded : Py (LazyFields Obj) Bytes := fun self =>
  match serialize_body encode self.data with
  | some (body, _) => (.ok body, self)
  | none => (.error (.other "EncodeError"), self)

def set_materialized : Py (LazyFields Obj) Unit :=
  Py.modify fun self => { self with materialized := true }

/-- The getter of `content`, which encodes the data once. -/
def content : Py (LazyFields Obj) Bytes := do
  if !(← Py.gets LazyFields.materialized) then
    let body ← encoded encode
    inherit (DjangoHttpResponse.set_container [body])
    set_materialized
  inherit DjangoHttpResponse.content

/-- The setter of `content`. -/
def set_content (value : Content) : Py (LazyFields Obj) Unit := do
  inherit (DjangoHttpResponse.set_content codecs value)
  set_materialized

/-- `_serialize`, which leaves the data as they are. -/
def serialize : Py (LazyFields Obj) Result := do
  let body ← if !(← Py.gets LazyFields.materialized) then encoded encode else content encode
  inherit (DjangoHttpResponse.serialized body)

/-- A use of `massless.JsonResponse`. -/
def use : Use → Py (LazyFields Obj) Result
  | .get_content => do
    let data ← content encode
    pure (.bytes data)
  | .set_content value => do
    set_content codecs value
    pure .none
  | .tell => do
    let data ← content encode
    pure (.size data.length)
  | .getvalue => do
    let data ← content encode
    pure (.bytes data)
  | .serialize => serialize encode
  | .inherited use => inherit (DjangoHttpResponse.inherited codecs use)

/-- `JsonResponse(data, status)` -/
def new (status : Int) (reason_phrase : String) (data : Payload Obj) : LazyFields Obj :=
  { Fields.new status reason_phrase with data, materialized := false }

end JsonResponse

/-- The eager response that a `JsonResponse` stands for: its data encode to `body`,
and its own container is there from the first read on. -/
structure Mirrors (encode : Obj → Option Bytes) (body : Bytes) (response : LazyFields Obj)
    (stock : Fields) : Prop where
  data : ∃ ctype, serialize_body encode response.data = some (body, ctype)
  fields : stock = { response.toFields with container := stock.container }
  container : stock.container = if response.materialized then response.container else some [body]
  present : stock.container.isSome
  hidden : response.materialized = false → response.container = none

/-- A use that a `JsonResponse` supports: a write or an iteration finds the body
encoded. -/
def Ready (use : Use) (response : LazyFields Obj) (_ : Fields) : Prop :=
  response.materialized = false → (∀ chunk, use ≠ .inherited (.write chunk)) ∧
    use ≠ .inherited .iterate

variable {codecs : Codecs} {encode : Obj → Option Bytes} {body : Bytes}
  {response : LazyFields Obj} {stock : Fields}

theorem Mirrors.stock_eq (hmirrors : Mirrors encode body response stock)
    (hmaterialized : response.materialized = true) : stock = response.toFields := by
  have hcontainer := hmirrors.container
  rw [if_pos hmaterialized] at hcontainer
  rw [hmirrors.fields, hcontainer]

theorem Mirrors.container_eq (hmirrors : Mirrors encode body response stock)
    (hmaterialized : response.materialized = false) : stock.container = some [body] := by
  rw [hmirrors.container, hmaterialized]
  rfl

/-- A response with its body encoded is an eager one. -/
theorem Mirrors.of_fields (data : Payload Obj)
    (hdata : ∃ ctype, serialize_body encode data = some (body, ctype)) (fields : Fields)
    (hpresent : fields.container.isSome) :
    Mirrors encode body { fields with data, materialized := true } fields :=
  ⟨hdata, rfl, rfl, hpresent, fun hfalse => by cases hfalse⟩

theorem content_run {fields : Fields} {chunks : List Bytes}
    (hchunks : fields.container = some chunks) :
    DjangoHttpResponse.content fields = (.ok chunks.flatten, fields) := by
  simp [DjangoHttpResponse.content, DjangoHttpResponse.container, hchunks]

/-- Reading the content encodes the data unless that was done. -/
theorem content_simulates :
    Py.Simulates (Mirrors encode body) (JsonResponse.content encode)
      DjangoHttpResponse.content := by
  intro response stock hmirrors
  obtain ⟨chunks, hchunks⟩ := Option.isSome_iff_exists.mp hmirrors.present
  cases hmaterialized : response.materialized with
  | true =>
    have hstock := hmirrors.stock_eq hmaterialized
    subst hstock
    have hrun : JsonResponse.content encode response = (.ok chunks.flatten, response) := by
      simp only [JsonResponse.content, Py.bind_run, Py.gets_run, hmaterialized, Bool.not_true,
        Bool.false_eq_true, if_false, inherit, content_run hchunks]
      rw [← hmaterialized]
    rw [hrun, content_run hchunks]
    exact ⟨rfl, hmirrors⟩
  | false =>
    obtain ⟨ctype, hdata⟩ := hmirrors.data
    have hbody := hmirrors.container_eq hmaterialized
    have hstock := hmirrors.fields
    rw [hbody] at hstock
    have hrun : JsonResponse.content encode response =
        (.ok body, { stock with data := response.data, materialized := true }) := by
      simp [JsonResponse.content, JsonResponse.encoded, JsonResponse.set_materialized,
        DjangoHttpResponse.set_container, content_run, hmaterialized, inherit, hdata, hstock]
    rw [hrun, content_run hbody]
    exact ⟨by simp, Mirrors.of_fields response.data ⟨ctype, hdata⟩ stock hmirrors.present⟩

/-- Assigning a body makes the response an eager one. -/
theorem set_content_simulates (value : Content) :
    Py.Simulates (Mirrors encode body) (JsonResponse.set_content codecs value)
      (DjangoHttpResponse.set_content codecs value) := by
  intro response stock hmirrors
  obtain ⟨container, rfl⟩ : ∃ container, stock = { response.toFields with container } :=
    ⟨_, hmirrors.fields⟩
  cases hbytes : DjangoHttpResponse.body_bytes codecs response.headers value with
  | error e =>
    simp [JsonResponse.set_content, DjangoHttpResponse.set_content, inherit, hbytes, hmirrors]
  | ok data =>
    have hafter := Mirrors.of_fields response.data hmirrors.data
      { response.toFields with container := some [data] } rfl
    simpa [JsonResponse.set_content, DjangoHttpResponse.set_content, inherit, hbytes,
      JsonResponse.set_materialized, DjangoHttpResponse.set_container] using hafter

/-- A method that neither reads nor replaces the container. -/
def Apart (method : Py Fields A) : Prop :=
  ∀ (fields : Fields) (container : Option (List Bytes)),
    method { fields with container } =
      ((method fields).1, { (method fields).2 with container })

theorem Apart.simulates {method : Py Fields A} (hapart : Apart method) :
    Py.Simulates (Mirrors encode body) (inherit method) method := by
  intro response stock hmirrors
  have hkept : (method response.toFields).2.container = response.container := by
    rw [hapart response.toFields response.container]
  have hstock : method stock = ((method response.toFields).1,
      { (method response.toFields).2 with container := stock.container }) := by
    conv_lhs => rw [hmirrors.fields]
    exact hapart _ _
  rw [hstock]
  exact ⟨rfl, hmirrors.data, rfl, by simpa [inherit, hkept] using hmirrors.container,
    hmirrors.present, fun hhidden => hkept.trans (hmirrors.hidden hhidden)⟩

theorem apart_serialized (data : Bytes) : Apart (DjangoHttpResponse.serialized data) := by
  intro fields container
  simp only [DjangoHttpResponse.serialized, content_type_bytes, Fields.to_http]
  split <;> rfl

theorem serialize_simulates :
    Py.Simulates (Mirrors encode body) (JsonResponse.serialize encode)
      (DjangoHttpResponse.use codecs .serialize) := by
  intro response stock hmirrors
  cases hmaterialized : response.materialized with
  | true =>
    have hrun : JsonResponse.serialize encode response = (do
        let data ← JsonResponse.content encode
        inherit (DjangoHttpResponse.serialized data)) response := by
      simp [JsonResponse.serialize, hmaterialized]
    rw [hrun]
    exact content_simulates.bind (fun data => (apart_serialized data).simulates) response stock
      hmirrors
  | false =>
    -- the data are encoded, but the response stays as it is
    obtain ⟨ctype, hdata⟩ := hmirrors.data
    have hbody := hmirrors.container_eq hmaterialized
    have hrun : JsonResponse.serialize encode response =
        inherit (DjangoHttpResponse.serialized body) response := by
      simp [JsonResponse.serialize, JsonResponse.encoded, hmaterialized, hdata]
    have hstock : DjangoHttpResponse.use codecs .serialize stock =
        DjangoHttpResponse.serialized body stock := by
      simp [DjangoHttpResponse.use, DjangoHttpResponse.content, DjangoHttpResponse.container, hbody]
    rw [hrun, hstock]
    exact (apart_serialized body).simulates response stock hmirrors

/-- The uses that touch the headers and the cookies only. -/
theorem apart_inherited {use : Inherited} (hwrite : ∀ chunk, use ≠ .write chunk)
    (hiterate : use ≠ .iterate) : Apart (DjangoHttpResponse.inherited codecs use) := by
  intro fields container
  cases use with
  | write chunk => exact absurd rfl (hwrite chunk)
  | iterate => exact absurd rfl hiterate
  | get_header name => rfl
  | set_header name value =>
    simp only [DjangoHttpResponse.inherited, DjangoHttpResponse.set_header, Py.bind_run, Py.lift_run]
    cases codecs.convert name value <;> rfl
  | del_header name => rfl
  | set_cookie key output => rfl

/-- No inherited use takes the container away. -/
theorem present_inherited (use : Inherited) {fields : Fields} (hpresent : fields.container.isSome) :
    (DjangoHttpResponse.inherited codecs use fields).2.container.isSome := by
  obtain ⟨chunks, hchunks⟩ := Option.isSome_iff_exists.mp hpresent
  cases use with
  | write chunk =>
    cases hbytes : DjangoHttpResponse.make_bytes codecs fields.headers chunk <;>
      simp [DjangoHttpResponse.inherited, DjangoHttpResponse.write, DjangoHttpResponse.container,
        DjangoHttpResponse.set_container, hchunks, hbytes]
  | iterate => simp [DjangoHttpResponse.inherited, DjangoHttpResponse.container, hchunks]
  | set_header name value =>
    cases hconverted : codecs.convert name value <;>
      simp [DjangoHttpResponse.inherited, DjangoHttpResponse.set_header, hconverted, hchunks,
        Except.mapError]
  | _ => exact hpresent

/-- A use that the response is ready for ends as on the eager one. -/
theorem use_kept (use : Use) (response : LazyFields Obj) (stock : Fields)
    (hmirrors : Mirrors encode body response stock) (hready : Ready use response stock) :
    (JsonResponse.use codecs encode use response).1 =
        (DjangoHttpResponse.use codecs use stock).1 ∧
      Mirrors encode body (JsonResponse.use codecs encode use response).2
        (DjangoHttpResponse.use codecs use stock).2 := by
  cases use with
  | get_content =>
    exact content_simulates.bind (fun _ => Py.Simulates.pure _) response stock hmirrors
  | set_content value =>
    exact (set_content_simulates value).bind (fun _ => Py.Simulates.pure _) response stock hmirrors
  | tell => exact content_simulates.bind (fun _ => Py.Simulates.pure _) response stock hmirrors
  | getvalue => exact content_simulates.bind (fun _ => Py.Simulates.pure _) response stock hmirrors
  | serialize => exact serialize_simulates response stock hmirrors
  | inherited use =>
    cases hmaterialized : response.materialized with
    | true =>
      have hstock := hmirrors.stock_eq hmaterialized
      subst hstock
      have hafter := Mirrors.of_fields response.data hmirrors.data
        (DjangoHttpResponse.inherited codecs use response.toFields).2
        (present_inherited use hmirrors.present)
      rw [← hmaterialized] at hafter
      exact ⟨rfl, hafter⟩
    | false =>
      obtain ⟨hwrite, hiterate⟩ := hready hmaterialized
      have hapart : Apart (DjangoHttpResponse.inherited codecs use) :=
        apart_inherited (fun chunk heq => hwrite chunk (heq ▸ rfl)) fun heq => hiterate (heq ▸ rfl)
      exact hapart.simulates response stock hmirrors

/-- Encoding a text fails with another class of exception than a missing attribute. -/
theorem make_bytes_error {headers : Headers} {chunk : Chunk} {e : Exc}
    (hbytes : DjangoHttpResponse.make_bytes codecs headers chunk = .error e) :
    ∃ kind, e = .other kind := by
  cases chunk with
  | bytes data => cases hbytes
  | text value =>
    rw [DjangoHttpResponse.make_bytes] at hbytes
    cases hencoded : codecs.encode (headers.get? "Content-Type") value with
    | ok data => simp [hencoded, Except.mapError] at hbytes
    | error kind =>
      simp only [hencoded, Except.mapError, Except.error.injEq] at hbytes
      exact ⟨kind, hbytes.symm⟩

/-- A write or an iteration that comes too early misses the container. -/
theorem use_differs (use : Use) (response : LazyFields Obj) (stock : Fields)
    (hmirrors : Mirrors encode body response stock) (hearly : ¬Ready use response stock) :
    (JsonResponse.use codecs encode use response).1 ≠
      (DjangoHttpResponse.use codecs use stock).1 := by
  simp only [Ready, Classical.not_imp, not_and_or, not_forall, not_not] at hearly
  obtain ⟨hmaterialized, huse⟩ := hearly
  have habsent := hmirrors.hidden hmaterialized
  have hbody := hmirrors.container_eq hmaterialized
  obtain ⟨chunk, rfl⟩ | rfl := huse
  · cases hbytes : DjangoHttpResponse.make_bytes codecs stock.headers chunk with
    | error e =>
      obtain ⟨kind, rfl⟩ := make_bytes_error hbytes
      simp [JsonResponse.use, DjangoHttpResponse.use, DjangoHttpResponse.inherited, inherit,
        DjangoHttpResponse.write, DjangoHttpResponse.container, habsent, hbody, hbytes]
    | ok data =>
      simp [JsonResponse.use, DjangoHttpResponse.use, DjangoHttpResponse.inherited, inherit,
        DjangoHttpResponse.write, DjangoHttpResponse.container, habsent, hbody, hbytes,
        DjangoHttpResponse.set_container]
  · simp [JsonResponse.use, DjangoHttpResponse.use, DjangoHttpResponse.inherited, inherit,
      DjangoHttpResponse.container, habsent, hbody]

/-- On any sequence of uses a `JsonResponse` behaves as the eager response with the
encoded data exactly when each write and each iteration comes after the body has
been read or replaced. -/
theorem lazy_agrees_iff (codecs : Codecs) (encode : Obj → Option Bytes) (status : Int)
    (reason_phrase : String) (data : Payload Obj) {body ctype : Bytes}
    (hdata : serialize_body encode data = some (body, ctype)) (uses : List Use) :
    Py.Agrees (JsonResponse.use codecs encode) (DjangoHttpResponse.use codecs) uses
        (JsonResponse.new status reason_phrase data)
        (DjangoHttpResponse.new codecs status reason_phrase body) ↔
      Py.Throughout (JsonResponse.use codecs encode) (DjangoHttpResponse.use codecs) Ready uses
        (JsonResponse.new status reason_phrase data)
        (DjangoHttpResponse.new codecs status reason_phrase body) :=
  Py.agrees_iff_throughout use_kept use_differs uses
    ⟨⟨ctype, hdata⟩, rfl, rfl, rfl, fun _ => rfl⟩

/-- ASCII texts under every charset, and headers as they come. -/
def ascii_codecs : Codecs where
  encode _ text := .ok (ascii text)
  convert name value := .ok (name, value)

/-- Reading the content first makes room for a write. -/
theorem lazy_agrees_iff_written :
    Py.Agrees (JsonResponse.use ascii_codecs fun _ : Unit => some (ascii "{}"))
      (DjangoHttpResponse.use ascii_codecs)
      [.get_content, .inherited (.write (.text "!")), .inherited .iterate]
      (JsonResponse.new 200 "OK" (.object ()))
      (DjangoHttpResponse.new ascii_codecs 200 "OK" (ascii "{}")) :=
  (lazy_agrees_iff ascii_codecs _ 200 "OK" (.object ()) rfl _).mpr
    (And.intro (fun _ => by simp)
      (And.intro (fun hearly => by cases hearly) (And.intro (fun hearly => by cases hearly) trivial)))

/-- A `JsonResponse` cannot be written to at once: `_container` is not there. -/
theorem write_misses_container :
    ¬Py.Agrees (JsonResponse.use ascii_codecs fun _ : Unit => some (ascii "{}"))
      (DjangoHttpResponse.use ascii_codecs) [.inherited (.write (.text "!"))]
      (JsonResponse.new 200 "OK" (.object ()))
      (DjangoHttpResponse.new ascii_codecs 200 "OK" (ascii "{}")) := by
  rintro ⟨hsame, -⟩
  cases hsame

end massless.response
