import Massless.Json.Text
import Massless.Response.Lazy

open python
open json

namespace massless.response

variable {N : Type}

/-- The data of a response: `serialize_body` tells a `str` apart from every other JSON
value. -/
def payload : Json N → Payload (Json N)
  | .str text => .str text
  | data => .object data

/-- The two ways to the body. -/
inductive BodyRead where
  | content
  | serialize

/-- The response after it was read. -/
def BodyRead.after {Obj : Type} (encode : Obj → Option Bytes) (response : LazyFields Obj) :
    BodyRead → LazyFields Obj
  | .content => (JsonResponse.content encode response).2
  | .serialize => (JsonResponse.serialize encode response).2

/-- `JsonResponse(data, status)` after some reads. -/
def json_response_after (codec : Codec N) (status : Int) (reason_phrase : String) (data : Json N)
    (reads : List BodyRead) : LazyFields (Json N) :=
  reads.foldl (BodyRead.after fun value => some (codec.encode value))
    (JsonResponse.new status reason_phrase (payload data))

/-- Whatever was read before, `content` and `_serialize` give the same bytes, and these
decode to the data. -/
def BodyDecodes (codec : Codec N) (status : Int) (reason_phrase : String) (data : Json N) : Prop :=
  ∀ reads, ∃ body content_type,
    (JsonResponse.content (fun value => some (codec.encode value))
      (json_response_after codec status reason_phrase data reads)).1 = .ok body ∧
    (JsonResponse.serialize (fun value => some (codec.encode value))
      (json_response_after codec status reason_phrase data reads)).1 =
        .ok (.serialized body content_type) ∧
    codec.decode body = some data

/-- The bytes that `serialize_body` makes. -/
def body_of (codec : Codec N) : Json N → Bytes
  | .str text => encode_utf8 text
  | data => codec.encode data

theorem serialize_body_payload (codec : Codec N) (data : Json N) :
    ∃ content_type, serialize_body (fun value => some (codec.encode value)) (payload data) =
      some (body_of codec data, content_type) := by
  cases data <;> exact ⟨_, rfl⟩

section
variable {codec : Codec N} {status : Int} {reason_phrase : String} {data : Json N}

/-- The eager response with the same bytes. -/
def eager_response (codec : Codec N) (status : Int) (reason_phrase : String) (data : Json N) :
    Fields :=
  DjangoHttpResponse.new ascii_codecs status reason_phrase (body_of codec data)

theorem content_eager : DjangoHttpResponse.content (eager_response codec status reason_phrase data) =
    (.ok (body_of codec data), eager_response codec status reason_phrase data) := by
  have hcontent : DjangoHttpResponse.content (eager_response codec status reason_phrase data) =
      (.ok [body_of codec data].flatten, eager_response codec status reason_phrase data) :=
    content_run rfl
  rwa [List.flatten_singleton] at hcontent

theorem serialize_eager :
    DjangoHttpResponse.use ascii_codecs .serialize (eager_response codec status reason_phrase data) =
      (.ok (.serialized (body_of codec data) (ascii "application/json")),
        eager_response codec status reason_phrase data) := by
  have htype : content_type_bytes ((eager_response codec status reason_phrase data).to_http
      (body_of codec data)) = some (ascii "application/json") := by
    have hencode : encode_latin1 "application/json" = some (ascii "application/json") := by decide
    exact hencode
  rw [DjangoHttpResponse.use, Py.bind_run, content_eager]
  simp only [DjangoHttpResponse.serialized, htype]

variable {encode : Json N → Option Bytes}

/-- Reading leaves the eager response as it is, so the lazy one goes on mirroring it. -/
theorem mirrors_read {response : LazyFields (Json N)}
    (hmirrors : Mirrors encode (body_of codec data) response
      (eager_response codec status reason_phrase data)) (read : BodyRead) :
    Mirrors encode (body_of codec data) (read.after encode response)
      (eager_response codec status reason_phrase data) := by
  cases read with
  | content =>
    have hafter := (content_simulates response _ hmirrors).2
    rwa [content_eager] at hafter
  | serialize =>
    have hsimulates : Py.Simulates (Mirrors encode (body_of codec data))
        (JsonResponse.serialize encode) (DjangoHttpResponse.use ascii_codecs .serialize) :=
      serialize_simulates
    have hafter := (hsimulates response _ hmirrors).2
    rwa [serialize_eager] at hafter

theorem mirrors_reads {response : LazyFields (Json N)}
    (hmirrors : Mirrors encode (body_of codec data) response
      (eager_response codec status reason_phrase data)) (reads : List BodyRead) :
    Mirrors encode (body_of codec data) (reads.foldl (BodyRead.after encode) response)
      (eager_response codec status reason_phrase data) := by
  induction reads generalizing response with
  | nil => exact hmirrors
  | cons read rest ih => exact ih (mirrors_read hmirrors read)

end

/-- After any reads both routes give the one body. -/
theorem bodies_of_reads (codec : Codec N) (status : Int) (reason_phrase : String) (data : Json N)
    (reads : List BodyRead) :
    (JsonResponse.content (fun value => some (codec.encode value))
      (json_response_after codec status reason_phrase data reads)).1 = .ok (body_of codec data) ∧
    (JsonResponse.serialize (fun value => some (codec.encode value))
      (json_response_after codec status reason_phrase data reads)).1 =
        .ok (.serialized (body_of codec data) (ascii "application/json")) := by
  have hnew : Mirrors (fun value => some (codec.encode value)) (body_of codec data)
      (JsonResponse.new status reason_phrase (payload data))
      (eager_response codec status reason_phrase data) :=
    ⟨serialize_body_payload codec data, rfl, rfl, rfl, fun _ => rfl⟩
  have hafter := mirrors_reads hnew reads
  have hserialize : Py.Simulates
      (Mirrors (fun value => some (codec.encode value)) (body_of codec data))
      (JsonResponse.serialize fun value => some (codec.encode value))
      (DjangoHttpResponse.use ascii_codecs .serialize) := serialize_simulates
  have hcontent := (content_simulates _ _ hafter).1
  have hserialized := (hserialize _ _ hafter).1
  rw [content_eager] at hcontent
  rw [serialize_eager] at hserialized
  exact ⟨hcontent, hserialized⟩

/-- The bytes of a text are no source of that text. -/
theorem raw_text_not_source {codec : Codec N} (hquoted : codec.StringsQuoted) (text : String) :
    codec.decode (encode_utf8 text) ≠ some (.str text) := by
  intro hdecode
  obtain ⟨source, hbytes, hsource⟩ := hquoted _ _ hdecode
  have hsame : source = text.toList := by
    have htext := (decode_utf8_iff (encode_utf8 text) text).mpr rfl
    rw [hbytes] at htext
    have hchars := decode_encode_chars source
    rw [encode_chars, htext, Option.some.injEq] at hchars
    rw [hchars, String.toList_ofList]
  have hlonger := hsource.longer
  rw [hsame] at hlonger
  exact absurd hlonger (Nat.lt_irrefl _)

/-- The body of a `JsonResponse` decodes to its data exactly when the data are not a
string: that one goes out as it is, without its quotation marks. -/
theorem body_decodes_iff (codec : Codec N) (hquoted : codec.StringsQuoted) (status : Int)
    (reason_phrase : String) (data : Json N)
    (hround : codec.decode (codec.encode data) = some data) :
    BodyDecodes codec status reason_phrase data ↔ ∀ text, data ≠ .str text := by
  constructor
  · rintro hdecodes text rfl
    obtain ⟨body, content_type, hcontent, -, hbody⟩ := hdecodes []
    have hraw := (bodies_of_reads codec status reason_phrase (.str text) []).1
    rw [hcontent] at hraw
    cases hraw
    exact raw_text_not_source hquoted text hbody
  · intro hdata reads
    obtain ⟨hcontent, hserialized⟩ := bodies_of_reads codec status reason_phrase data reads
    refine ⟨_, _, hcontent, hserialized, ?_⟩
    cases data with
    | str text => exact absurd rfl (hdata text)
    | _ => exact hround

/-- `JsonResponse({"detail": "no", "items": [1, null]})` -/
theorem body_decodes_nested :
    BodyDecodes text_codec 200 "OK"
      (.obj [("detail", .str "no"), ("items", .arr [.number 1, .null])]) :=
  (body_decodes_iff text_codec text_codec_strings_quoted 200 "OK" _
    (text_codec_round_trip _)).mpr fun text heq => by cases heq

/-- `JsonResponse("hi")` sends `hi`, which is not JSON. -/
theorem string_body_lost : ¬BodyDecodes text_codec 200 "OK" (.str "hi") := by
  intro hdecodes
  obtain ⟨body, content_type, hcontent, -, hbody⟩ := hdecodes []
  have hraw := (bodies_of_reads text_codec 200 "OK" (.str "hi") []).1
  rw [hcontent] at hraw
  cases hraw
  have hnone : text_codec.decode (encode_utf8 "hi") = none := by decide +kernel
  rw [body_of, hnone] at hbody
  cases hbody

end massless.response
