import Massless.Middleware.Hooks
import Massless.Middleware.Layers

open python
open massless.chain

namespace massless.middleware

open massless.response (FieldText)

variable {W Req : Type} {http : Http W Req}

/-- The bytes of a body. -/
def Body.bytes : Body → Bytes
  | .content data => data
  | .streaming_content _ chunks => chunks.flatten

/-- The headers that a hook may write over. -/
def rewritten : List String := ["vary", "etag", "content-length", "content-encoding"]

/-- What the documentation says of the helpers: a header keeps a text of latin-1 characters on one
line as it is, two helpers set no header but their own, and `get_conditional_response` returns the
response that it is given or answers with `304` or `412` in its place. -/
structure Http.Documented (http : Http W Req) : Prop where
  header_value : ∀ value, FieldText 256 value → http.header_value value = some value
  set_response_etag : ∀ response, http.set_response_etag response = response ∨
    ∃ tag, http.set_response_etag response = response.set "ETag" tag
  patch_vary_headers : ∀ response newheaders,
    ∃ vary, http.patch_vary_headers response newheaders = response.set "Vary" vary
  get_conditional_response : ∀ request etag last_modified response,
    http.get_conditional_response request etag last_modified response = response ∨
      (http.get_conditional_response request etag last_modified response).status_code ∈ [304, 412]

namespace HttpResponse

/-- What a client makes of the body: it undoes the coding that the headers name. -/
def decoded (decode : String → Bytes → Option Bytes) (self : HttpResponse) : Option Bytes :=
  match self.get "Content-Encoding" with
  | some coding => decode coding self.body.bytes
  | none => some self.body.bytes

/-- A `Content-Length` is that of the body. -/
def Measured (self : HttpResponse) : Prop :=
  ∀ value, self.get "Content-Length" = some value → value = toString self.body.bytes.length

/-- What the hooks for responses may make of a response without answering in its place. -/
structure Passed (decode : String → Bytes → Option Bytes) (origin sent : HttpResponse) : Prop where
  status_code : sent.status_code = origin.status_code
  reason_phrase : sent.reason_phrase = origin.reason_phrase
  cookies : sent.cookies = origin.cookies
  streaming : sent.streaming = origin.streaming
  /-- A client reads the same body. -/
  decoded : sent.decoded decode = origin.decoded decode
  measured : origin.Measured → sent.Measured
  /-- What is set stays. -/
  headers : ∀ name value, lower_str name ∉ rewritten → origin.get name = some value →
    sent.get name = some value
  etag : ∀ tag, FieldText 256 tag → origin.get "ETag" = some tag → sent.get "ETag" = some tag ∨
    (tag.toList.head? = some '"' ∧ sent.get "ETag" = some ("W/" ++ tag))
  /-- A body that has a coding is let alone. -/
  coded : ∀ coding, origin.get "Content-Encoding" = some coding →
    sent.get "Content-Encoding" = some coding ∧ sent.body = origin.body
  shorter : origin.streaming = false → sent.body.bytes.length ≤ origin.body.bytes.length

variable {decode : String → Bytes → Option Bytes} {origin between self : HttpResponse}

theorem get_congr {name query : String} (hname : lower_str query = lower_str name) :
    self.get query = self.get name := by
  simp only [get, response.Headers.get?, hname]

@[simp] theorem get_set (name value query : String) : (self.set name value).get query =
    if lower_str query = lower_str name then some value else self.get query :=
  response.Headers.get?_set self.headers name value query

theorem Passed.refl (decode : String → Bytes → Option Bytes) (self : HttpResponse) :
    Passed decode self self where
  status_code := rfl
  reason_phrase := rfl
  cookies := rfl
  streaming := rfl
  decoded := rfl
  measured := id
  headers := fun _ _ _ hget => hget
  etag := fun _ _ htag => Or.inl htag
  coded := fun _ hcoding => ⟨hcoding, rfl⟩
  shorter := fun _ => Nat.le_refl _

theorem field_text_weak {tag : String} (htext : FieldText 256 tag) :
    FieldText 256 ("W/" ++ tag) := by
  intro c hc
  rw [String.toList_append, List.mem_append] at hc
  obtain hmark | htag := hc
  · exact (show FieldText 256 "W/" by decide) c hmark
  · exact htext c htag

/-- A tag that was made weak is not made weak again. -/
theorem Passed.trans (hfirst : Passed decode origin between) (hsecond : Passed decode between self) :
    Passed decode origin self where
  status_code := hsecond.status_code.trans hfirst.status_code
  reason_phrase := hsecond.reason_phrase.trans hfirst.reason_phrase
  cookies := hsecond.cookies.trans hfirst.cookies
  streaming := hsecond.streaming.trans hfirst.streaming
  decoded := hsecond.decoded.trans hfirst.decoded
  measured := fun hmeasured => hsecond.measured (hfirst.measured hmeasured)
  headers := fun name value hname hget =>
    hsecond.headers name value hname (hfirst.headers name value hname hget)
  etag := by
    intro tag htext htag
    obtain hsame | ⟨hstrong, hweak⟩ := hfirst.etag tag htext htag
    · exact hsecond.etag tag htext hsame
    · obtain hsame | ⟨hquote, -⟩ := hsecond.etag _ (field_text_weak htext) hweak
      · exact Or.inr ⟨hstrong, hsame⟩
      · rw [String.toList_append] at hquote
        cases hquote
  coded := by
    intro coding hcoding
    obtain ⟨hkept, hbody⟩ := hfirst.coded coding hcoding
    obtain ⟨hstill, hsame⟩ := hsecond.coded coding hkept
    exact ⟨hstill, hsame.trans hbody⟩
  shorter := by
    intro hstreaming
    have hless := hfirst.shorter hstreaming
    have hthen := hsecond.shorter (hfirst.streaming.trans hstreaming)
    omega

/-- A header that the response lacks may be set, and `Vary` in any case. -/
theorem passed_set {name value : String} (hfree : self.get name = none ∨ lower_str name = "vary")
    (hcoding : lower_str name ≠ "content-encoding")
    (hlength : lower_str name = "content-length" → value = toString self.body.bytes.length) :
    Passed decode self (self.set name value) where
  status_code := rfl
  reason_phrase := rfl
  cookies := rfl
  streaming := rfl
  decoded := by
    have hget : (self.set name value).get "Content-Encoding" = self.get "Content-Encoding" := by
      rw [get_set, if_neg fun hname => hcoding (hname.symm.trans (by decide))]
    rw [HttpResponse.decoded, hget]
    rfl
  measured := by
    intro hmeasured stored hstored
    rw [get_set] at hstored
    split at hstored
    · rename_i hname
      cases hstored
      exact hlength hname.symm
    · exact hmeasured stored hstored
  headers := by
    intro query stored hquery hstored
    rw [get_set, if_neg, hstored]
    intro hname
    obtain hnone | hvary := hfree
    · rw [get_congr hname, hnone] at hstored
      cases hstored
    · rw [hname, hvary] at hquery
      exact hquery List.mem_cons_self
  etag := by
    intro tag _ htag
    rw [get_set, if_neg, htag]
    · exact Or.inl rfl
    · intro hname
      obtain hnone | hvary := hfree
      · rw [get_congr hname, hnone] at htag
        cases htag
      · rw [hvary] at hname
        exact absurd hname (by decide)
  coded := by
    intro coding hstored
    rw [get_set, if_neg fun hname => hcoding (hname.symm.trans (by decide))]
    exact ⟨hstored, rfl⟩
  shorter := fun _ => Nat.le_refl _

theorem set_header_ok {name value : String} {sent : HttpResponse}
    (hset : http.set_header self name value = .ok sent) :
    ∃ stored, http.header_value value = some stored ∧ sent = self.set name stored := by
  unfold Http.set_header at hset
  split at hset
  · rename_i stored hstored
    exact ⟨stored, hstored, (Except.ok.inj hset).symm⟩
  · cases hset

theorem setdefault_ok {name value : String} {sent : HttpResponse}
    (hset : http.setdefault self name value = .ok sent) :
    (sent = self ∧ self.has_header name = true) ∨ (self.get name = none ∧
      ∃ stored, http.header_value value = some stored ∧ sent = self.set name stored) := by
  unfold Http.setdefault at hset
  split at hset
  · exact Or.inl ⟨(Except.ok.inj hset).symm, ‹_›⟩
  · rename_i habsent
    exact Or.inr ⟨Option.not_isSome_iff_eq_none.mp habsent, set_header_ok hset⟩

theorem field_text_toString (n : Nat) : FieldText 256 (toString n) := by
  intro c hc
  rw [Nat.toString_eq_repr, Nat.toList_repr] at hc
  have hdigit : c.isDigit = true := Nat.isDigit_of_mem_toDigits (by decide) (by decide) hc
  have hrange : 48 ≤ c.toNat ∧ c.toNat ≤ 57 := by
    simpa [Char.isDigit, UInt32.le_iff_toNat_le] using hdigit
  refine ⟨by omega, ?_, ?_⟩
  · rintro rfl
    exact absurd hrange (by decide)
  · rintro rfl
    exact absurd hrange (by decide)

/-- A response that was marked as compressed. -/
structure Marked (self sent : HttpResponse) : Prop where
  kept : sent = { self with headers := sent.headers }
  coding : sent.get "Content-Encoding" = some "gzip"
  etag : ∀ tag, FieldText 256 tag → self.get "ETag" = some tag → sent.get "ETag" = some tag ∨
    (tag.toList.head? = some '"' ∧ sent.get "ETag" = some ("W/" ++ tag))
  others : ∀ query, lower_str query ≠ "content-encoding" → lower_str query ≠ "etag" →
    sent.get query = self.get query

theorem marked_ok (hdocumented : http.Documented) {sent : HttpResponse}
    (hmarked : GZipMiddleware.marked http self = .ok sent) : self.Marked sent := by
  have hcoding : lower_str "Content-Encoding" = "content-encoding" := by decide
  have hetag : lower_str "ETag" = "etag" := by decide
  unfold GZipMiddleware.marked at hmarked
  rcases hweakened : GZipMiddleware.weakened http self with e | weak
  · rw [hweakened] at hmarked
    cases hmarked
  rw [hweakened] at hmarked
  obtain ⟨stored, hstored, rfl⟩ := set_header_ok hmarked
  rw [hdocumented.header_value _ (by decide)] at hstored
  obtain rfl := Option.some.inj hstored
  unfold GZipMiddleware.weakened at hweakened
  have hsame (heq : weak = self) : self.Marked (weak.set "Content-Encoding" "gzip") := by
    subst heq
    refine ⟨rfl, by simp, fun tag _ htag => Or.inl ?_, fun query hquery _ => ?_⟩
    · rw [get_set, hcoding, hetag, if_neg (by decide), htag]
    · rw [get_set, hcoding, if_neg hquery]
  cases htag : self.get "ETag" with
  | none =>
    rw [htag] at hweakened
    exact hsame (Except.ok.inj hweakened).symm
  | some tag =>
    rw [htag] at hweakened
    dsimp only at hweakened
    split at hweakened
    · rename_i hstrong
      obtain ⟨kept, hkept, rfl⟩ := set_header_ok hweakened
      refine ⟨rfl, by simp, fun other htext hother => Or.inr ?_, fun query hquery hname => ?_⟩
      · obtain rfl := Option.some.inj (htag.symm.trans hother)
        rw [hdocumented.header_value _ (field_text_weak htext)] at hkept
        refine ⟨hstrong, ?_⟩
        rw [get_set, hcoding, hetag, if_neg (by decide), get_set, if_pos rfl, hkept]
      · rw [get_set, hcoding, if_neg hquery, get_set, hetag, if_neg hname]
    · exact hsame (Except.ok.inj hweakened).symm

/-- A body that has no coding yet may be compressed. -/
theorem passed_marked {body : Body} {headers : response.Headers} {sent : HttpResponse}
    (hmarked : ({ self with body, headers } : HttpResponse).Marked sent)
    (hplain : self.get "Content-Encoding" = none)
    (hstreaming : ({ self with body, headers } : HttpResponse).streaming = self.streaming)
    (hdecode : decode "gzip" body.bytes = some self.body.bytes)
    (hheaders : ∀ query, lower_str query ≠ "content-length" →
      headers.get? query = self.headers.get? query)
    (hmeasured : ({ self with body, headers } : HttpResponse).Measured)
    (hshorter : self.streaming = false → body.bytes.length ≤ self.body.bytes.length) :
    Passed decode self sent := by
  obtain ⟨hkept, hcoding, hetag, hothers⟩ := hmarked
  have hget (query : String) (hquery : lower_str query ≠ "content-length") :
      ({ self with body, headers } : HttpResponse).get query = self.get query :=
    hheaders query hquery
  have hbody : sent.body = body := by rw [hkept]
  refine ⟨?_, ?_, ?_, ?_, ?_, fun _ => ?_, ?_, ?_, ?_, ?_⟩
  · rw [hkept]
  · rw [hkept]
  · rw [hkept]
  · rw [hkept]
    exact hstreaming
  · rw [HttpResponse.decoded, hcoding, hbody, HttpResponse.decoded, hplain]
    exact hdecode
  · intro value hvalue
    rw [hothers _ (by decide) (by decide)] at hvalue
    rw [hbody]
    exact hmeasured value hvalue
  · intro name value hname hvalue
    simp only [rewritten, List.mem_cons, List.not_mem_nil, or_false, not_or] at hname
    rw [hothers name hname.2.2.2 hname.2.1, hget name hname.2.2.1, hvalue]
  · intro tag htext htag
    exact hetag tag htext ((hget "ETag" (by decide)).trans htag)
  · intro coding hcoding
    rw [hplain] at hcoding
    cases hcoding
  · rw [hbody]
    exact hshorter

end HttpResponse

end massless.middleware
