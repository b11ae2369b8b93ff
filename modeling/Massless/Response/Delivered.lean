import Massless.Http.Interim
import Massless.Response.RoundTrip

open python

namespace http

theorem field_values_eq (name : Octets) (fields : List Field) :
    field_values name fields =
      (named name fields).flatMap fun value => (value.splitOn 44).map trim := by
  rw [field_values, named, List.flatMap_map]

end http

namespace massless.response.Reply

/-- What marks the end of a body marks it as well where more is known of the rest. -/
theorem Delimited.imp {reply : Reply} {last other : Prop} (hdelimited : reply.Delimited last)
    (hlast : last → other) : reply.Delimited other := by
  unfold Delimited at hdelimited ⊢
  by_cases hsilent : reply.is_head = true ∨ reply.status = 204 ∨ reply.status = 304
  · rw [if_pos hsilent]
    trivial
  · rw [if_neg hsilent] at hdelimited ⊢
    split
    · rename_i hinterim
      rwa [if_pos hinterim] at hdelimited
    · rename_i hbodied
      rw [if_neg hbodied] at hdelimited
      split
      · rename_i hfields
        simpa only [hfields] using hdelimited
      · rename_i first others hfields
        simp only [hfields] at hdelimited
        exact hdelimited.imp_right hlast

/-- A final reply without headers of its own ends where its length says. -/
theorem delimited_of_no_headers {reply : Reply} (hnone : reply.writer.written.headers.entries = [])
    (hfinal : 200 ≤ reply.status) (last : Prop) : reply.Delimited last := by
  have hinterim : ¬reply.status / 100 = 1 := by omega
  rw [Delimited, if_neg hinterim]
  split
  · trivial
  · have hlines : reply.own_lines = [] := by rw [own_lines, hnone, List.map_nil]
    simp [own_fields, folds_length, hlines, http.read_fields, http.unfold_lines, http.field_values]

/-- What a client reads of the head, and what it finds behind it. -/
theorem read_head_writing {reply : Reply} (hwhole : reply.Whole) {n : Nat} (hn : reply.status = n)
    (rest : Bytes) :
    http.read_head (reply.writing.wire ++ rest) =
      some (n, reply.fields, sent_body reply.status reply.method reply.body ++ rest) := by
  have hhead := http.read_head_block (head_unbroken hwhole) (parse_status_start_line hn)
    (sent_body reply.status reply.method reply.body ++ rest)
  simpa only [fields, writing, wire_eq hwhole, Option.getD_some, List.append_assoc] using hhead

/-- The body of a final reply is what is sent behind its head. -/
theorem writing_body {reply : Reply} (hfinal : 200 ≤ reply.status) :
    reply.writing.body = sent_body reply.status reply.method reply.body := by
  have hinterim : ¬reply.status / 100 = 1 := by omega
  have hintended : reply.writing.body = reply.intended_body := rfl
  simp only [hintended, intended_body, is_head, decide_eq_true_eq, hinterim, false_or]
  rfl

/-- A client reads a final reply for what it is. -/
theorem readable {reply : Reply} (hwhole : reply.Whole) (hfinal : 200 ≤ reply.status) {rest : Bytes}
    (hdelimited : reply.Delimited (rest = [])) : (http.Piece.final reply.writing).Readable rest := by
  refine ⟨?_, (framed_iff hwhole rest).mpr hdelimited⟩
  obtain ⟨n, hn, -⟩ := reply.status_eq
  refine ⟨_, read_head_writing hwhole hn rest, ?_⟩
  dsimp only
  omega

end massless.response.Reply

namespace massless.response

variable {dj_resp : HttpResponse} {date : Bytes}

/-- A final response without a transfer encoding of its own ends where its length says. -/
theorem delimited_reply_of (hclean : dj_resp.Clean) (hdate : OneLine date) (keep_alive : Bool) (method : Bytes) (hfinal : 200 ≤ dj_resp.status_code)
    (htransfer : dj_resp.headers.get? "Transfer-Encoding" = none) (last : Prop) :
    (reply_of hclean hdate keep_alive method).Delimited last := by
  let reply := reply_of hclean hdate keep_alive method
  have hfolds := folds_length_reply_of hclean hdate keep_alive method
  have hcoding := reply.transfer_encoding_fields
  have hlength := Reply.content_length_fields hfolds
  rw [fields_reply_of hclean hdate keep_alive method] at hcoding hlength
  have hnone : http.field_values http.transfer_encoding (sent_fields date keep_alive dj_resp) =
      [] := by
    have hkept := kept_filter dj_resp "Transfer-Encoding" (by decide)
    have hlower : lower_str "Transfer-Encoding" = "transfer-encoding" := by decide
    rw [hlower, htransfer, Option.toList_none, List.map_eq_nil_iff] at hkept
    have hnamed := @named_sent_fields date keep_alive dj_resp hclean "transfer-encoding" (by decide)
    simp only [hkept, String.reduceEq, false_and, if_false, List.map_nil, List.append_nil] at hnamed
    rw [http.field_values_eq, show http.transfer_encoding = ascii "transfer-encoding" by decide,
      hnamed, List.flatMap_nil]
  have hone : http.field_values http.content_length (sent_fields date keep_alive dj_resp) =
      [http.decimal dj_resp.content.length] := by
    have hsame : http.named http.content_length (sent_fields date keep_alive dj_resp) =
        http.named http.content_length
          [⟨http.content_length, http.decimal dj_resp.content.length⟩] := by
      rw [show http.content_length = ascii "content-length" by decide,
        (carried_sent_fields hclean).content_length]
      simp [http.named]
    rw [http.field_values_eq, hsame, ← http.field_values_eq, http.field_values_decimal]
    rfl
  have hown : http.field_values http.content_length reply.own_fields = [] := by
    rw [hone] at hlength
    exact (List.cons.inj hlength).2.symm
  have hinterim : ¬reply.status / 100 = 1 := by
    have hstatus : reply.status = dj_resp.status_code := rfl
    omega
  rw [Reply.Delimited, if_neg hinterim]
  split
  · trivial
  · rw [← hcoding, hnone]
    exact ⟨hfolds, by simp [reply, hown]⟩

/-- A client reads a clean final response for what it is, whatever comes behind it. -/
theorem read_clean (hclean : dj_resp.Clean) (hreason : FieldText 256 dj_resp.reason_phrase)
    (hdate : OneLine date) (keep_alive : Bool) (method : Bytes) (hfinal : 200 ≤ dj_resp.status_code)
    (htransfer : dj_resp.headers.get? "Transfer-Encoding" = none) :
    ∃ (wire : Bytes) (status : Nat),
      (folded dj_resp).to_bytes date keep_alive method = some wire ∧
      (status : Int) = dj_resp.status_code ∧ ∀ rest,
        http.read_head (wire ++ rest) = some (status, sent_fields date keep_alive dj_resp,
          sent_body dj_resp.status_code method dj_resp.content ++ rest) ∧
        http.read_message (decide (method = ascii "HEAD")) (wire ++ rest) =
          some (⟨wire, sent_body dj_resp.status_code method dj_resp.content⟩, rest) := by
  let reply := reply_of hclean hdate keep_alive method
  obtain ⟨n, hn, -⟩ := reply.status_eq
  have hwire : reply.wire = some reply.writing.wire := by
    rw [Reply.writing, Reply.wire_eq (whole_reply_of hclean hreason hdate keep_alive method)]
    rfl
  have hbody : reply.writing.body = sent_body dj_resp.status_code method dj_resp.content :=
    Reply.writing_body hfinal
  refine ⟨reply.writing.wire, n, hwire, hn.symm, fun rest => ⟨?_, ?_⟩⟩
  · have hread := Reply.read_head_writing
      (whole_reply_of hclean hreason hdate keep_alive method) hn rest
    rw [fields_reply_of hclean hdate keep_alive method] at hread
    exact hread
  · have hframed := (Reply.framed_iff
      (whole_reply_of hclean hreason hdate keep_alive method) rest).mpr
      (delimited_reply_of hclean hdate keep_alive method hfinal htransfer _)
    rw [http.Writing.Framed, hbody] at hframed
    exact hframed

end massless.response
