import ApiStubs.Proofs.Fields
import ApiStubs.Proofs.Headers
import ApiStubs.Proofs.JsonCharacters
import ApiStubs.Source

/- Documents of stubs are read back. What a stub is written as passes every check of its reading, and the text of a
   document survives being encoded into a file and read with its line ends made plain. -/

set_option autoImplicit false

namespace ApiStubs

open Check
open Json (Plain PlainItems PlainEntries Readable)
open Parameter (Headers)

namespace Stub

-- Names are distinct within a message, and the status has no more digits than are read.
structure WellFormed (s : Stub) : Prop where
  requestNames : s.request.headers.names.Nodup
  responseNames : ∀ headers ∈ s.response.headers, headers.names.Nodup
  status : Readable s.response.status

theorem text_plain (text : String) : Plain (.str text) := by
  simp [Plain]

theorem header_entries_plain (form : String → Value) (plain : ∀ text, Plain (form text)) (headers : Headers) :
    PlainEntries (headers.map fun h => (.str h.1, form h.2)) := by
  induction headers with
  | nil => simp [PlainEntries]
  | cons head rest ih =>
      rw [List.map_cons, PlainEntries]
      exact ⟨⟨head.1, rfl⟩, plain head.2, ih⟩

theorem header_map_plain (form : String → Value) (plain : ∀ text, Plain (form text)) (headers : Headers)
    (distinct : headers.names.Nodup) : Plain (.map (headers.map fun h => (.str h.1, form h.2))) := by
  rw [Plain]
  refine ⟨header_entries_plain form plain headers, ?_⟩
  simpa [Headers.names, List.Nodup, List.pairwise_map] using distinct

theorem matcher_plain (text : String) : Plain (RequestMatcher.matcherValue text) := by
  simp [RequestMatcher.matcherValue, Plain, PlainEntries]

theorem request_plain (r : RequestMatcher) (distinct : r.headers.names.Nodup) : Plain r.toValue := by
  have headers := header_map_plain RequestMatcher.matcherValue matcher_plain r.headers distinct
  rw [RequestMatcher.toValue, Plain]
  simp [PlainEntries, headers, text_plain]

theorem response_plain (r : ResponseDefinition) (distinct : ∀ headers ∈ r.headers, headers.names.Nodup)
    (status : Readable r.status) : Plain r.toValue := by
  have plainStatus : Plain (.int r.status) := by rwa [Plain]
  have plainHeaders : ∀ headers ∈ r.headers, Plain (ResponseDefinition.headersValue headers) :=
    fun headers given => header_map_plain .str text_plain headers (distinct headers given)
  rw [ResponseDefinition.toValue, Plain]
  cases givenHeaders : r.headers <;> cases r.bodyFileName <;>
    simp [PlainEntries, plainStatus, plainHeaders, givenHeaders, text_plain]

theorem stub_plain (s : Stub) (formed : s.WellFormed) : Plain s.toValue := by
  have request := request_plain s.request formed.requestNames
  have response := response_plain s.response formed.responseNames formed.status
  rw [toValue, Plain]
  simp [PlainEntries, request, response, text_plain]

theorem document_plain (stubs : List Stub) (formed : ∀ s ∈ stubs, s.WellFormed) : Plain (documentOf stubs) := by
  have items : PlainItems (stubs.map toValue) := by
    induction stubs with
    | nil => simp [PlainItems]
    | cons first rest ih =>
        rw [List.map_cons, PlainItems]
        exact ⟨stub_plain first (formed first (by simp)), ih fun s member => formed s (by simp [member])⟩
  have listed : Plain (.list (stubs.map toValue)) := by rwa [Plain]
  rw [documentOf, Plain]
  simp [PlainEntries, listed]

theorem each_header_read (check : Value → Checked String) (form : String → Value)
    (reads : ∀ text, check (form text) = .ok text) (headers : Headers) :
    eachEntry check (headers.map fun h => (.str h.1, form h.2)) = .ok headers := by
  induction headers with
  | nil => rfl
  | cons head rest ih =>
      rw [List.map_cons, eachEntry, reads, ih]
      rfl

theorem header_map_read (check : Value → Checked String) (form : String → Value)
    (reads : ∀ text, check (form text) = .ok text) (headers : Headers) :
    mapOf check (.map (headers.map fun h => (.str h.1, form h.2))) = .ok headers :=
  each_header_read check form reads headers

theorem matcher_read (text : String) : matcher (RequestMatcher.matcherValue text) = .ok text := by
  have found : Entries.get? [(.str "equalTo", .str text)] "equalTo" = some (.str text) := by simp [Entries.get?]
  rw [matcher, RequestMatcher.matcherValue, model]
  exact under_either_written found rfl

theorem request_fields (r : RequestMatcher) :
    ∃ entries : Entries, r.toValue = .map entries ∧ entries.get? "method" = some (.str r.method) ∧
      entries.get? "urlPattern" = some (.str r.urlPattern) ∧
      entries.get? "headers" =
        some (.map (r.headers.map fun h => (.str h.1, RequestMatcher.matcherValue h.2))) := by
  refine ⟨_, rfl, ?_, ?_, ?_⟩ <;> simp [Entries.get?]

theorem request_read (r : RequestMatcher) : requestOf r.toValue = .ok r := by
  obtain ⟨entries, form, method, url, headers⟩ := request_fields r
  have methodRead : required entries "method" text = .ok r.method := required_found method rfl
  have urlRead : underEither entries "urlPattern" "url_pattern" (under "urlPattern" (refuse .missing)) text =
      .ok r.urlPattern := under_either_written url rfl
  have headersRead : Check.optional entries "headers" [] (mapOf matcher) = .ok r.headers :=
    optional_found headers (header_map_read matcher _ matcher_read r.headers)
  rw [form, requestOf, model, methodRead, urlRead, headersRead]
  rfl

theorem response_fields (r : ResponseDefinition) :
    ∃ entries : Entries, r.toValue = .map entries ∧ entries.get? "status" = some (.int r.status) ∧
      entries.get? "headers" = r.headers.map ResponseDefinition.headersValue ∧
      entries.get? "bodyFileName" = r.bodyFileName.map Value.str ∧ entries.get? "body_file_name" = none := by
  refine ⟨_, rfl, ?_, ?_, ?_, ?_⟩ <;> cases r.headers <;> cases r.bodyFileName <;> simp [Entries.get?]

-- A field that is left out is read as absent, and an empty mapping as one that is there.
theorem response_read (r : ResponseDefinition) : responseOf r.toValue = .ok r := by
  obtain ⟨entries, form, status, headers, file, other⟩ := response_fields r
  have statusRead : required entries "status" int = .ok r.status := required_found status rfl
  have headersRead : Check.optional entries "headers" none (orNull (mapOf text)) = .ok r.headers := by
    cases given : r.headers with
    | none => exact optional_absent (by rw [headers, given]; rfl)
    | some names =>
        have read := header_map_read text .str (fun _ => rfl) names
        have found : entries.get? "headers" = some (ResponseDefinition.headersValue names) := by
          rw [headers, given, Option.map_some]
        exact optional_found found (congrArg (Except.map some) read)
  have fileRead : underEither entries "bodyFileName" "body_file_name" (.ok none) (orNull text) =
      .ok r.bodyFileName := by
    cases given : r.bodyFileName with
    | none => exact under_either_absent (by rw [file, given]; rfl) other
    | some name => exact under_either_written (by rw [file, given]; rfl) rfl
  rw [form, responseOf, model, statusRead, headersRead, fileRead]
  rfl

theorem stub_fields (s : Stub) :
    ∃ entries : Entries, s.toValue = .map entries ∧ entries.get? "id" = some (.str s.id) ∧
      entries.get? "request" = some s.request.toValue ∧ entries.get? "response" = some s.response.toValue := by
  refine ⟨_, rfl, ?_, ?_, ?_⟩ <;> simp [Entries.get?]

theorem stub_read (s : Stub) : ofValue s.toValue = .ok s := by
  obtain ⟨entries, form, id, request, response⟩ := stub_fields s
  have idRead : required entries "id" text = .ok s.id := required_found id rfl
  have requestRead : required entries "request" requestOf = .ok s.request :=
    required_found request (request_read s.request)
  have responseRead : required entries "response" responseOf = .ok s.response :=
    required_found response (response_read s.response)
  rw [form, ofValue, model, idRead, requestRead, responseRead]
  rfl

theorem stubs_read (stubs : List Stub) : readAll (stubs.map toValue) = .ok stubs := by
  induction stubs with
  | nil => rfl
  | cons first rest ih =>
      rw [List.map_cons, readAll, stub_read, ih]

theorem document_read (stubs : List Stub) : ofDocument (documentOf stubs) = .ok stubs := by
  simp [ofDocument, documentOf, Entries.get?, listed, stubs_read]

theorem document_text_written (stubs : List Stub) (formed : ∀ s ∈ stubs, s.WellFormed) :
    ∃ text, documentText stubs = .ok text ∧ Json.write .document (documentOf stubs) = some text ∧
      ∀ gap : String, Json.Blank gap.toList → Json.read (text ++ gap) = .ok (documentOf stubs) := by
  obtain ⟨text, written, read⟩ := Json.read_written .document (documentOf stubs) (document_plain stubs formed)
  refine ⟨text, ?_, written, read⟩
  rw [documentText, Json.render_of_write written]

theorem dump_of_text {stubs : List Stub} {text : String} (told : documentText stubs = .ok text) :
    dump stubs = text ++ "\n" := by
  rw [dump, told]

theorem document_text_defect {stubs : List Stub} {e : Error} (failed : documentText stubs = .error e) :
    ∃ cause, e = .defect cause := by
  rw [documentText] at failed
  cases rendered : Json.render .document (documentOf stubs) with
  | ok text => simp [rendered] at failed
  | error cause =>
      simp only [rendered, Except.error.injEq] at failed
      exact ⟨cause, failed.symm⟩

theorem dump_document (stubs : List Stub) (formed : ∀ s ∈ stubs, s.WellFormed) :
    Json.read (dump stubs) = .ok (documentOf stubs) := by
  obtain ⟨text, told, -, read⟩ := document_text_written stubs formed
  rw [dump_of_text told]
  exact read "\n" (by simp [Json.Blank, Json.isSpace])

theorem dump_parsed (stubs : List Stub) (formed : ∀ s ∈ stubs, s.WellFormed) : parse (dump stubs) = .ok stubs := by
  simp only [parse, dump_document stubs formed, document_read]

theorem dump_printed (stubs : List Stub) (formed : ∀ s ∈ stubs, s.WellFormed) :
    ∀ c ∈ (dump stubs).toList, Json.Printed c := by
  obtain ⟨text, told, written, -⟩ := document_text_written stubs formed
  intro c member
  rw [dump_of_text told, String.toList_append, List.mem_append] at member
  rcases member with body | last
  · exact Json.written_printed .document (documentOf stubs) (document_plain stubs formed) _ written c body
  · simp only [String.reduceToList, List.mem_singleton] at last
    exact .inl last

end Stub

namespace Source

theorem plain_lines_kept (cs : List Char) (plain : '\r' ∉ cs) : plainLines cs = cs := by
  induction cs with
  | nil => rfl
  | cons c rest ih =>
      rw [List.mem_cons, not_or] at plain
      rw [plainLines, ih plain.2]
      · exact fun _ same _ => plain.1 same.symm
      · exact fun same => plain.1 same.symm

theorem encoded_decodes (s : String) : String.fromUTF8? s.toUTF8 = some s := by
  have valid : s.toUTF8.IsValidUTF8 := s.isValidUTF8
  rw [String.fromUTF8?, dif_pos valid]
  rfl

theorem text_of_encoded (s : String) (plain : '\r' ∉ s.toList) : textOf? s.toUTF8 = some s := by
  rw [textOf?, encoded_decodes, Option.map_some, plain_lines_kept _ plain, String.ofList_toList]

end Source

-- Escaping leaves no carriage return in the text, so that no line end is changed on the way back.
theorem Stub.dump_encoded (stubs : List Stub) (formed : ∀ s ∈ stubs, s.WellFormed) :
    Source.textOf? (dump stubs).toUTF8 = some (dump stubs) := by
  refine Source.text_of_encoded _ fun carriage => ?_
  exact absurd (dump_printed stubs formed '\r' carriage) (by decide)

end ApiStubs
