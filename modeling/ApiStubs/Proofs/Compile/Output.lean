import ApiStubs.Proofs.Compile.FileNames
import ApiStubs.Proofs.Drawing
import ApiStubs.Proofs.Store.Tree
import ApiStubs.Proofs.StubDocument
import ApiStubs.Proofs.WrittenNumber

/- What a compilation hands to the store. The stem of a document can be read back from the name of each of its files,
   so that the files of different documents have different names, and all of its stubs can be written and read
   back. -/

set_option autoImplicit false

namespace ApiStubs

open ApiStubs.Decimal ApiStubs.Text
open Json (Readable small_readable)
open Response (Foreign NamesStatus)
open Store (FileName file_name_long)

theorem slash_foreign : Foreign '/' :=
  ⟨by decide, by decide, by decide, by decide, by decide⟩

theorem s_foreign : Foreign 's' :=
  ⟨by decide, by decide, by decide, by decide, by decide⟩

theorem stub_name_injective {a b : String} (same : stubFileName a = stubFileName b) : a = b := by
  have chars := congrArg String.toList same
  simpa [stubFileName, String.toList_inj] using chars

theorem stub_name_step {stem : String} (free : '/' ∉ stem.toList) : FileName (stubFileName stem) := by
  have chars : (stubFileName stem).toList = "WireMockStub-".toList ++ stem.toList ++ ".json".toList := by
    simp [stubFileName]
  refine file_name_long ?_ (by simp [chars])
  simp [chars, free]

theorem Response.status_readable {settings : Settings} {text : String} {status : Int}
    (named : statusOf settings text = .ok status) (known : Readable settings.defaultStatus) : Readable status := by
  cases (status_of_iff settings text status).mp named with
  | other => exact known
  | @range d _ _ least most =>
      have small : (d * 100 : Int).natAbs < 10 ^ 3 := by omega
      exact small_readable (by decide) (by decide) small
  | number writes => exact read_integer_readable ((integer_after_blanks text status).mpr writes)

namespace Compile

theorem use_form_free {c : Char} (mark : c ≠ '-') (digit : c.toNat < 0x30 ∨ 0x39 < c.toNat) (use : Nat) :
    c ∉ useForm use := by
  have other : c ∉ digits use := fun member => by
    have bounds := mem_digits_code member
    omega
  unfold useForm
  split <;> simp [mark, other]

theorem body_name_chars (stem text : String) (use : Nat) :
    (fileName (stemOf stem text) use).toList =
      (stem.toList ++ "-respon".toList) ++ 's' :: ("e-".toList ++ text.toList ++ useForm use) ++ ".json".toList := by
  simp [file_name_chars, stemOf]

-- The last `s` before the ending belongs to what stands between the stem and the text.
theorem body_name_stem {settings : Settings} {a b s t : String} {m n : Nat} (left : NamesStatus settings s)
    (right : NamesStatus settings t) (same : fileName (stemOf a s) m = fileName (stemOf b t) n) : a = b := by
  have chars := congrArg String.toList same
  have free (text : String) (use : Nat) (named : NamesStatus settings text) :
      's' ∉ "e-".toList ++ text.toList ++ useForm use := by
    simp [Response.status_free s_foreign settings text named, use_form_free]
  rw [body_name_chars, body_name_chars, List.append_cancel_right_eq] at chars
  obtain ⟨fronts, -⟩ := append_last_split (free s m left) (free t n right) chars
  exact String.toList_inj.mp (List.append_cancel_right fronts)

theorem body_name_step {settings : Settings} {stem text : String} (free : '/' ∉ stem.toList)
    (named : NamesStatus settings text) (use : Nat) : FileName (fileName (stemOf stem text) use) := by
  refine file_name_long ?_ (by simp [body_name_chars]; omega)
  simp [body_name_chars, free, Response.status_free slash_foreign settings text named, use_form_free]

theorem compiled_named {generator : Generator} {issued : Nat} {settings : Settings} {specName : String}
    {document : Entries} {c : Compilation}
    (success : (compileFrom generator issued settings specName document).outcome = .ok c) :
    ∃ base p, Named ⟨settings, .map document, specName, base⟩ p ∧ c = p.result specName := by
  obtain ⟨base, p, -, visited, rfl⟩ := compile_from_visits _ _ _ _ _ _ success
  have start : Named ⟨settings, .map document, specName, base⟩ (Progress.start generator issued) :=
    ⟨fun _ member => absurd member List.not_mem_nil, List.nodup_nil, rfl⟩
  exact ⟨base, p, visits_named _ _ _ _ _ visited start, rfl⟩

theorem compiled_files {generator : Generator} {issued : Nat} {settings : Settings} {specName : String}
    {document : Entries} {c : Compilation}
    (success : (compileFrom generator issued settings specName document).outcome = .ok c) :
    c.name = specName ∧ (c.files.map BodyFile.name).Nodup ∧
      ∀ file ∈ c.files, ∃ text use, NamesStatus settings text ∧ file.name = fileName (stemOf specName text) use := by
  obtain ⟨base, p, named, rfl⟩ := compiled_named success
  refine ⟨rfl, named.distinct, fun file member => ?_⟩
  obtain ⟨text, use, status, -, same⟩ := named.counted file.name (List.mem_map_of_mem member)
  exact ⟨text, use, status, same⟩

theorem compiled_stub_file {generator : Generator} {issued : Nat} {settings : Settings} {specName : String}
    {document : Entries} {c : Compilation}
    (success : (compileFrom generator issued settings specName document).outcome = .ok c) {stub : Stub}
    (member : stub ∈ c.stubs) {name : String} (answers : stub.response.bodyFileName = some name) :
    ∃ file ∈ c.files, file.name = name := by
  obtain ⟨base, p, named, rfl⟩ := compiled_named success
  have listed : name ∈ namedFiles p.stubs := List.mem_filterMap.mpr ⟨stub, member, answers⟩
  rw [named.paired] at listed
  exact List.mem_map.mp listed

theorem over_default_distinct (name text : String) (headers : Parameter.Headers) (distinct : headers.names.Nodup) :
    (Parameter.overDefault name text headers).names.Nodup := by
  have others : (Parameter.Headers.names (headers.filter fun h => h.1 != name)).Nodup :=
    distinct.sublist (List.filter_sublist.map Prod.fst)
  refine List.nodup_cons.mpr ⟨?_, others⟩
  simp

theorem required_headers_distinct (settings : Settings) (document : Value) (parameters : List Value)
    (headers result : Parameter.Headers) (distinct : headers.names.Nodup)
    (required : Parameter.requiredHeaders settings document headers parameters = .ok result) :
    result.names.Nodup := by
  induction parameters generalizing headers with
  | nil =>
      cases required
      exact distinct
  | cons raw rest ih =>
      rw [Parameter.requiredHeaders, except_bind_ok] at required
      obtain ⟨node, -, more⟩ := required
      split at more
      · split at more
        · split at more
          · split at more
            · cases more
            · simp only [except_bind_ok] at more
              obtain ⟨_, -, text, -, more⟩ := more
              exact ih _ (Parameter.put_header_distinct headers _ text distinct) more
          · cases more
        · exact ih headers distinct more
      · exact ih headers distinct more

theorem described_stub_formed {scope : Scope} {slot : Slot} {body : Value} {stub : Stub}
    (described : Describes scope slot body stub) (known : Readable scope.settings.defaultStatus) : stub.WellFormed where
  requestNames := by
    by_cases error : scope.settings.errorStatusThreshold ≤ stub.response.status
    · rw [described.errorRequest error]
      exact List.nodup_singleton _
    · obtain ⟨merged, -, required⟩ := described.plainRequest error
      exact required_headers_distinct _ _ _ [] _ List.nodup_nil required
  responseNames := by
    obtain ⟨content, declared, -, named, given⟩ := described.response
    have distinct := Response.headers_of_distinct _ _ _ _ _ named
    intro headers member
    rw [given] at member
    split at member
    · cases member
      exact over_default_distinct _ _ _ distinct
    · split at member
      · cases member
      · cases member
        exact distinct
  status := Response.status_readable described.status known

theorem compiled_stubs_formed {generator : Generator} {issued : Nat} {settings : Settings} {specName : String}
    {document : Entries} {c : Compilation}
    (success : (compileFrom generator issued settings specName document).outcome = .ok c)
    (known : Readable settings.defaultStatus) : ∀ stub ∈ c.stubs, stub.WellFormed := by
  obtain ⟨base, p, -, visited, rfl⟩ := compile_from_visits _ _ _ _ _ _ success
  obtain ⟨-, bodies, stubs, -, added, -, described⟩ := visits_describe _ _ _ _ _ visited
  have all : p.stubs = stubs := by simpa [Progress.start] using added
  have formed := described.imp fun _ _ describes => described_stub_formed describes known
  rw [Progress.result, all]
  exact forall_mem_of_related formed

end Compile

end ApiStubs
