import ApiStubs.Compile
import ApiStubs.Proofs.Returns

/- Headers as mappings from names to texts. Names stay distinct when headers are put one by one, and headers
   laid over a single default one keep its place: it comes first, with the text they give it if they name it. -/

set_option autoImplicit false

namespace ApiStubs

namespace Parameter

def Headers.names (headers : Headers) : List String :=
  headers.map Prod.fst

def overDefault (name text : String) (headers : Headers) : Headers :=
  (name, (headers.lookup name).getD text) :: headers.filter fun h => h.1 != name

theorem put_header_absent (headers : Headers) (name text : String) (absent : name ∉ headers.names) :
    putHeader headers name text = headers ++ [(name, text)] := by
  induction headers with
  | nil => rfl
  | cons head rest ih =>
      obtain ⟨other, old⟩ := head
      simp only [Headers.names, List.map_cons, List.mem_cons, not_or] at absent
      simp only [putHeader, if_neg (Ne.symm absent.1), List.cons_append]
      rw [ih absent.2]

theorem put_header_present (headers : Headers) (name text : String) (present : name ∈ headers.names) :
    (putHeader headers name text).names = headers.names := by
  induction headers with
  | nil => cases present
  | cons head rest ih =>
      obtain ⟨other, old⟩ := head
      by_cases same : other = name
      · simp [putHeader, same, Headers.names]
      · have later : name ∈ Headers.names rest := by
          rcases List.mem_cons.mp present with here | later
          · exact absurd here.symm same
          · exact later
        simpa [putHeader, same, Headers.names] using ih later

theorem put_header_distinct (headers : Headers) (name text : String) (distinct : headers.names.Nodup) :
    (putHeader headers name text).names.Nodup := by
  by_cases present : name ∈ headers.names
  · rwa [put_header_present headers name text present]
  · rw [put_header_absent headers name text present]
    simp only [Headers.names, List.map_append, List.map_cons, List.map_nil]
    refine List.nodup_append.mpr ⟨distinct, by simp, ?_⟩
    rintro other member _ (_ | ⟨_, ⟨⟩⟩) rfl
    exact present member

theorem lookup_absent (headers : Headers) (name : String) (absent : name ∉ headers.names) :
    headers.lookup name = none := by
  induction headers with
  | nil => rfl
  | cons head rest ih =>
      obtain ⟨other, old⟩ := head
      simp only [Headers.names, List.map_cons, List.mem_cons, not_or] at absent
      have differ : (name == other) = false := beq_eq_false_iff_ne.mpr absent.1
      rw [List.lookup_cons, differ]
      exact ih absent.2

-- `rest` holds the headers already passed that do not have the default's name.
theorem fold_over_default (headers rest : Headers) (name text : String) (distinct : headers.names.Nodup)
    (apart : ∀ n ∈ headers.names, n ∉ rest.names) :
    headers.foldl (fun acc h => putHeader acc h.1 h.2) ((name, text) :: rest) =
      (name, (headers.lookup name).getD text) :: (rest ++ headers.filter fun h => h.1 != name) := by
  induction headers generalizing rest text with
  | nil => simp
  | cons head more ih =>
      obtain ⟨other, fresh⟩ := head
      obtain ⟨first, others⟩ := List.nodup_cons.mp distinct
      have restApart : ∀ n ∈ Headers.names more, n ∉ rest.names :=
        fun n member => apart n (List.mem_cons_of_mem other member)
      by_cases same : other = name
      · subst same
        have once : List.lookup other more = none := lookup_absent more other first
        simp [putHeader, ih rest fresh others restApart, once]
      · have missing : other ∉ rest.names := apart other List.mem_cons_self
        have extended : ∀ n ∈ Headers.names more, n ∉ Headers.names (rest ++ [(other, fresh)]) := by
          intro n member
          simp only [Headers.names, List.map_append, List.map_cons, List.map_nil, List.mem_append,
            List.mem_singleton, not_or]
          exact ⟨restApart n member, fun eq => first (eq ▸ member)⟩
        have differ : (name == other) = false := beq_eq_false_iff_ne.mpr (Ne.symm same)
        simp [putHeader, Ne.symm same, put_header_absent rest other fresh missing,
          ih (rest ++ [(other, fresh)]) text others extended, List.lookup_cons, differ, same]

end Parameter

namespace Response

open Parameter

theorem add_headers_distinct (settings : Settings) (document : Value) (headers result : Headers)
    (entries : Entries) (distinct : headers.names.Nodup)
    (added : addHeaders settings document headers entries = .ok result) : result.names.Nodup := by
  induction entries generalizing headers with
  | nil =>
      cases added
      exact distinct
  | cons entry rest ih =>
      obtain ⟨name, raw⟩ := entry
      simp only [addHeaders, except_bind_ok] at added
      obtain ⟨_, -, _, -, text, -, more⟩ := added
      exact ih _ (put_header_distinct headers name.display text distinct) more

theorem headers_of_distinct (settings : Settings) (document : Value) (location : String) (response : Entries)
    (headers : Headers) (declared : headersOf settings document location response = .ok headers) :
    headers.names.Nodup := by
  simp only [headersOf, except_bind_ok] at declared
  obtain ⟨entries, -, added⟩ := declared
  exact add_headers_distinct settings document [] headers entries List.nodup_nil added

end Response

namespace Compile

open Parameter

theorem with_content_type_eq (settings : Settings) (headers : Headers) (distinct : headers.names.Nodup) :
    withContentType settings headers = overDefault "Content-Type" settings.mediaType headers := by
  simpa [withContentType, overDefault] using
    fold_over_default headers [] "Content-Type" settings.mediaType distinct (by simp [Headers.names])

end Compile

end ApiStubs
