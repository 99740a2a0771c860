import ApiStubs.Proofs.Compile.Stubs
import ApiStubs.Proofs.PathTemplate.Fill
import ApiStubs.Proofs.ServerUrl

/- The path of a server. It comes out of the URL of the first server and stands, without its trailing slashes, in front
   of every pattern, so that no slash is doubled where the two meet. -/

set_option autoImplicit false

namespace ApiStubs

open ApiStubs.Text

namespace Compile

theorem base_path_of_leads {document server : Entries} {further : List Value} {url path : List Char}
    (servers : document.get "servers" = .list (.map server :: further))
    (first : server.get "url" = .str (String.ofList url)) (leads : Url.Leads url path) :
    basePath document = .ok (String.ofList (trimRight (· == '/') path)) := by
  have given : (Value.str (String.ofList url)).isTrue = true := bne_iff_ne.mpr (Url.leads_filled leads)
  unfold basePath
  simp only [servers, Shape.listAt, bind, Except.bind, Shape.objectAt, first, given, if_true,
    Url.path_of_leads leads, String.toList_ofList]
  rfl

theorem slot_site {settings : Settings} {document : Entries} {slot : Slot} (member : slot ∈ slots settings document) :
    slot.site ∈ sites settings document := by
  obtain ⟨site, listed, inside⟩ := List.mem_flatMap.mp member
  obtain ⟨e, -, rfl⟩ := List.mem_map.mp inside
  exact listed

theorem visits_described {scope : Scope} {slots : List Slot} {found : List Unresolved} {p q : Progress}
    (visited : Visits scope slots found p q) {stub : Stub} (member : stub ∈ q.stubs) :
    stub ∈ p.stubs ∨ ∃ slot ∈ slots, ∃ body, Describes scope slot body stub := by
  induction visited with
  | done => exact .inl member
  | report _ ih => exact ih member
  | @answer slot slots found operation p q r prepared first _ ih =>
      obtain ⟨-, body, own, -, describes, added⟩ := compile_response_describes _ _ _ _ _ prepared first
      rcases ih member with early | ⟨other, later, described⟩
      · rw [added, List.mem_append, List.mem_singleton] at early
        rcases early with before | rfl
        · exact .inl before
        · exact .inr ⟨slot, List.mem_cons_self, body, describes⟩
      · exact .inr ⟨other, List.mem_cons_of_mem slot later, described⟩

theorem compiled_described {generator : Generator} {issued : Nat} {settings : Settings} {specName : String}
    {document : Entries} {c : Compilation}
    (success : (compileFrom generator issued settings specName document).outcome = .ok c) :
    ∃ base, basePath document = .ok base ∧ ∀ stub ∈ c.stubs, ∃ slot ∈ slots settings document, ∃ body,
      Describes ⟨settings, .map document, specName, base⟩ slot body stub := by
  obtain ⟨base, p, based, visited, rfl⟩ := compile_from_visits _ _ _ _ _ _ success
  refine ⟨base, based, fun stub member => ?_⟩
  exact (visits_described visited member).resolve_left List.not_mem_nil

-- Where a path begins with one slash, no slash stands in front of it, and none behind it but what fills a placeholder.
theorem server_path_leads_patterns (document server : Entries) (further : List Value) (url path : List Char)
    (servers : document.get "servers" = .list (.map server :: further))
    (first : server.get "url" = .str (String.ofList url)) (leads : Url.Leads url path) :
    ∃ base, basePath document = .ok base ∧ (∃ n, base.toList ++ List.replicate n '/' = path) ∧
      base.toList.getLast? ≠ some '/' ∧
      ∀ (generator : Generator) (issued : Nat) (settings : Settings) (specName : String) (c : Compilation),
        (compileFrom generator issued settings specName document).outcome = .ok c →
          ∀ stub ∈ c.stubs, ∃ site ∈ sites settings document, ∃ merged text,
            site.merged ⟨settings, .map document, specName, base⟩ = .ok merged ∧
            (site.filled ⟨settings, .map document, specName, base⟩ merged).1 = .ok text ∧
            stub.request.urlPattern = base ++ text ∧
            ∀ rest, site.path.toList = '/' :: rest → rest.head? ≠ some '/' →
              ∃ more, text.toList = '/' :: more ∧ (more.head? = some '/' → rest.head? = some '\x7b') := by
  have based := base_path_of_leads servers first leads
  obtain ⟨trimmed, last⟩ := trim_right_marks '/' path
  refine ⟨_, based, by rwa [String.toList_ofList], by rwa [String.toList_ofList], ?_⟩
  intro generator issued settings specName c success stub member
  obtain ⟨base, same, described⟩ := compiled_described success
  cases based.symm.trans same
  obtain ⟨slot, listed, body, describes⟩ := described stub member
  obtain ⟨merged, text, done, filled, pattern⟩ := describes.url
  refine ⟨slot.site, slot_site listed, merged, text, done, filled, pattern, fun rest rooted single => ?_⟩
  obtain ⟨more, chars, slash⟩ := PathTemplate.filled_slash rooted filled
  exact ⟨more, chars, fun doubled => (slash doubled).resolve_left single⟩

def quayUrl : List Char :=
  "svn+Ssh-2.0://API.quay-1:8443/v1:a//?to=//x/?#/y//#".toList

def quay : Entries :=
  let answers := Value.map [(.str "200", .map [])]
  let id := Value.map [(.str "name", .str "id"), (.str "in", .str "path"), (.str "example", .int 7)]
  [(.str "servers", .list [.map [(.str "url", .str (String.ofList quayUrl))], .int 5]),
    (.str "paths", .map [(.str "/ships/{id}", .map [
      (.str "get", .map [(.str "parameters", .list [id]), (.str "responses", answers)])])])]

theorem quay_leads : Url.Leads quayUrl "/v1:a//".toList := by
  have named : Url.IsScheme "svn+Ssh-2.0".toList := by decide +kernel
  have host : Url.IsHost "API.quay-1:8443".toList := by decide +kernel
  have plain : Url.IsPath "/v1:a//".toList := by decide +kernel
  have asked : Url.IsTail '?' "?to=//x/?".toList := by decide +kernel
  have part : Url.IsTail '#' "#/y//#".toList := by decide +kernel
  exact .absolute named host plain asked part

theorem quay_path_leads_patterns :
    Url.Leads quayUrl "/v1:a//".toList ∧ ∃ base, basePath quay = .ok base ∧
      (∃ n, base.toList ++ List.replicate n '/' = "/v1:a//".toList) ∧ base.toList.getLast? ≠ some '/' ∧
      ∃ c stub, compile {} "quay" quay = .ok c ∧ stub ∈ c.stubs ∧
        ∃ text more, stub.request.urlPattern = base ++ text ∧ text.toList = '/' :: more ∧ more.head? ≠ some '/' := by
  obtain ⟨base, based, trimmed, last, patterns⟩ := server_path_leads_patterns quay
    [(.str "url", .str (String.ofList quayUrl))] [.int 5] quayUrl "/v1:a//".toList rfl rfl quay_leads
  have compiled : ((compile {} "quay" quay).toOption.map fun c => c.stubs.length) = some 1 := by
    decide +kernel
  obtain ⟨c, found, one⟩ := Option.map_eq_some_iff.mp compiled
  obtain ⟨stub, only⟩ := List.length_eq_one_iff.mp one
  have success := to_option_some found
  have member : stub ∈ c.stubs := only ▸ List.mem_singleton_self stub
  obtain ⟨site, listed, merged, text, -, -, pattern, joined⟩ :=
    patterns (Generator.start {}) 0 {} "quay" c success stub member
  have paths : (sites {} quay).map Site.path = ["/ships/{id}"] := by decide +kernel
  have path : site.path = "/ships/{id}" := List.mem_singleton.mp (paths ▸ List.mem_map_of_mem listed)
  have rooted : site.path.toList = '/' :: "ships/{id}".toList := by rw [path]; decide +kernel
  obtain ⟨more, chars, slash⟩ := joined _ rooted (by decide)
  refine ⟨quay_leads, base, based, trimmed, last, c, stub, success, member, text, more, pattern, chars, ?_⟩
  intro doubled
  exact absurd (slash doubled) (by decide)

end Compile

end ApiStubs
