import ApiStubs.Proofs.ServerPath
import ApiStubs.Proofs.WrittenNumber

/- The statuses of a compilation. Each stub has the status that the response key of its slot means, and a key that
   means none is refused. A key may write any integer, so that a status may lie outside the status codes: a compilation
   keeps to them where its keys do. -/

set_option autoImplicit false

namespace ApiStubs.Response

open ApiStubs.Decimal ApiStubs.Text

theorem code_status (settings : Settings) {key : String} {n : Nat} (high : n ≤ 599)
    (code : trim isBlank key.toList = digits n) : statusOf settings key = .ok n := by
  have short : (digits n).length ≤ 3 := (Nat.length_toDigits_le_iff (by decide) (by decide)).mpr (by omega)
  have writes : WritesInteger (trim isBlank key.toList) n := by
    rw [code]
    exact .unsigned (magnitude_written n (Nat.le_trans short (by decide)))
  exact status_of_means (.number writes)

theorem status_within_codes {settings : Settings} {key : String} {s : Int} (means : Means settings key s)
    (codes : ∀ n, WritesInteger (trim isBlank key.toList) n → 100 ≤ n ∧ n ≤ 599) :
    s = settings.defaultStatus ∨ 100 ≤ s ∧ s ≤ 599 := by
  cases means with
  | other => exact .inl rfl
  | range => exact .inr (by omega)
  | number writes => exact .inr (codes s writes)

end ApiStubs.Response

namespace ApiStubs.Compile

open ApiStubs.Decimal ApiStubs.Text

theorem slots_mean (generator : Generator) (issued : Nat) (settings : Settings) (specName : String) (document : Entries)
    (c : Compilation) (success : (compileFrom generator issued settings specName document).outcome = .ok c) :
    List.Forall₂ (fun slot stub => Response.Means settings slot.key.display stub.response.status)
      (slots settings document) c.stubs := by
  obtain ⟨base, p, -, visited, rfl⟩ := compile_from_visits _ _ _ _ _ _ success
  obtain ⟨-, bodies, stubs, -, added, paired, described⟩ := visits_describe _ _ _ _ _ visited
  have firsts : ((slots settings document).zip bodies).map Prod.fst = slots settings document :=
    List.map_fst_zip (by omega)
  have all : p.stubs = stubs := by simpa [Progress.start] using added
  rw [← firsts, List.forall₂_map_left_iff, Progress.result, all]
  exact described.imp fun _ _ describes => (Response.status_of_iff _ _ _).mp describes.status

theorem statuses_of_keys (settings : Settings) :
    (∀ key s, Response.statusOf settings key = .ok s ↔ Response.Means settings key s) ∧
    (∀ key e, Response.statusOf settings key = .error e ↔
      e = .statusKey key ∧ ∀ s, ¬ Response.Means settings key s) ∧
    (∀ (key : String) (n : Nat), 100 ≤ n → n ≤ 599 → trim isBlank key.toList = digits n →
      Response.statusOf settings key = .ok n) ∧
    ∀ generator issued specName document c,
      (compileFrom generator issued settings specName document).outcome = .ok c →
      List.Forall₂ (fun slot stub => Response.Means settings slot.key.display stub.response.status)
        (slots settings document) c.stubs ∧
      ((∀ slot ∈ slots settings document, ∀ n, WritesInteger (trim isBlank slot.key.display.toList) n →
          100 ≤ n ∧ n ≤ 599) →
        ∀ stub ∈ c.stubs, stub.response.status = settings.defaultStatus ∨
          100 ≤ stub.response.status ∧ stub.response.status ≤ 599) := by
  refine ⟨Response.status_of_iff settings, Response.status_of_error_iff settings,
    fun _ _ _ high code => Response.code_status settings high code, ?_⟩
  intro generator issued specName document c success
  refine ⟨slots_mean _ _ _ _ _ _ success, fun codes stub member => ?_⟩
  obtain ⟨base, -, described⟩ := compiled_described success
  obtain ⟨slot, listed, body, describes⟩ := described stub member
  exact Response.status_within_codes ((Response.status_of_iff _ _ _).mp describes.status) (codes slot listed)

theorem shop_statuses :
    compile {} "shop" shop = .ok shopStubs ∧
      (∀ slot ∈ slots {} shop, ∀ n, WritesInteger (trim isBlank slot.key.display.toList) n → 100 ≤ n ∧ n ≤ 599) ∧
      (∀ stub ∈ shopStubs.stubs, stub.response.status = 500 ∨
        100 ≤ stub.response.status ∧ stub.response.status ≤ 599) ∧
      trim isBlank " 404".toList = digits 404 ∧ Response.statusOf {} " 404" = .ok 404 := by
  obtain ⟨-, -, codes, compiled⟩ := statuses_of_keys {}
  have bounds : ∀ slot ∈ slots {} shop, (readInteger 10 (trim isBlank slot.key.display.toList)).all
      (fun n => decide (100 ≤ n ∧ n ≤ 599)) = true := by decide
  have written : ∀ slot ∈ slots {} shop, ∀ n, WritesInteger (trim isBlank slot.key.display.toList) n →
      100 ≤ n ∧ n ≤ 599 := by
    intro slot member n writes
    have within := bounds slot member
    rw [(Response.integer_after_blanks _ n).mpr writes] at within
    exact of_decide_eq_true within
  have trimmed : trim isBlank " 404".toList = digits 404 := rfl
  have statuses := (compiled (Generator.start {}) 0 "shop" shop shopStubs shop_compiles).2 written
  exact ⟨shop_compiles, written, statuses, trimmed, codes " 404" 404 (by decide) (by decide) trimmed⟩

def unsent : Entries :=
  [(.str "paths", .map [(.str "/pets", .map [(.str "get", .map [
    (.str "responses", .map [(.str "-1", .map [])])])])])]

def unsentStubs : Compilation :=
  ⟨"spec", [⟨"id-1", ⟨"GET", "/pets", []⟩, ⟨-1, none, none⟩⟩], [], []⟩

-- A key that writes a number below every code.
theorem negative_status_compiled :
    ¬ ∀ (generator : Generator) (issued : Nat) (settings : Settings) (specName : String) (document : Entries)
        (c : Compilation), (compileFrom generator issued settings specName document).outcome = .ok c → ∀ stub ∈ c.stubs,
        stub.response.status = settings.defaultStatus ∨ 100 ≤ stub.response.status ∧ stub.response.status ≤ 599 := by
  intro within
  have compiled : compile {} "spec" unsent = .ok unsentStubs :=
    to_option_some (by decide +kernel)
  have status := within (Generator.start {}) 0 _ _ _ _ compiled _ List.mem_cons_self
  revert status
  decide

end ApiStubs.Compile
