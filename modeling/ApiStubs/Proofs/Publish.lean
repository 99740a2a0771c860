import ApiStubs.Proofs.Store.Replace
import ApiStubs.Proofs.StubDocument
import ApiStubs.Publish

/- Publishing a compilation. The document of the stubs is the last file that is written, so that after a writing
   that went well it is there as it was written, and the stubs read from it are those of the compilation. -/

set_option autoImplicit false

namespace ApiStubs

namespace Job

theorem ran_lift {α : Type} (result : Except Error α) (a : α) (before after : Desk) :
    Ran (lift result) before a after ↔ result = .ok a ∧ before = after :=
  ran_result result a before after

theorem of_fault_ok {α : Type} (result : Except FileFault α) (a : α) : ofFault result = .ok a ↔ result = .ok a := by
  cases result <;> simp [ofFault]

theorem ran_change {α : Type} (action : Store.Action α) (a : α) (before after : Desk) :
    Ran (change action) before a after ↔
      ∃ store, Ran action before.store a store ∧ after = { before with store := store } := by
  cases outcome : action.run.run before.store with
  | mk result store =>
      have ran : ∀ other, Ran action before.store a other ↔ result = .ok a ∧ other = store := by
        intro other
        rw [Ran, outcome]
        constructor
        · intro same
          cases same
          exact ⟨rfl, rfl⟩
        · rintro ⟨rfl, rfl⟩
          rfl
      simp only [change, ran_bind, ran_get, ran]
      constructor
      · rintro ⟨_, _, ⟨rfl, rfl⟩, rest⟩
        rw [outcome] at rest
        simp only [ran_bind, ran_set, ran_lift, of_fault_ok] at rest
        obtain ⟨_, _, rfl, done, rfl⟩ := rest
        exact ⟨store, ⟨done, rfl⟩, rfl⟩
      · rintro ⟨_, ⟨done, rfl⟩, rfl⟩
        refine ⟨before, before, ⟨rfl, rfl⟩, ?_⟩
        rw [outcome]
        simp only [ran_bind, ran_set, ran_lift, of_fault_ok]
        exact ⟨⟨⟩, _, rfl, done, rfl⟩

end Job

namespace Publish

theorem ran_write_stubs (disturbance : Store.Disturbance) (host : Host) (stubs p : Path) (c : Compilation)
    (before after : Desk) (done : Ran (writeStubs disturbance host stubs c) before p after) :
    p = stubPath stubs c.name ∧ (∃ text, Stub.documentText c.stubs = .ok text) ∧
      Ran (Store.replace disturbance host.place p (Stub.dump c.stubs).toUTF8) before.store () after.store := by
  unfold writeStubs at done
  simp only [ran_bind, Job.ran_lift, Job.ran_change, Job.record, Job.write, ran_modify, ran_pure] at done
  obtain ⟨text, _, ⟨told, rfl⟩, _, _, ⟨store, replaced, rfl⟩, _, _, rfl, rfl, rfl⟩ := done
  rw [Stub.dump_of_text told]
  exact ⟨rfl, ⟨text, told⟩, replaced⟩

theorem ran_write (disturbance : Store.Disturbance) (host : Host) (stubs : Path) (files : Option Path)
    (c : Compilation) (before after : Desk) (paths : List Path)
    (done : Ran (write disturbance host stubs files c) before paths after) :
    ∃ bodies between,
      Ran (writeBodies disturbance host (filesDirectory stubs files) c.files) before bodies between ∧
      paths = bodies ++ [stubPath stubs c.name] ∧ (∃ text, Stub.documentText c.stubs = .ok text) ∧
        Ran (Store.replace disturbance host.place (stubPath stubs c.name) (Stub.dump c.stubs).toUTF8) between.store ()
          after.store := by
  unfold write at done
  simp only [ran_bind, ran_pure] at done
  obtain ⟨bodies, between, first, p, _, last, rfl, rfl⟩ := done
  obtain ⟨rfl, told, replaced⟩ := ran_write_stubs disturbance host stubs p c between _ last
  exact ⟨bodies, between, first, rfl, told, replaced⟩

theorem stubs_of_content {host : Host} {store : Store} {p : Path} {stubs : List Stub}
    (formed : ∀ s ∈ stubs, s.WellFormed) (content : store.read host.place p = .ok (Stub.dump stubs).toUTF8) :
    read host store p = .ok stubs := by
  simp only [read, content, Stub.dump_encoded stubs formed, Stub.dump_parsed stubs formed]

theorem stubs_of_replaced (disturbance : Store.Disturbance) (host : Host) (p : Path) (stubs : List Stub)
    (before after : Store) (formed : ∀ s ∈ stubs, s.WellFormed)
    (replaced : Ran (Store.replace disturbance host.place p (Stub.dump stubs).toUTF8) before () after) :
    read host after p = .ok stubs :=
  stubs_of_content formed (Store.replace_read disturbance host.place p _ before after () replaced)

theorem stub_documents_read_back (stubs : List Stub) (formed : ∀ s ∈ stubs, s.WellFormed) :
    Stub.parse (Stub.dump stubs) = .ok stubs ∧
      Json.read (Stub.dump stubs) = .ok (.map [(.str "mappings", .list (stubs.map Stub.toValue))]) ∧
      ∀ (disturbance : Store.Disturbance) (host : Host) (directory : Path) (files : Option Path) (c : Compilation)
        (before after : Desk) (paths : List Path), c.stubs = stubs →
        Ran (write disturbance host directory files c) before paths after →
          paths.getLast? = some (stubPath directory c.name) ∧
            read host after.store (stubPath directory c.name) = .ok stubs := by
  refine ⟨Stub.dump_parsed stubs formed, Stub.dump_document stubs formed, ?_⟩
  intro disturbance host directory files c before after paths same done
  subst same
  obtain ⟨bodies, between, -, rfl, -, replaced⟩ :=
    ran_write disturbance host directory files c before after paths done
  exact ⟨List.getLast?_concat, stubs_of_replaced disturbance host _ c.stubs between.store after.store formed replaced⟩

-- Quotes, a backslash, line ends, a control character and characters beyond ASCII; headers absent, empty and given.
def sampleStubs : List Stub := [
  ⟨"id-1", ⟨"GET", "/a\"b\\c", [("X \"quoted\"", "two\nlines\r\n"), ("Größe", "\u0007 😀")]⟩,
    ⟨200, some [], some "a.json"⟩⟩,
  ⟨"", ⟨"get", "", []⟩, ⟨-12345678901234567890, none, none⟩⟩,
  ⟨"id-2", ⟨"PUT", "/", [("", "")]⟩, ⟨0, some [("B", "\t"), ("A", "")], some ""⟩⟩]

-- A name with a slash in it leads into a directory that has to be made.
def sampleCompilation : Compilation :=
  ⟨"shop/v1", sampleStubs, [⟨"a.json", "[]".toUTF8⟩], []⟩

def sampleHost : Host :=
  ⟨"Linux", ⟨"/", ["home"]⟩, [], ⟨⟨2024, 1, 1⟩, 0, 0, 0, 0, none⟩, .text "", fun _ => .unreachable "", false⟩

def sampleDesk : Desk :=
  ⟨⟨[(["home"], .directory)]⟩, 0, []⟩

def sampleDirectory : Path :=
  ⟨"", ["out", "mappings"]⟩

theorem sample_stubs_formed : ∀ s ∈ sampleStubs, s.WellFormed := by
  intro s member
  simp only [sampleStubs, List.mem_cons, List.not_mem_nil, or_false] at member
  rcases member with rfl | rfl | rfl <;> exact ⟨by decide, by decide, by decide⟩

theorem sample_written :
    ∃ paths after,
      Ran (write Store.undisturbed sampleHost sampleDirectory none sampleCompilation) sampleDesk paths after := by
  have succeeded : ((write Store.undisturbed sampleHost sampleDirectory none sampleCompilation).run.run
      sampleDesk).1.toOption.isSome = true := by decide +kernel
  unfold Ran
  generalize (write Store.undisturbed sampleHost sampleDirectory none sampleCompilation).run.run sampleDesk = outcome
    at succeeded ⊢
  obtain ⟨result, after⟩ := outcome
  cases result with
  | error e => cases succeeded
  | ok paths => exact ⟨paths, after, rfl⟩

theorem sample_stubs_read_back :
    (∀ s ∈ sampleStubs, s.WellFormed) ∧ Stub.parse (Stub.dump sampleStubs) = .ok sampleStubs ∧
      ∃ paths after,
        Ran (write Store.undisturbed sampleHost sampleDirectory none sampleCompilation) sampleDesk paths after ∧
          read sampleHost after.store (stubPath sampleDirectory "shop/v1") = .ok sampleStubs := by
  obtain ⟨parsed, -, stored⟩ := stub_documents_read_back sampleStubs sample_stubs_formed
  obtain ⟨paths, after, done⟩ := sample_written
  refine ⟨sample_stubs_formed, parsed, paths, after, done, ?_⟩
  exact (stored Store.undisturbed sampleHost sampleDirectory none sampleCompilation sampleDesk after paths rfl done).2

end Publish

end ApiStubs
