import ApiStubs.Proofs.Publication
import ApiStubs.Proofs.Store.Asked
import Mathlib.Data.List.Infix

/- Where the outputs of a compilation go. The names of its files are single steps of a path, whatever the document
   says, so that writing them asks for nothing outside of the directories given for them, and changes nothing there
   but for directories that are missing on the way. -/

set_option autoImplicit false

namespace ApiStubs

open ApiStubs.Decimal

namespace SpecName

theorem or_default_named (name : String) : orDefault name ≠ "" := by
  unfold orDefault
  split
  · decide
  · next named => exact named

theorem or_default_free {name : String} (free : '/' ∉ name.toList) : '/' ∉ (orDefault name).toList := by
  unfold orDefault
  split
  · decide
  · exact free

theorem stem_of_text_free (s : String) : '/' ∉ (Path.ofText s).stem.toList := by
  have steps := (Path.of_text_proper s).steps
  by_cases none : (Path.ofText s).parts = []
  · have blank : (Path.ofText s).name = "" := by rw [Path.name, none, List.getLastD_nil]
    rw [Path.stem, blank]
    decide
  · refine Path.stem_free _ (steps _ ?_)
    rw [Path.name, List.getLastD_eq_getLast?, List.getLast?_eq_some_getLast none]
    exact List.getLast_mem none

theorem of_source_named {source name : String} (named : ofSource? source = some name) :
    name ≠ "" ∧ '/' ∉ name.toList := by
  have given (s : String) : orDefault (Path.ofText s).stem ≠ "" ∧ '/' ∉ (orDefault (Path.ofText s).stem).toList :=
    ⟨or_default_named _, or_default_free (stem_of_text_free s)⟩
  unfold ofSource? at named
  split at named
  · obtain rfl := Option.some.inj named
    decide
  · split at named
    · obtain ⟨path, -, rfl⟩ := Option.map_eq_some_iff.mp named
      exact given _
    · obtain rfl := Option.some.inj named
      exact given source

end SpecName

namespace Store

theorem draft_name_file {name : String} (n : Nat) (free : '/' ∉ name.toList) : FileName (draftName name n) := by
  have letters : '/' ∉ digits n := fun member => by
    have bounds := mem_digits_code member
    exact absurd bounds.1 (by decide)
  refine file_name_long ?_ (by simp [draftName]; omega)
  simp [draftName, draftLetters, natText, free, letters]

-- Every place that is different holds one of the targets, or is a new directory on the way to them.
def Confined (directory : Place) (targets : List Path) (s t : Store) : Prop :=
  ∀ place, t.node place ≠ s.node place →
    (∃ p ∈ targets, place = placeOf directory p) ∨
      (s.node place = none ∧ t.node place = some .directory ∧ ∃ p ∈ targets, OnWay directory p.parent place)

section

variable {disturbance : Disturbance} {directory : Place} {targets : List Path} {s t u : Store}

theorem confined_refl (directory : Place) (targets : List Path) (s : Store) : Confined directory targets s s :=
  fun _ different => absurd rfl different

theorem confined_trans (first : Confined directory targets s t) (second : Confined directory targets t u) :
    Confined directory targets s u := by
  intro place different
  by_cases later : u.node place = t.node place
  · rw [later] at different ⊢
    exact first place different
  · rcases second place later with target | ⟨vacant, made, way⟩
    · exact .inl target
    · by_cases early : t.node place = s.node place
      · exact .inr ⟨early ▸ vacant, made, way⟩
      · rcases first place early with target | ⟨-, earlier, -⟩
        · exact .inl target
        · rw [vacant] at earlier
          cases earlier

theorem grown_confined {p : Path} (member : p ∈ targets) (grown : Grown (OnWay directory p.parent) s t) :
    Confined directory targets s t := by
  intro place different
  rcases grown place with same | ⟨vacant, made, way⟩
  · exact absurd same different
  · exact .inr ⟨vacant, made, p, member, way⟩

theorem overlaid_confined {p : Path} {content : ByteArray} (member : p ∈ targets)
    (overlaid : Overlaid directory [(p, content)] s t) : Confined directory targets s t := by
  intro place different
  by_cases here : place = placeOf directory p
  · exact .inl ⟨p, member, here⟩
  · rcases overlaid.others place (by simpa using here) with same | ⟨vacant, made, w, inside, way⟩
    · exact absurd same different
    · cases List.mem_singleton.mp inside
      exact .inr ⟨vacant, made, p, member, way⟩

theorem passes_confined {written : List (Path × ByteArray)} (passed : Passes disturbance directory written s t)
    (within : ∀ w ∈ written, w.1 ∈ targets) : Confined directory targets s t := by
  induction passed with
  | nothing => exact confined_refl directory targets _
  | @write w rest s _ _ first _ ih =>
      obtain ⟨own, others⟩ := List.forall_mem_cons.mp within
      have overlaid := good_of_ran (replace_ends disturbance directory w.1 w.2 s) first
      exact confined_trans (overlaid_confined own overlaid) (ih others)

theorem stops_confined {written : List (Path × ByteArray)} {w : Path × ByteArray} {fault : FileFault}
    (stopped : Stops disturbance directory written w s fault t) (within : ∀ v ∈ written, v.1 ∈ targets)
    (own : w.1 ∈ targets) : Confined directory targets s t := by
  obtain ⟨between, passed, failed⟩ := stopped
  have grown := bad_of_failed (replace_ends disturbance directory w.1 w.2 between) failed
  exact confined_trans (passes_confined passed within) (grown_confined own grown)

end

end Store

namespace Publish

open Store (Alike Asked Confined Disturbance FileName OnWay Operation placeOf)

-- What may be asked for: directories on the way to some directories, and files under a single name in these.
inductive Within (directory : Place) (outputs : List Path) : Operation → Prop where
  | makeDirectory {p : Path} {place : Place} (output : p ∈ outputs) (way : OnWay directory p place) :
      Within directory outputs (.makeDirectory place)
  | create {p : Path} {name : String} (output : p ∈ outputs) (file : FileName name) :
      Within directory outputs (.create (placeOf directory p ++ [name]))
  | write {p : Path} {name : String} (content : ByteArray) (output : p ∈ outputs) (file : FileName name) :
      Within directory outputs (.write (placeOf directory p ++ [name]) content)
  | sync {p : Path} {name : String} (output : p ∈ outputs) (file : FileName name) :
      Within directory outputs (.sync (placeOf directory p ++ [name]))
  | rename {p : Path} {draft name : String} (output : p ∈ outputs) (drafted : FileName draft) (file : FileName name) :
      Within directory outputs (.rename (placeOf directory p ++ [draft]) (placeOf directory p ++ [name]))

section

variable {disturbance other : Disturbance} {outputs : List Path} {directory : Place}

theorem asked_within {p : Path} {name : String} {operation : Operation} (output : p ∈ outputs) (file : FileName name)
    (asked : Asked directory (p.child name) operation) : Within directory outputs operation := by
  have parent : (p.child name).parent = p := by simp [Path.child_step p file.step, Path.parent]
  have named : (p.child name).name = name := Path.child_name p file.step
  have drafted (n : Nat) : FileName (Store.draftName name n) := Store.draft_name_file n file.step.2
  have draft (n : Nat) : Store.draftPlace directory (p.child name) n =
      placeOf directory p ++ [Store.draftName name n] := by
    rw [Store.draftPlace, parent, named]
  cases asked with
  | makeDirectory way => exact .makeDirectory output (parent ▸ way)
  | create n => exact draft n ▸ .create output (drafted n)
  | write n content => exact draft n ▸ .write content output (drafted n)
  | sync n => exact draft n ▸ .sync output (drafted n)
  | rename n =>
      rw [draft n, Store.place_child directory p file]
      exact .rename output (drafted n) file

theorem replace_within (alike : Alike (Within directory outputs) disturbance other) {p : Path} {name : String}
    (output : p ∈ outputs) (file : FileName name) (content : ByteArray) :
    Store.replace disturbance directory (p.child name) content =
      Store.replace other directory (p.child name) content :=
  Store.replace_same (fun operation asked => alike operation (asked_within output file asked)) content

theorem write_bodies_within {host : Host} {files : Path}
    (alike : Alike (Within host.place outputs) disturbance other) (output : files ∈ outputs) (bodies : List BodyFile)
    (named : ∀ file ∈ bodies, FileName file.name) :
    writeBodies disturbance host files bodies = writeBodies other host files bodies := by
  induction bodies with
  | nil => rfl
  | cons file rest ih =>
      obtain ⟨own, others⟩ := List.forall_mem_cons.mp named
      simp only [writeBodies, bodyPath, replace_within alike output own, ih others]

theorem write_within {host : Host} {stubs : Path} {files : Option Path} {c : Compilation}
    (alike : Alike (Within host.place [stubs, filesDirectory stubs files]) disturbance other)
    (stub : FileName (stubFileName c.name)) (named : ∀ file ∈ c.files, FileName file.name) :
    write disturbance host stubs files c = write other host stubs files c := by
  have member : filesDirectory stubs files ∈ [stubs, filesDirectory stubs files] := by simp
  have bodies := write_bodies_within alike member c.files named
  have last (text : String) := replace_within alike List.mem_cons_self stub (text ++ "\n").toUTF8
  simp only [write, writeStubs, stubPath, bodies, last]

end

theorem contents_places {stubs files : Path} {c : Compilation} (stub : FileName (stubFileName c.name))
    (named : ∀ file ∈ c.files, FileName file.name) {p : Path} (member : p ∈ (contents stubs files c).map (·.1)) :
    ∃ output ∈ [stubs, files], ∃ name, FileName name ∧ p = output.child name := by
  obtain ⟨w, inside, rfl⟩ := List.mem_map.mp member
  rcases List.mem_append.mp inside with body | last
  · obtain ⟨file, listed, rfl⟩ := List.mem_map.mp body
    exact ⟨files, by simp, file.name, named file listed, rfl⟩
  · cases List.mem_singleton.mp last
    exact ⟨stubs, List.mem_cons_self, stubFileName c.name, stub, rfl⟩

theorem write_confined (disturbance : Disturbance) (host : Host) (stubs : Path) (files : Option Path) (c : Compilation)
    (desk : Desk) :
    Ends (write disturbance host stubs files c) desk
      (fun paths after => paths = (contents stubs (filesDirectory stubs files) c).map (·.1) ∧
        Confined host.place ((contents stubs (filesDirectory stubs files) c).map (·.1)) desk.store after.store)
      (fun _ after =>
        Confined host.place ((contents stubs (filesDirectory stubs files) c).map (·.1)) desk.store after.store) := by
  refine ends_imp (write_run disturbance host stubs files c desk) ?_ ?_
  · rintro paths after ⟨same, passed⟩
    exact ⟨same, Store.passes_confined passed fun w member => List.mem_map_of_mem member⟩
  · rintro e after (⟨fault, written, w, left, -, split, stopped⟩ | ⟨-, passed⟩)
    · rw [split]
      refine Store.stops_confined stopped (fun v early => ?_) ?_
      · exact List.mem_map_of_mem (List.mem_append_left _ early)
      · exact List.mem_map_of_mem (List.mem_append_right _ List.mem_cons_self)
    · exact Store.passes_confined passed fun w member => List.mem_map_of_mem (List.mem_append_left _ member)

theorem outputs_stay_in_directories :
    (∀ source name, SpecName.ofSource? source = some name → name ≠ "" ∧ '/' ∉ name.toList) ∧
      ∀ (generator : Generator) (issued : Nat) (settings : Settings) (specName : String) (document : Entries)
        (c : Compilation), '/' ∉ specName.toList →
        (compileFrom generator issued settings specName document).outcome = .ok c →
          c.name = specName ∧ FileName (stubFileName specName) ∧ (∀ file ∈ c.files, FileName file.name) ∧
            ∀ (host : Host) (stubs : Path) (files : Option Path),
              (∀ disturbance other, Alike (Within host.place [stubs, filesDirectory stubs files]) disturbance other →
                write disturbance host stubs files c = write other host stubs files c) ∧
              (∀ p ∈ (contents stubs (filesDirectory stubs files) c).map (·.1),
                ∃ output ∈ [stubs, filesDirectory stubs files], ∃ name, FileName name ∧ p = output.child name ∧
                  placeOf host.place p = placeOf host.place output ++ [name]) ∧
              ∀ disturbance desk, Ends (write disturbance host stubs files c) desk
                (fun paths after => paths = (contents stubs (filesDirectory stubs files) c).map (·.1) ∧
                  Confined host.place paths desk.store after.store)
                (fun _ after => Confined host.place ((contents stubs (filesDirectory stubs files) c).map (·.1))
                  desk.store after.store) := by
  refine ⟨fun source name named => SpecName.of_source_named named, ?_⟩
  intro generator issued settings specName document c free success
  obtain ⟨own, -, shaped⟩ := Compile.compiled_files success
  have stub : FileName (stubFileName specName) := stub_name_step free
  have named : ∀ file ∈ c.files, FileName file.name := by
    intro file member
    obtain ⟨text, use, status, same⟩ := shaped file member
    exact same ▸ Compile.body_name_step free status use
  refine ⟨own, stub, named, fun host stubs files => ⟨?_, ?_, ?_⟩⟩
  · exact fun disturbance other alike => write_within alike (own ▸ stub) named
  · intro p member
    obtain ⟨output, inside, name, file, rfl⟩ := contents_places (own ▸ stub) named member
    exact ⟨output, inside, name, file, rfl, Store.place_child _ _ file⟩
  · intro disturbance desk
    refine ends_imp (write_confined disturbance host stubs files c desk) ?_ fun _ _ confined => confined
    rintro paths after ⟨rfl, confined⟩
    exact ⟨rfl, confined⟩

-- No directory can be made beside the one that holds the outputs.
def noSibling : Disturbance
  | .makeDirectory place => if place = ["home", "bin"] then some .noSpace else none
  | _ => none

theorem shop_stays_in_directory :
    SpecName.ofSource? "http://shop.test/v1/../api.v2.json/?x=/y#/z" = some "api.v2" ∧ '/' ∉ "api.v2".toList ∧
      compile {} "shop" Compile.shop = .ok Compile.shopStubs ∧
      (∀ file ∈ Compile.shopStubs.files, FileName file.name) ∧
      write noSibling sampleHost sharedDirectory none Compile.shopStubs =
        write Store.undisturbed sampleHost sharedDirectory none Compile.shopStubs := by
  have named : SpecName.ofSource? "http://shop.test/v1/../api.v2.json/?x=/y#/z" = some "api.v2" := by decide +kernel
  have free : '/' ∉ "shop".toList := by decide
  obtain ⟨names, outputs⟩ := outputs_stay_in_directories
  obtain ⟨-, -, files, writes⟩ := outputs (Generator.start {}) 0 {} "shop" Compile.shop Compile.shopStubs free
    Compile.shop_compiles
  have alike : Alike (Within sampleHost.place [sharedDirectory, filesDirectory sharedDirectory none]) noSibling
      Store.undisturbed := by
    intro operation within
    cases within with
    | @makeDirectory p place output way =>
        have apart : place ≠ ["home", "bin"] := by
          obtain ⟨parts, front, rfl⟩ := way
          have inits : parts ∈ p.parts.inits := (List.mem_inits ..).mpr front
          have known : ∀ q ∈ [sharedDirectory, filesDirectory sharedDirectory none], ∀ parts ∈ q.parts.inits,
              placeOf sampleHost.place ⟨q.root, parts⟩ ≠ ["home", "bin"] := by decide +kernel
          exact known p output parts inits
        simp only [noSibling, if_neg apart, Store.undisturbed]
    | _ => rfl
  exact ⟨named, (names _ _ named).2, Compile.shop_compiles, files,
    (writes sampleHost sharedDirectory none).1 noSibling Store.undisturbed alike⟩

end Publish

end ApiStubs
