import ApiStubs.Proofs.Digits
import ApiStubs.Proofs.Store.Directory
import Mathlib.Data.List.Perm.Subperm

/- Replacing a file is done as a whole or not at all. Whichever operation fails, and with whatever part of a write done,
   no file is changed and none is left behind; without a failure the path holds the content. A name for the draft is
   always found, since the names that are tried are one more than the store has nodes. -/

set_option autoImplicit false

namespace ApiStubs.Store

open ApiStubs.Decimal

variable {disturbance : Disturbance} {directory : Place} {p : Path} {content : ByteArray} {s t : Store}

theorem draft_letters_injective {m n : Nat} (same : draftLetters m = draftLetters n) : m = n := by
  have value (k : Nat) : Nat.ofDigitChars 10 (draftLetters k).toList 0 = k := by
    simp [draftLetters, natText, digits, Nat.ofDigitChars_append, Nat.ofDigitChars_ten_toDigits]
  rw [← value m, same, value n]

theorem draft_name_injective {name : String} {m n : Nat} (same : draftName name m = draftName name n) : m = n := by
  have letters := congrArg String.toList same
  simp only [draftName, String.toList_append, List.append_assoc, List.append_cancel_left_eq] at letters
  exact draft_letters_injective (String.toList_injective (List.append_cancel_right letters))

-- All names in front of the one that is found are taken, and it is taken only if it is the last that is tried.
theorem free_draft_first (s : Store) (directory : Place) (name : String) (tries n : Nat) :
    ∃ k ≤ tries, freeDraft s directory name tries n = directory ++ [draftName name (n + k)] ∧
      (∀ j < k, (s.node (directory ++ [draftName name (n + j)])).isSome = true) ∧
      ((s.node (directory ++ [draftName name (n + k)])).isSome = true → k = tries) := by
  induction tries generalizing n with
  | zero => exact ⟨0, Nat.le_refl _, rfl, fun j below => absurd below (Nat.not_lt_zero j), fun _ => rfl⟩
  | succ tries ih =>
      rw [freeDraft]
      by_cases first : (s.node (directory ++ [draftName name n])).isSome = true
      · obtain ⟨k, within, named, before, last⟩ := ih (n + 1)
        have next (j : Nat) : n + 1 + j = n + (j + 1) := by omega
        rw [next] at named last
        refine ⟨k + 1, Nat.succ_le_succ within, by simp only [if_pos first, named], fun j below => ?_,
          fun taken => congrArg (· + 1) (last taken)⟩
        cases j with
        | zero => exact first
        | succ j => exact next j ▸ before j (Nat.lt_of_succ_lt_succ below)
      · exact ⟨0, Nat.zero_le _, by simp only [if_neg first]; rfl, fun j below => absurd below (Nat.not_lt_zero j),
          fun taken => absurd taken first⟩

theorem draft_vacant (s : Store) (directory : Place) (name : String) :
    ∃ n ≤ s.nodes.length, draftFor s directory name = directory ++ [draftName name n] ∧
      s.node (directory ++ [draftName name n]) = none := by
  obtain ⟨k, within, named, before, last⟩ := free_draft_first s directory name s.nodes.length 0
  rw [Nat.zero_add] at named last
  refine ⟨k, within, named, ?_⟩
  by_contra taken
  have here : (s.node (directory ++ [draftName name k])).isSome = true := Option.isSome_iff_ne_none.mpr taken
  have all : ∀ j ≤ s.nodes.length, (s.node (directory ++ [draftName name j])).isSome = true := by
    intro j tried
    rcases Nat.lt_or_eq_of_le (last here ▸ tried) with below | rfl
    · simpa only [Nat.zero_add] using before j below
    · exact here
  let place (n : Nat) : Place := directory ++ [draftName name n]
  have distinct : ((List.range (s.nodes.length + 1)).map place).Nodup := by
    refine List.Nodup.map (fun m n same => ?_) List.nodup_range
    exact draft_name_injective (List.singleton_inj.mp (List.append_cancel_left same))
  have inside : (List.range (s.nodes.length + 1)).map place ⊆ s.nodes.map (·.1) := by
    intro other member
    obtain ⟨n, ranged, rfl⟩ := List.mem_map.mp member
    have tried := all n (Nat.le_of_lt_succ (List.mem_range.mp ranged))
    obtain ⟨node, held⟩ := Option.isSome_iff_exists.mp tried
    rw [Store.node, if_neg (by simp)] at held
    obtain ⟨before, after, whole, -⟩ := List.lookup_eq_some_iff.mp held
    simp [whole, place]
  have shorter := (List.subperm_of_subset distinct inside).length_le
  simp only [List.length_map, List.length_range] at shorter
  omega

theorem draft_free (content : ByteArray) {draft target : Place} (vacant : s.node draft = none) :
    ((s.put draft (.file ⟨#[]⟩)).put draft (.file content)).node target ≠ some .directory ↔
      s.node target ≠ some .directory := by
  by_cases same : target = draft
  · simp [same, node_put_self _ _ _ (vacant_named vacant), vacant]
  · rw [node_put_other _ _ _ _ same, node_put_other _ _ _ _ same]

-- Replacing a file in a directory that is there, from beginning to end.
theorem ran_replace_there (there : s.stat directory p.parent = .ok .directory) :
    Ran (replace undisturbed directory p content) s () t ↔
      ∃ folder target, s.locate directory p.parent = .ok folder ∧ s.locate directory p = .ok target ∧
        nameFits ((draftFor s folder p.name).getLastD "") = true ∧ s.node target ≠ some .directory ∧
        t = (s.put (draftFor s folder p.name) (.file ⟨#[]⟩)).swapped (draftFor s folder p.name) target content := by
  have kept : Ran (makeDirectories undisturbed directory p.parent) s () s := make_directories_kept there
  have vacant (folder : Place) : s.node (draftFor s folder p.name) = none := by
    obtain ⟨n, -, own, vacant⟩ := draft_vacant s folder p.name
    rw [own, vacant]
  unfold replace
  simp only [ran_bind, ran_get, ran_lift, ran_perform, ran_catch]
  constructor
  · rintro ⟨_, ready, made, _, _, ⟨rfl, rfl⟩, folder, _, ⟨entered, rfl⟩, target, _, ⟨located, rfl⟩, _, opened,
      ⟨-, created⟩, finished⟩
    cases made.symm.trans kept
    obtain ⟨fits, -, rfl⟩ := (create_at_ok ..).mp created
    rcases finished with finished | ⟨fault, _, -, _, _, -, thrown⟩
    · obtain ⟨free, rfl⟩ := ran_finish _ _ _ _ _ _ _ (vacant_named (vacant folder)) finished
      exact ⟨folder, target, entered, located, fits, (draft_free content (vacant folder)).mp free, rfl⟩
    · exact absurd thrown (ran_throw fault () _ t)
  · rintro ⟨folder, target, entered, located, fits, free, rfl⟩
    have created := (create_at_ok s _ _ (.file ⟨#[]⟩)).mpr ⟨fits, vacant folder, rfl⟩
    have renamed := (rename_to_ok ..).mpr ⟨(draft_free content (vacant folder)).mpr free, _,
      node_put_self _ _ _ (vacant_named (vacant folder)), rfl⟩
    refine ⟨(), s, kept, s, s, ⟨rfl, rfl⟩, folder, s, ⟨entered, rfl⟩, target, s, ⟨located, rfl⟩, (), _, ⟨rfl, created⟩,
      .inl ?_⟩
    simp only [finish, ran_bind, ran_perform]
    exact ⟨(), _, ⟨rfl, rfl⟩, (), _, ⟨rfl, rfl⟩, rfl, renamed⟩

-- A path that can be written: its directory is there, no directory has its name, and the names of drafts fit.
structure Writable (s : Store) (directory : Place) (p : Path) : Prop where
  parent : s.stat directory p.parent = .ok .directory
  name : FileName p.name
  free : s.node (placeOf directory p) ≠ some .directory
  drafts : ∀ n ≤ s.nodes.length, nameFits (draftName p.name n) = true

theorem writable_located (writable : Writable s directory p) :
    s.locate directory p = .ok (placeOf directory p) := by
  obtain ⟨folder, located, entered⟩ := (stat_iff ..).mp writable.parent
  have fits : nameFits p.name = true := by
    have draft := writable.drafts 0 (Nat.zero_le _)
    simp only [nameFits, draftName, String.utf8ByteSize_append, decide_eq_true_eq] at draft ⊢
    omega
  have named : p.parts ≠ [] := by
    intro none
    have step := writable.name.step
    simp [Path.Step, Path.isPart, Path.name, none] at step
  have parts : p.parts = p.parent.parts ++ [p.name] := by
    rw [Path.parent, Path.name, List.getLastD_eq_getLast?, List.getLast?_eq_some_getLast named]
    exact (List.dropLast_append_getLast named).symm
  have whole : p.parent.child p.name = p := by
    rw [Path.child_step _ writable.name.step, ← parts]
    rfl
  have found := locate_child s directory p.parent folder writable.name fits located entered
  rw [whole] at found
  rw [found, locate_place _ _ _ _ found]

theorem replace_undisturbed (none : ∀ operation, disturbance operation = none) (writable : Writable s directory p) :
    ∃ t, Ran (replace disturbance directory p content) s () t := by
  obtain rfl : disturbance = undisturbed := funext none
  obtain ⟨folder, located, -⟩ := (stat_iff ..).mp writable.parent
  obtain ⟨n, within, draft, -⟩ := draft_vacant s folder p.name
  have fits : nameFits ((draftFor s folder p.name).getLastD "") = true := by
    rw [draft, List.getLastD_concat]
    exact writable.drafts n within
  exact ⟨_, (ran_replace_there writable.parent).mpr ⟨folder, _, located, writable_located writable, fits,
    writable.free, rfl⟩⟩

-- A place is as it was, or nothing was there and it is a directory on the way to a path.
def Spared (directory : Place) (p : Path) (s t : Store) (place : Place) : Prop :=
  t.node place = s.node place ∨ (s.node place = none ∧ t.node place = some .directory ∧ OnWay directory p.parent place)

theorem replace_all_or_nothing (disturbance : Disturbance) (directory : Place) (p : Path) (content : ByteArray)
    (s : Store) :
    ((∃ t, (replace disturbance directory p content).run.run s = (.ok (), t) ∧ t.read directory p = .ok content ∧
        ∀ place, place ≠ placeOf directory p → SameFile place s t ∧ Spared directory p s t place) ∨
      (∃ fault t, (replace disturbance directory p content).run.run s = (.error fault, t) ∧
        ∀ place, SameFile place s t ∧ Spared directory p s t place)) ∧
      ((∀ operation, disturbance operation = none) → Writable s directory p →
        ∃ t, (replace disturbance directory p content).run.run s = (.ok (), t)) := by
  refine ⟨?_, replace_undisturbed⟩
  have ends := replace_ends disturbance directory p content s
  cases run : (replace disturbance directory p content).run.run s with
  | mk result t =>
      cases result with
      | ok u =>
          have overlaid := good_of_ran ends run
          refine .inl ⟨t, rfl, replace_read disturbance directory p content s t u run, fun place other => ?_⟩
          have apart : ∀ w ∈ [(p, content)], place ≠ placeOf directory w.1 := by simpa using other
          refine ⟨overlaid_same_file overlaid apart, ?_⟩
          simpa [Spared] using overlaid.others place apart
      | error fault =>
          have grown := bad_of_failed ends run
          exact .inr ⟨fault, t, rfl, fun place => ⟨grown_same_file grown place, grown place⟩⟩

def shelf : Store :=
  ⟨[(["home"], .directory), (["home", "notes.txt"], .file "older".toUTF8)]⟩

def notes : Path :=
  ⟨"", ["notes.txt"]⟩

-- Three bytes of a content still go into the draft.
def fullDisk : Disturbance
  | .write _ content => if 3 < content.size then some .noSpace else none
  | _ => none

theorem shelf_replaced_or_kept :
    Writable shelf ["home"] notes ∧
      (∃ t, (replace undisturbed ["home"] notes "newer".toUTF8).run.run shelf = (.ok (), t) ∧
        t.read ["home"] notes = .ok "newer".toUTF8) ∧
      (∃ fault t, (replace fullDisk ["home"] notes "newer".toUTF8).run.run shelf = (.error fault, t) ∧
        t.node ["home", "notes.txt"] = some (.file "older".toUTF8)) := by
  have writable : Writable shelf ["home"] notes := by
    refine ⟨by decide +kernel, by decide +kernel, by decide +kernel, ?_⟩
    have few : ∀ n < 3, nameFits (draftName notes.name n) = true := by decide +kernel
    exact fun n within => few n (Nat.lt_succ_of_le within)
  obtain ⟨done, succeeds⟩ := replace_all_or_nothing undisturbed ["home"] notes "newer".toUTF8 shelf
  obtain ⟨t, ran⟩ := succeeds (fun _ => rfl) writable
  obtain ⟨failed, -⟩ := replace_all_or_nothing fullDisk ["home"] notes "newer".toUTF8 shelf
  refine ⟨writable, ⟨t, ran, ?_⟩, ?_⟩
  · rcases done with ⟨u, same, read, -⟩ | ⟨fault, u, same, -⟩
    · cases ran.symm.trans same
      exact read
    · cases ran.symm.trans same
  · have refused : ((replace fullDisk ["home"] notes "newer".toUTF8).run.run shelf).1.toOption.isSome = false := by
      decide +kernel
    rcases failed with ⟨u, same, -⟩ | ⟨fault, u, same, kept⟩
    · rw [same] at refused
      cases refused
    · exact ⟨fault, u, same, ((kept ["home", "notes.txt"]).1 "older".toUTF8).mp (by decide +kernel)⟩

end ApiStubs.Store
