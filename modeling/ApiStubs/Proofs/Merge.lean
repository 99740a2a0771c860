import ApiStubs.Proofs.Parameter
import Mathlib.Data.List.Induction
import Mathlib.Data.List.Nodup

/- Merging the parameters of a path with those of an operation. For each pair of name and place there is one parameter,
   the last that is declared, those of the operation going first; the pairs stand in the order in which they are first
   met. Merging again what was merged changes nothing. -/

set_option autoImplicit false

namespace ApiStubs.Parameter

-- The mappings among nodes; whatever else a reference leads to declares no parameter.
def mappings (nodes : List Value) : List Entries :=
  nodes.filterMap fun node =>
    match node with
    | .map param => some param
    | _ => none

theorem mappings_nil : mappings [] = [] :=
  rfl

theorem mappings_cons (param : Entries) (nodes : List Value) :
    mappings (.map param :: nodes) = param :: mappings nodes :=
  rfl

theorem mappings_append (front back : List Value) : mappings (front ++ back) = mappings front ++ mappings back :=
  List.filterMap_append

theorem mappings_of_map (params : List Entries) : mappings (params.map .map) = params := by
  induction params with
  | nil => rfl
  | cons param rest ih => rw [List.map_cons, mappings_cons, ih]

theorem mem_mappings (param : Entries) (nodes : List Value) : param ∈ mappings nodes ↔ .map param ∈ nodes := by
  induction nodes with
  | nil => simp [mappings]
  | cons node rest ih => cases node <;> simp_all [mappings]

def pairOf (param : Entries) : Value × Value :=
  (param.get "name", param.get "in")

-- A text, or null as where there is nothing.
def Text (v : Value) : Prop :=
  v = .null ∨ ∃ s, v = .str s

def Textual (param : Entries) : Prop :=
  Text (param.get "name") ∧ Text (param.get "in")

def LastOf (declared : List Entries) (param : Entries) : Prop :=
  ∃ before after, declared = before ++ param :: after ∧ ∀ later ∈ after, pairOf later ≠ pairOf param

structure Merged (fromPath fromOperation merged : List Entries) : Prop where
  distinct : (merged.map pairOf).Nodup
  order : merged.map pairOf = ((fromPath ++ fromOperation).map pairOf).eraseDups
  kept : ∀ param, param ∈ merged ↔ LastOf fromOperation param ∨
    (∀ other ∈ fromOperation, pairOf other ≠ pairOf param) ∧ LastOf fromPath param

theorem text_key {v : Value} (text : Text v) : v.isKey = true := by
  rcases text with rfl | ⟨s, rfl⟩ <;> rfl

theorem text_same {v w : Value} (text : Text v) (other : Text w) : Value.sameKey v w = true ↔ v = w := by
  rcases text with rfl | ⟨s, rfl⟩ <;> rcases other with rfl | ⟨t, rfl⟩ <;>
    simp [Value.sameKey, Value.sameNumber, Value.asInt?]

theorem pair_same {param other : Entries} (textual : Textual param) (also : Textual other) :
    (identityOf param).same (identityOf other) = true ↔ pairOf param = pairOf other := by
  simp only [Identity.same, identityOf, pairOf, Bool.and_eq_true, text_same textual.1 also.1,
    text_same textual.2 also.2, Prod.mk.injEq]

section

variable {merged : List Entries} {param : Entries} (textual : ∀ p ∈ merged, Textual p) (also : Textual param)

include textual also

theorem override_new (fresh : pairOf param ∉ merged.map pairOf) : override merged param = merged ++ [param] := by
  induction merged with
  | nil => rfl
  | cons p rest ih =>
      obtain ⟨first, others⟩ := List.forall_mem_cons.mp textual
      rw [List.map_cons, List.mem_cons, not_or] at fresh
      have apart : ¬ (identityOf p).same (identityOf param) = true :=
        fun same => fresh.1 ((pair_same first also).mp same).symm
      rw [override, if_neg apart, ih others fresh.2]
      rfl

theorem override_pairs (known : pairOf param ∈ merged.map pairOf) :
    (override merged param).map pairOf = merged.map pairOf := by
  induction merged with
  | nil => cases known
  | cons p rest ih =>
      obtain ⟨first, others⟩ := List.forall_mem_cons.mp textual
      by_cases same : (identityOf p).same (identityOf param) = true
      · rw [override, if_pos same, List.map_cons, List.map_cons, (pair_same first also).mp same]
      · have later : pairOf param ∈ rest.map pairOf := by
          rcases List.mem_cons.mp known with here | later
          · exact absurd ((pair_same first also).mpr here.symm) same
          · exact later
        rw [override, if_neg same, List.map_cons, List.map_cons, ih others later]

theorem mem_override (distinct : (merged.map pairOf).Nodup) (p : Entries) :
    p ∈ override merged param ↔ p = param ∨ p ∈ merged ∧ pairOf p ≠ pairOf param := by
  induction merged with
  | nil => simp [override]
  | cons first rest ih =>
      obtain ⟨textualFirst, others⟩ := List.forall_mem_cons.mp textual
      obtain ⟨fresh, distinct⟩ := List.nodup_cons.mp distinct
      by_cases same : (identityOf first).same (identityOf param) = true
      · have pair := (pair_same textualFirst also).mp same
        have apart : ∀ q ∈ rest, pairOf q ≠ pairOf param :=
          fun q member equal => fresh (pair.trans equal.symm ▸ List.mem_map_of_mem member)
        rw [override, if_pos same, List.mem_cons, List.mem_cons]
        constructor
        · rintro (rfl | member)
          · exact .inl rfl
          · exact .inr ⟨.inr member, apart p member⟩
        · rintro (rfl | ⟨rfl | member, differs⟩)
          · exact .inl rfl
          · exact absurd pair differs
          · exact .inr member
      · have apart : pairOf first ≠ pairOf param := fun pair => same ((pair_same textualFirst also).mpr pair)
        rw [override, if_neg same, List.mem_cons, List.mem_cons, ih others distinct]
        constructor
        · rintro (rfl | rfl | ⟨member, differs⟩)
          · exact .inr ⟨.inl rfl, apart⟩
          · exact .inl rfl
          · exact .inr ⟨.inr member, differs⟩
        · rintro (rfl | ⟨rfl | member, differs⟩)
          · exact .inr (.inl rfl)
          · exact .inl rfl
          · exact .inr (.inr ⟨member, differs⟩)

theorem override_distinct (distinct : (merged.map pairOf).Nodup) : ((override merged param).map pairOf).Nodup := by
  by_cases known : pairOf param ∈ merged.map pairOf
  · rwa [override_pairs textual also known]
  · rw [override_new textual also known, List.map_append, List.nodup_append]
    refine ⟨distinct, by simp, ?_⟩
    rintro pair member _ single rfl
    exact known (List.mem_singleton.mp single ▸ member)

end

section

variable {merged declared : List Entries}

theorem last_of_cons (first : Entries) (rest : List Entries) (param : Entries) :
    LastOf (first :: rest) param ↔
      LastOf rest param ∨ (∀ later ∈ rest, pairOf later ≠ pairOf param) ∧ param = first := by
  constructor
  · rintro ⟨before, after, whole, last⟩
    cases before with
    | nil =>
        cases whole
        exact .inr ⟨last, rfl⟩
    | cons other before =>
        cases whole
        exact .inl ⟨before, after, rfl, last⟩
  · rintro (⟨before, after, rfl, last⟩ | ⟨last, rfl⟩)
    · exact ⟨first :: before, after, rfl, last⟩
    · exact ⟨[], rest, rfl, last⟩

theorem not_last_of_nil (param : Entries) : ¬ LastOf [] param := by
  rintro ⟨before, after, whole, -⟩
  simp at whole

theorem fold_textual (textual : ∀ p ∈ merged, Textual p) (also : ∀ p ∈ declared, Textual p) :
    ∀ p ∈ declared.foldl override merged, Textual p := by
  induction declared generalizing merged with
  | nil => exact textual
  | cons param rest ih =>
      obtain ⟨first, others⟩ := List.forall_mem_cons.mp also
      exact ih (override_all textual first) others

theorem fold_distinct (textual : ∀ p ∈ merged, Textual p) (also : ∀ p ∈ declared, Textual p)
    (distinct : (merged.map pairOf).Nodup) : ((declared.foldl override merged).map pairOf).Nodup := by
  induction declared generalizing merged with
  | nil => exact distinct
  | cons param rest ih =>
      obtain ⟨first, others⟩ := List.forall_mem_cons.mp also
      exact ih (override_all textual first) others (override_distinct textual first distinct)

-- A parameter is there in the end if it is declared last of its pair, or if nothing overrode it.
theorem mem_fold (textual : ∀ p ∈ merged, Textual p) (also : ∀ p ∈ declared, Textual p)
    (distinct : (merged.map pairOf).Nodup) (param : Entries) :
    param ∈ declared.foldl override merged ↔
      LastOf declared param ∨ (∀ other ∈ declared, pairOf other ≠ pairOf param) ∧ param ∈ merged := by
  induction declared generalizing merged with
  | nil => simp [not_last_of_nil]
  | cons next rest ih =>
      obtain ⟨first, others⟩ := List.forall_mem_cons.mp also
      rw [List.foldl_cons, ih (override_all textual first) others (override_distinct textual first distinct),
        mem_override textual first distinct, last_of_cons, List.forall_mem_cons]
      constructor
      · rintro (last | ⟨unmet, rfl | ⟨member, differs⟩⟩)
        · exact .inl (.inl last)
        · exact .inl (.inr ⟨unmet, rfl⟩)
        · exact .inr ⟨⟨Ne.symm differs, unmet⟩, member⟩
      · rintro ((last | ⟨unmet, rfl⟩) | ⟨⟨differs, unmet⟩, member⟩)
        · exact .inl last
        · exact .inr ⟨unmet, .inl rfl⟩
        · exact .inr ⟨unmet, .inr ⟨member, Ne.symm differs⟩⟩

theorem fold_order (also : ∀ p ∈ declared, Textual p) :
    (declared.foldl override []).map pairOf = (declared.map pairOf).eraseDups := by
  induction declared using List.reverseRecOn with
  | nil => rfl
  | append_singleton front param ih =>
      obtain ⟨before, last⟩ := List.forall_mem_append.mp also
      have textual : ∀ p ∈ front.foldl override [], Textual p := fold_textual (by simp) before
      have first : Textual param := last param (List.mem_singleton_self param)
      have order := ih before
      have met : pairOf param ∈ (front.foldl override []).map pairOf ↔ pairOf param ∈ front.map pairOf := by
        rw [order, List.mem_eraseDups]
      rw [List.foldl_concat, List.map_append, List.eraseDups_append, ← order]
      by_cases known : pairOf param ∈ (front.foldl override []).map pairOf
      · have removed : [pairOf param].removeAll (front.map pairOf) = [] := by
          simpa [List.removeAll] using met.mp known
        rw [override_pairs textual first known, List.map_singleton, removed, List.eraseDups_nil, List.append_nil]
      · have added : [pairOf param].removeAll (front.map pairOf) = [pairOf param] := by
          have fresh := mt met.mpr known
          simpa [List.removeAll] using fresh
        rw [override_new textual first known, List.map_append, List.map_singleton, added]
        rfl

theorem fold_kept (textual : ∀ p ∈ merged, Textual p) (also : ∀ p ∈ declared, Textual p)
    (known : ∀ p ∈ declared, pairOf p ∈ merged.map pairOf) :
    (declared.foldl override merged).map pairOf = merged.map pairOf := by
  induction declared generalizing merged with
  | nil => rfl
  | cons param rest ih =>
      obtain ⟨first, others⟩ := List.forall_mem_cons.mp also
      obtain ⟨here, later⟩ := List.forall_mem_cons.mp known
      have same := override_pairs textual first here
      rw [List.foldl_cons, ih (override_all textual first) others (same.symm ▸ later), same]

theorem fold_new (textual : ∀ p ∈ merged ++ declared, Textual p) (distinct : ((merged ++ declared).map pairOf).Nodup) :
    declared.foldl override merged = merged ++ declared := by
  induction declared generalizing merged with
  | nil => simp
  | cons param rest ih =>
      have whole : merged ++ param :: rest = merged ++ [param] ++ rest := by simp
      obtain ⟨before, after⟩ := List.forall_mem_append.mp textual
      have fresh : pairOf param ∉ merged.map pairOf := by
        intro member
        rw [List.map_append, List.nodup_append] at distinct
        exact distinct.2.2 _ member (pairOf param) (by simp) rfl
      rw [whole] at textual distinct ⊢
      rw [List.foldl_cons, override_new before (after param List.mem_cons_self) fresh, ih textual distinct]

-- Of two lists with the same pairs, each of them once, the one holds the other if it is made of its members.
theorem same_of_pairs {first second : List Entries} (distinct : (second.map pairOf).Nodup)
    (pairs : first.map pairOf = second.map pairOf) (inside : ∀ p ∈ first, p ∈ second) : first = second := by
  refine List.ext_getElem (by simpa using congrArg List.length pairs) fun i here there => ?_
  have pair : pairOf first[i] = pairOf second[i] := by
    simpa [here, there] using congrArg (·[i]?) pairs
  exact List.inj_on_of_nodup_map distinct (inside _ (List.getElem_mem here)) (List.getElem_mem there) pair

end

variable {settings : Settings} {document : Value}

def Resolves (settings : Settings) (document raw node : Value) : Prop :=
  Value.resolved document settings.maxReferenceDepth raw = .ok node

theorem mapping_plain {raws nodes : List Value} (resolved : List.Forall₂ (Resolves settings document) raws nodes) :
    ∀ p ∈ mappings nodes, (Value.map p).isReference = false := by
  have plain : List.Forall₂ (fun _ node => node.isReference = false) raws nodes :=
    resolved.imp fun raw node found => Reference.resolved_ok_not_reference document raw node _ found
  intro p member
  exact forall_mem_of_related plain (.map p) ((mem_mappings p nodes).mp member)

theorem merge_into_resolved {raws nodes : List Value} (merged : List Entries)
    (resolved : List.Forall₂ (Resolves settings document) raws nodes) (textual : ∀ p ∈ mappings nodes, Textual p) :
    mergeInto settings document merged raws = .ok ((mappings nodes).foldl override merged) := by
  induction resolved generalizing merged with
  | nil => rfl
  | @cons raw node raws nodes first _ ih =>
      have found : Value.resolved document settings.maxReferenceDepth raw = .ok node := first
      cases node with
      | map param =>
          rw [mappings_cons] at textual ⊢
          obtain ⟨here, others⟩ := List.forall_mem_cons.mp textual
          have keyed : ((identityOf param).name.isKey && (identityOf param).place.isKey) = true := by
            simp only [identityOf, text_key here.1, text_key here.2, Bool.and_self]
          rw [mergeInto, found]
          simp only [bind, Except.bind, keyed, if_true]
          exact ih (override merged param) others
      | _ =>
          rw [mergeInto, found]
          exact ih merged textual

theorem merge_resolved {ofPath ofOperation pathNodes operationNodes : List Value}
    (path : List.Forall₂ (Resolves settings document) ofPath pathNodes)
    (operation : List.Forall₂ (Resolves settings document) ofOperation operationNodes)
    (textual : ∀ p ∈ mappings pathNodes ++ mappings operationNodes, Textual p) :
    merge settings document ofPath ofOperation =
      .ok ((mappings operationNodes).foldl override ((mappings pathNodes).foldl override [])) := by
  rw [← mappings_append] at textual
  rw [merge, merge_into_resolved [] (List.rel_append path operation) textual, mappings_append, List.foldl_append]

theorem merged_resolves {merged : List Entries} (plain : ∀ p ∈ merged, (Value.map p).isReference = false) :
    List.Forall₂ (Resolves settings document) (merged.map .map) (merged.map .map) := by
  refine List.forall₂_same.mpr fun node member => ?_
  obtain ⟨p, inside, rfl⟩ := List.mem_map.mp member
  exact Reference.resolved_of_not_reference document _ _ (plain p inside)

theorem path_textual {fromPath : List Entries} (path : ∀ p ∈ fromPath, Textual p) :
    ∀ p ∈ fromPath.foldl override [], Textual p :=
  fold_textual (by simp) path

theorem path_distinct {fromPath : List Entries} (path : ∀ p ∈ fromPath, Textual p) :
    ((fromPath.foldl override []).map pairOf).Nodup :=
  fold_distinct (by simp) path List.nodup_nil

theorem fold_merged {fromPath fromOperation : List Entries} (path : ∀ p ∈ fromPath, Textual p)
    (operation : ∀ p ∈ fromOperation, Textual p) :
    Merged fromPath fromOperation (fromOperation.foldl override (fromPath.foldl override [])) where
  distinct := fold_distinct (path_textual path) operation (path_distinct path)
  order := by
    rw [← List.foldl_append]
    exact fold_order (List.forall_mem_append.mpr ⟨path, operation⟩)
  kept := by
    intro param
    have fromNothing : param ∈ fromPath.foldl override [] ↔ LastOf fromPath param := by
      have nothing : ∀ p ∈ ([] : List Entries), Textual p := by simp
      rw [mem_fold nothing path List.nodup_nil]
      simp
    rw [mem_fold (path_textual path) operation (path_distinct path), fromNothing]

-- Every parameter of the operation is met in what was merged, and those that are declared last are the ones kept.
theorem merged_again {fromPath fromOperation merged : List Entries} (textual : ∀ p ∈ merged, Textual p)
    (operation : ∀ p ∈ fromOperation, Textual p) (kept : Merged fromPath fromOperation merged) :
    fromOperation.foldl override merged = merged := by
  have known : ∀ p ∈ fromOperation, pairOf p ∈ merged.map pairOf := by
    intro p member
    rw [kept.order, List.mem_eraseDups]
    exact List.mem_map_of_mem (List.mem_append_right fromPath member)
  refine same_of_pairs kept.distinct (fold_kept textual operation known) fun p member => ?_
  rcases (mem_fold textual operation kept.distinct p).mp member with last | ⟨-, before⟩
  · exact (kept.kept p).mpr (.inl last)
  · exact before

theorem merge_keeps_last_declared {ofPath ofOperation pathNodes operationNodes : List Value}
    (path : List.Forall₂ (Resolves settings document) ofPath pathNodes)
    (operation : List.Forall₂ (Resolves settings document) ofOperation operationNodes)
    (textual : ∀ p ∈ mappings pathNodes ++ mappings operationNodes, Textual p) :
    ∃ merged, merge settings document ofPath ofOperation = .ok merged ∧
      (∀ p ∈ merged, (Value.map p).isReference = false) ∧
      Merged (mappings pathNodes) (mappings operationNodes) merged ∧
      merge settings document (merged.map .map) [] = .ok merged ∧
      merge settings document [] (merged.map .map) = .ok merged ∧
      merge settings document (merged.map .map) ofOperation = .ok merged := by
  obtain ⟨pathTextual, operationTextual⟩ := List.forall_mem_append.mp textual
  have done := merge_resolved path operation textual
  have kept := fold_merged pathTextual operationTextual
  have mergedTextual := fold_textual (path_textual pathTextual) operationTextual
  generalize (mappings operationNodes).foldl override ((mappings pathNodes).foldl override []) = merged
    at done kept mergedTextual
  have plain : ∀ p ∈ merged, (Value.map p).isReference = false := by
    intro p member
    rcases (kept.kept p).mp member with ⟨before, after, whole, -⟩ | ⟨-, before, after, whole, -⟩
    · exact mapping_plain operation p (by simp [whole])
    · exact mapping_plain path p (by simp [whole])
  have again : List.Forall₂ (Resolves settings document) (merged.map .map) (merged.map .map) := merged_resolves plain
  have alone : merged.foldl override [] = merged := fold_new mergedTextual kept.distinct
  have twice := merged_again mergedTextual operationTextual kept
  refine ⟨merged, done, plain, kept, ?_, ?_, ?_⟩
  · rw [merge_resolved again .nil (by simpa [mappings_nil, mappings_of_map] using mergedTextual), mappings_of_map, alone]
    rfl
  · rw [merge_resolved .nil again (by simpa [mappings_nil, mappings_of_map] using mergedTextual), mappings_of_map]
    exact congrArg Except.ok alone
  · have both := List.forall_mem_append.mpr ⟨mergedTextual, operationTextual⟩
    rw [merge_resolved again operation (by simpa [mappings_of_map] using both), mappings_of_map, alone, twice]

def numbered (name place : String) (number : Int) : Entries :=
  [(.str "name", .str name), (.str "in", .str place), (.str "example", .int number)]

def listing : Value :=
  .map [(.str "Limit", .map (numbered "limit" "query" 2))]

def sharedParameters : List Value :=
  [.map (numbered "limit" "query" 1), .str "limit", .map [(.str "$ref", .str "#/Limit")]]

def sharedNodes : List Value :=
  [.map (numbered "limit" "query" 1), .str "limit", .map (numbered "limit" "query" 2)]

def ownParameters : List Value :=
  [.map (numbered "page" "query" 3), .map (numbered "limit" "query" 4), .map (numbered "limit" "header" 5)]

-- The limit of the operation takes the place of the one that a reference leads to.
theorem overridden_limit_merged :
    List.Forall₂ (Resolves {} listing) sharedParameters sharedNodes ∧
      List.Forall₂ (Resolves {} listing) ownParameters ownParameters ∧
      (∀ p ∈ mappings sharedNodes ++ mappings ownParameters, Textual p) ∧
      ∃ merged, merge {} listing sharedParameters ownParameters = .ok merged ∧
        merged.map pairOf =
          [(.str "limit", .str "query"), (.str "page", .str "query"), (.str "limit", .str "header")] ∧
        numbered "limit" "query" 4 ∈ merged ∧
        merge {} listing (merged.map .map) ownParameters = .ok merged := by
  have limit : Resolves {} listing (.map [(.str "$ref", .str "#/Limit")]) (.map (numbered "limit" "query" 2)) :=
    to_option_some (by decide +kernel)
  have shared : List.Forall₂ (Resolves {} listing) sharedParameters sharedNodes :=
    .cons rfl (.cons rfl (.cons limit .nil))
  have own : List.Forall₂ (Resolves {} listing) ownParameters ownParameters :=
    .cons rfl (.cons rfl (.cons rfl .nil))
  have named (name place : String) (number : Int) : Textual (numbered name place number) :=
    ⟨.inr ⟨name, rfl⟩, .inr ⟨place, rfl⟩⟩
  have textual : ∀ p ∈ mappings sharedNodes ++ mappings ownParameters, Textual p := by
    simp [sharedNodes, ownParameters, mappings, named]
  obtain ⟨merged, done, -, kept, -, -, again⟩ := merge_keeps_last_declared shared own textual
  have order : ((mappings sharedNodes ++ mappings ownParameters).map pairOf).eraseDups =
      [(.str "limit", .str "query"), (.str "page", .str "query"), (.str "limit", .str "header")] := by
    decide +kernel
  have last : LastOf (mappings ownParameters) (numbered "limit" "query" 4) :=
    ⟨[numbered "page" "query" 3], [numbered "limit" "header" 5], rfl, by decide +kernel⟩
  exact ⟨shared, own, textual, merged, done, kept.order.trans order, (kept.kept _).mpr (.inl last), again⟩

end ApiStubs.Parameter
