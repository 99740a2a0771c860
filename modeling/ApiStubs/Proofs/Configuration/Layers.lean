import ApiStubs.Proofs.Configuration.Loaded

/- The settings in force. They are taken field by field from the strongest layer that gives the field: the command,
   the variables, the project's file, the user's file, and the defaults behind them all. -/

set_option autoImplicit false

namespace ApiStubs.Configuration

open ApiStubs.Decimal
open Settings (Field)
open Store (Grown OnWay)

def userEntries (host : Host) (store : Store) : Entries :=
  entriesAt store host.place (fileIn host.configDirectory)

def projectEntries (host : Host) (store : Store) : Entries :=
  entriesAt store host.place (projectFile host)

inductive Layer where
  | flags
  | variables
  | project
  | user
deriving DecidableEq

-- What a layer gives for a field, if it gives the field at all.
def Layer.given (host : Host) (store : Store) (flags : Flags) : Layer → Field → Option Value
  | .flags, .seed => flags.seed.map .int
  | .flags, .locale => flags.locale.map .str
  | .variables, .seed => ((host.setting? "SPECMOCK_SEED").bind integer?).map .int
  | .variables, .locale => (host.setting? "SPECMOCK_LOCALE").map .str
  | .project, f => (Config.Field.generator f).writtenIn (projectEntries host store)
  | .user, f => (Config.Field.generator f).writtenIn (userEntries host store)
  | _, _ => none

-- What the first of some layers gives that gives the field at all.
def strongest (host : Host) (store : Store) (flags : Flags) (f : Field) : List Layer → Option Value
  | [] => none
  | layer :: weaker => (layer.given host store flags f).or (strongest host store flags f weaker)

def settled (host : Host) (store : Store) (flags : Flags) (f : Field) : Value :=
  (strongest host store flags f [.flags, .variables, .project, .user]).getD (f.valueIn {})

theorem load_project_returns (host : Host) (store : Store) :
    Returns (fun project => project.getD [] = projectEntries host store ∧ Json.Tidy (.map (projectEntries host store)))
      (Troubled store host.place (projectFile host)) (loadProject host store) := by
  unfold loadProject
  simp only
  split
  · next fault unknown => exact .error (.inr ⟨fault, rfl, unknown⟩)
  · next nothing =>
    obtain ⟨fault, unread⟩ := Store.is_file_false nothing
    rw [projectEntries, entriesAt, unread]
    exact .ok ⟨rfl, Json.tidy_map Json.tidy_nil⟩
  · next file =>
    obtain ⟨content, read⟩ := Store.is_file_true file
    simp only [read]
    cases parsed : readJson content with
    | error reason =>
        simp only
        exact .error (.inl ⟨rfl, rfl⟩)
    | ok v =>
        cases v with
        | map entries =>
            have same : projectEntries host store = entries := by
              rw [projectEntries, entriesAt, read]
              simp only [parsed]
            rw [same]
            exact .ok ⟨rfl, read_json_tidy parsed⟩
        | _ => exact .error (.inl ⟨rfl, rfl⟩)

-- A part that counts as false is no mapping, or an empty one.
theorem overrides_returns (store : Store) (place : Place) (p : Path) {project : Entries}
    (tidy : Json.Tidy (.map project)) :
    Returns (fun overriding : Entries => overriding.names.Nodup ∧
      ∀ f : Field, (Config.Field.generator f).writtenIn project = overriding.get? f.name) (Troubled store place p)
      (overrides project) := by
  have written (f : Field) : (Config.Field.generator f).writtenIn project =
      ((Config.partOf? project "generator").getD []).get? f.name := rfl
  simp only [written]
  unfold overrides Entries.get Config.partOf?
  cases found : project.get? "generator" with
  | none => exact .ok ⟨List.nodup_nil, fun _ => rfl⟩
  | some v =>
      simp only [Option.getD_some]
      by_cases given : v.isTrue = true
      · rw [if_pos given]
        cases v with
        | map inner =>
            have below : Below (.map project) (.map inner) := .entry (Pointer.entry_mem _ _ _ found) .self
            exact .ok ⟨tidy.distinct inner below, fun _ => rfl⟩
        | _ => exact .error (.inl ⟨rfl, rfl⟩)
      · rw [if_neg given]
        refine .ok ⟨List.nodup_nil, fun f => ?_⟩
        cases v with
        | map inner =>
            cases inner with
            | nil => rfl
            | cons e rest => exact absurd rfl given
        | _ => rfl

theorem get_put_some (entries : Entries) (name other : String) (v : Option Value) :
    (putSome entries name v).get? other = if name = other then v.or (entries.get? other) else entries.get? other := by
  cases v with
  | none => simp [putSome]
  | some v => simp [putSome, Entries.get_put]

-- A seed that is given by its variable is a number.
def SeedReadable (host : Host) : Prop :=
  ∀ text, host.setting? "SPECMOCK_SEED" = some text → ∃ n, integer? text = some n

theorem seed_of_returns (store : Store) (place : Place) (p : Path) (host : Host) :
    Returns (fun seed => seed = (host.setting? "SPECMOCK_SEED").bind integer? ∧ SeedReadable host)
      (Troubled store place p) (seedOf host) := by
  unfold seedOf SeedReadable
  split
  · next unset =>
    rw [unset]
    exact .ok ⟨rfl, nofun⟩
  · next s set =>
    rw [set]
    split
    · next n number =>
      refine .ok ⟨number.symm, ?_⟩
      rintro _ ⟨⟩
      exact ⟨n, number⟩
    · exact .error (.inl ⟨rfl, rfl⟩)

-- The layers above the user's, put one over the other as mappings, are read in the order in which they cover.
theorem layered_get {host : Host} {store : Store} {overriding : Entries} (flags : Flags) (user : Settings)
    (distinct : overriding.names.Nodup)
    (held : ∀ f : Field, (Config.Field.generator f).writtenIn (projectEntries host store) = overriding.get? f.name)
    (f : Field) :
    (layered user overriding ((host.setting? "SPECMOCK_SEED").bind integer?) (host.setting? "SPECMOCK_LOCALE")
      flags).get? f.name =
      some ((strongest host store flags f [.flags, .variables, .project]).getD (f.valueIn user)) := by
  have project := held f
  simp only [layered, get_put_some, Entries.get_put_all _ _ distinct, Settings.field_written, ← project]
  cases f <;> simp [Field.name, strongest, Layer.given]

theorem resolve_over_returns (host : Host) (store : Store) (flags : Flags) (user : Config) :
    Returns (fun r => SeedReadable host ∧ r.format = flags.format.getD user.format.name ∧ r.settings.Bounded ∧
        ∀ f : Field, f.kind.check ((strongest host store flags f [.flags, .variables, .project]).getD
          (f.valueIn user.generator)) = .ok (f.valueIn r.settings))
      (Troubled store host.place (projectFile host)) (resolveOver host store flags user) := by
  unfold resolveOver
  refine returns_bind (load_project_returns host store) ?_
  rintro project ⟨same, tidy⟩
  rw [same]
  refine returns_bind (overrides_returns _ _ _ tidy) ?_
  rintro overriding ⟨distinct, written⟩
  refine returns_bind (seed_of_returns _ _ _ host) ?_
  rintro seed ⟨rfl, readable⟩
  simp only
  split
  · next settings checked =>
    refine .ok ⟨readable, rfl, Settings.read_bounded checked, fun f => ?_⟩
    have passes := (Settings.of_entries_iff ..).mp checked f
    rwa [layered_get flags user.generator distinct written] at passes
  · exact .error (.inl ⟨rfl, rfl⟩)

theorem resolve_ends (host : Host) (flags : Flags) (desk : Desk) :
    Ends (resolve host flags) desk (fun _ after => Made host desk.store after.store)
      (fun e after => Unread host desk.store e after.store) := by
  unfold resolve
  refine ends_bind (load_ends host desk) ?_
  rintro user after ⟨made, -⟩
  refine Job.ends_store_bind (ends_result (fun _ _ => made) fun e failed => ?_)
  exact .troubled _ (.inr rfl) made (returns_known (resolve_over_returns ..) failed)

theorem ran_resolve (host : Host) (flags : Flags) (r : Resolution) (before after : Desk) :
    Ran (resolve host flags) before r after ↔
      ∃ user, Ran (load host) before user after ∧ resolveOver host after.store flags user = .ok r := by
  simp only [resolve, ran_bind, Job.ran_store, Job.ran_lift]
  constructor
  · rintro ⟨user, _, loaded, _, _, ⟨rfl, rfl⟩, resolved, rfl⟩
    exact ⟨user, loaded, resolved⟩
  · rintro ⟨user, loaded, resolved⟩
    exact ⟨user, after, loaded, _, after, ⟨rfl, rfl⟩, resolved, rfl⟩

-- A default that is covered by nothing is checked twice, and the second check changes nothing.
theorem settled_checked {host : Host} {store : Store} {flags : Flags} {user : Config} {r : Resolution}
    (loaded : loadFrom store host.place (fileIn host.configDirectory) = .ok user)
    (resolved : resolveOver host store flags user = .ok r) (f : Field) :
    f.kind.check (settled host store flags f) = .ok (f.valueIn r.settings) := by
  have passes := (returns_result (resolve_over_returns ..) resolved).2.2.2 f
  have split : settled host store flags f =
      (strongest host store flags f [.flags, .variables, .project]).getD
        ((Layer.user.given host store flags f).getD (f.valueIn {})) := by
    simp [settled, strongest]
  rw [split]
  cases above : strongest host store flags f [.flags, .variables, .project] with
  | some v => rwa [above] at passes
  | none =>
      rw [above, Option.getD_none] at passes
      rw [Settings.own_check passes, Option.getD_none]
      exact loaded_fields loaded (.generator f)

def writtenFormat (host : Host) (store : Store) : Option Value :=
  Config.Field.format.writtenIn (userEntries host store)

-- What a resolution is: every field is checked as its strongest layer gives it, and the format is the command's own
-- or that of the user's file. A seed of the variables that is no number does not count as left out: nothing resolves.
structure Resolves (host : Host) (store : Store) (flags : Flags) (r : Resolution) : Prop where
  fields : ∀ f : Field, f.kind.check (settled host store flags f) = .ok (f.valueIn r.settings)
  format : ∃ user : OutputFormat,
    Config.Field.format.check ((writtenFormat host store).getD (.str "auto")) = .ok (.str user.name) ∧
      r.format = flags.format.getD user.name
  seed : SeedReadable host
  bounds : r.settings.Bounded

theorem resolves_field {host other : Host} {store others : Store} {flags more : Flags} {r s : Resolution}
    (first : Resolves host store flags r) (second : Resolves other others more s) {f : Field}
    (same : ∀ layer : Layer, layer.given host store flags f = layer.given other others more f) :
    f.valueIn r.settings = f.valueIn s.settings := by
  have settles : settled host store flags f = settled other others more f := by
    simp only [settled, strongest, same]
  exact Except.ok.inj ((first.fields f).symm.trans (settles ▸ second.fields f))

theorem resolves_format {host other : Host} {store others : Store} {flags more : Flags} {r s : Resolution}
    (first : Resolves host store flags r) (second : Resolves other others more s) (given : flags.format = more.format)
    (same : writtenFormat host store = writtenFormat other others) : r.format = s.format := by
  obtain ⟨user, checked, formed⟩ := first.format
  obtain ⟨user', checked', formed'⟩ := second.format
  have alike : user.name = user'.name := Value.str.inj (Except.ok.inj (checked.symm.trans (same ▸ checked')))
  rw [formed, formed', given, alike]

theorem resolve_resolves {host : Host} {flags : Flags} {r : Resolution} {before after : Desk}
    (ran : Ran (resolve host flags) before r after) :
    Grown (OnWay host.place host.configDirectory) before.store after.store ∧ Resolves host after.store flags r := by
  obtain ⟨user, loads, resolved⟩ := (ran_resolve ..).mp ran
  obtain ⟨ready, made, loaded, rfl⟩ := (ran_load ..).mp loads
  obtain ⟨seed, format, bounds, -⟩ := returns_result (resolve_over_returns ..) resolved
  exact ⟨made_grown made, settled_checked loaded resolved, ⟨user.format, loaded_fields loaded .format, format⟩, seed,
    bounds⟩

-- A field that every layer gives alike is the same in two runs, whatever the layers give for other fields.
theorem resolve_takes_strongest (host : Host) (flags : Flags) (r : Resolution) (before after : Desk)
    (ran : Ran (resolve host flags) before r after) :
    Grown (OnWay host.place host.configDirectory) before.store after.store ∧ Resolves host after.store flags r ∧
      ∀ (other : Host) (more : Flags) (s : Resolution) (start finish : Desk),
        Ran (resolve other more) start s finish →
          (∀ f : Field,
            (∀ layer : Layer, layer.given host after.store flags f = layer.given other finish.store more f) →
              f.valueIn r.settings = f.valueIn s.settings) ∧
          (flags.format = more.format → writtenFormat host after.store = writtenFormat other finish.store →
            r.format = s.format) := by
  obtain ⟨grown, first⟩ := resolve_resolves ran
  refine ⟨grown, first, fun other more s start finish also => ?_⟩
  have second := (resolve_resolves also).2
  exact ⟨fun f same => resolves_field first second same, resolves_format first second⟩

def layeredHost : Host :=
  { Publish.sampleHost with
    environment := [("HOME", "/home"), ("SPECMOCK_SEED", " 7"), ("SPECMOCK_LOCALE", "")] }

def ownText : String :=
  "\x7b\"generator\": \x7b\"seed\": 1, \"array_cardinality\": \"3\"\x7d, \"output\": \x7b\"format\": \"json\"\x7d\x7d"

def projectText : String :=
  "\x7b\"generator\": \x7b\"seed\": null, \"locale\": \"de_DE\", \"max_schema_depth\": 5.0\x7d\x7d"

-- The project clears the seed, and the variable sets it again.
def layeredDesk : Desk :=
  ⟨⟨[
    (["home"], .directory), (["home", ".config"], .directory), (["home", ".config", "specmock"], .directory),
    (["home", ".config", "specmock", "config.json"], .file ownText.toUTF8),
    (["home", "specmock.json"], .file projectText.toUTF8)]⟩, 0, []⟩

def layeredRun (locale : Option String) : Except Error Resolution × Desk :=
  (resolve layeredHost { locale := locale }).run.run layeredDesk

def layeredResult (locale : String) : Resolution :=
  ⟨{ seed := some 7, locale := locale, arrayCardinality := 3, maxSchemaDepth := 5 }, "json"⟩

theorem layered_runs (locale : Option String) (member : locale ∈ [none, some "fr_FR"]) :
    (layeredRun locale).1.toOption = some (layeredResult (locale.getD "de_DE")) ∧
      (layeredRun locale).2.store = layeredDesk.store := by
  revert locale
  decide +kernel

-- The locale of the command covers that of the project, and leaves all other fields as they are.
theorem locale_covers_locale :
    ∃ r s after finish, Ran (resolve layeredHost {}) layeredDesk r after ∧
      Ran (resolve layeredHost { locale := some "fr_FR" }) layeredDesk s finish ∧
      Resolves layeredHost after.store {} r ∧ r = layeredResult "de_DE" ∧ s = layeredResult "fr_FR" ∧
      ∀ f : Field, f ≠ .locale → f.valueIn r.settings = f.valueIn s.settings := by
  obtain ⟨default, unchanged⟩ := layered_runs none (by simp)
  obtain ⟨french, alsoUnchanged⟩ := layered_runs (some "fr_FR") (by simp)
  have first : Ran (resolve layeredHost {}) layeredDesk (layeredResult "de_DE") (layeredRun none).2 :=
    ran_of_result default
  have second : Ran (resolve layeredHost { locale := some "fr_FR" }) layeredDesk (layeredResult "fr_FR")
      (layeredRun (some "fr_FR")).2 := ran_of_result french
  obtain ⟨-, resolves, apart⟩ := resolve_takes_strongest layeredHost {} _ layeredDesk _ first
  refine ⟨_, _, _, _, first, second, resolves, rfl, rfl, fun f other => ?_⟩
  refine (apart layeredHost _ _ _ _ second).1 f fun layer => ?_
  rw [unchanged, alsoUnchanged]
  cases layer <;> cases f <;> first | rfl | exact absurd rfl other

end ApiStubs.Configuration
