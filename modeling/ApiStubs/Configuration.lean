import ApiStubs.Job
import ApiStubs.Json.Writer
import ApiStubs.Source

/- The configuration of a user and of a project. The user's is a file in the configuration directory, the
   project's a file in the working directory. The settings in force are, layer over layer, the defaults,
   the user's, the project's, those of the variables, and those given with the command. -/

set_option autoImplicit false

namespace ApiStubs.Configuration

open ApiStubs.Decimal ApiStubs.Text

def readJson (content : ByteArray) : Except Reason Value :=
  match Source.textOf? content with
  | none => .error .encoding
  | some s =>
      match Json.read s with
      | .ok v => .ok v
      | .error (.oversized digits) => .error (.oversized digits)
      | .error (.syntactic problem left) => .error (.syntactic (Json.placed problem s.toList left))

def ofContent (content : ByteArray) : Except Reason Config :=
  match readJson content with
  | .error reason => .error reason
  | .ok v =>
      match Config.ofValue v with
      | .ok config => .ok config
      | .error found => .error (.issues found)

def text (config : Config) : String :=
  (Json.write .settings config.toValue).getD "" ++ "\n"

def fileIn (directory : Path) : Path :=
  directory.child "config.json"

-- What a user's file holds; without a file, the defaults.
def loadFrom (store : Store) (place : Place) (p : Path) : Except Error Config :=
  match store.isFile place p with
  | .error fault => .error (.file fault)
  | .ok false => .ok {}
  | .ok true =>
      match store.read place p with
      | .error fault => .error (.file fault)
      | .ok content =>
          match ofContent content with
          | .ok config => .ok config
          | .error reason => .error (.invalidUserConfig p.text reason)

def load (host : Host) : Job Config := do
  let directory ← Job.ensure host host.configDirectory
  Job.lift (loadFrom (← Job.store) host.place (fileIn directory))

def save (host : Host) (config : Config) : Job Unit := do
  let directory ← Job.ensure host host.configDirectory
  Job.change (Store.replace Store.undisturbed host.place (fileIn directory) (text config).toUTF8)

def projectFile (host : Host) : Path :=
  host.directory.child "specmock.json"

def loadProject (host : Host) (store : Store) : Except Error (Option Entries) :=
  let p := projectFile host
  match store.isFile host.place p with
  | .error fault => .error (.file fault)
  | .ok false => .ok none
  | .ok true =>
      match store.read host.place p with
      | .error fault => .error (.file fault)
      | .ok content =>
          match readJson content with
          | .error reason => .error (.invalidProject p.text reason)
          | .ok (.map entries) => .ok (some entries)
          | .ok _ => .error (.projectNotObject p.text)

-- The settings that a project overrides. Nothing at all is as good as no settings.
def overrides (project : Entries) : Except Error Entries :=
  let generator := project.get "generator"
  if generator.isTrue then
    match generator with
    | .map entries => .ok entries
    | _ => .error .projectGenerator
  else .ok []

structure Flags where
  seed : Option Int := none
  locale : Option String := none
  format : Option String := none
deriving DecidableEq

structure Resolution where
  settings : Settings
  format : String
deriving DecidableEq

def Resolution.toValue (r : Resolution) : Value :=
  .map [
    (.str "generator", r.settings.toValue),
    (.str "output", .map [(.str "format", .str r.format)])]

def seedOf (host : Host) : Except Error (Option Int) :=
  match host.setting? "SPECMOCK_SEED" with
  | none => .ok none
  | some s =>
      match integer? s with
      | some n => .ok (some n)
      | none => .error (.seedNotInteger s)

def putSome (entries : Entries) (name : String) : Option Value → Entries
  | some v => entries.put (.str name) v
  | none => entries

def layered (user : Settings) (project : Entries) (seed : Option Int) (locale : Option String)
    (flags : Flags) : Entries :=
  let fields := (Entries.putAll (Settings.toEntries user) project)
  let fields := putSome (putSome fields "seed" (seed.map .int)) "locale" (locale.map .str)
  putSome (putSome fields "seed" (flags.seed.map .int)) "locale" (flags.locale.map .str)

def resolveOver (host : Host) (store : Store) (flags : Flags) (user : Config) :
    Except Error Resolution := do
  let project ← loadProject host store
  let overriding ← overrides (project.getD [])
  let seed ← seedOf host
  let locale := host.setting? "SPECMOCK_LOCALE"
  match Settings.ofEntries (layered user.generator overriding seed locale flags) with
  | .ok settings => return ⟨settings, flags.format.getD user.format.name⟩
  | .error found => throw (.invalidSettings found)

def resolve (host : Host) (flags : Flags) : Job Resolution := do
  let user ← load host
  Job.lift (resolveOver host (← Job.store) flags user)

end ApiStubs.Configuration
