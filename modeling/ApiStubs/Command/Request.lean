import ApiStubs.Command.Options
import ApiStubs.Configuration

/- The commands and what they are asked to do. A line of arguments is read in two steps, first up to the
   name of a command and then for that command. -/

set_option autoImplicit false

namespace ApiStubs.Command

open ApiStubs.Decimal

-- How a run ends. Help is shown when it is asked for, and when nothing at all is.
inductive Ending where
  | exit (code : Int)
  | version
  | help (asked : Bool)
  | usage
deriving DecidableEq

def Ending.code : Ending → Int
  | .exit code => code
  | .version => 0
  | .help asked => if asked then 0 else 2
  | .usage => 2

structure Globals where
  json : Bool
  plain : Bool
  noColour : Bool
  quiet : Bool
  verbose : Bool
deriving DecidableEq

inductive Request where
  | generate (source : String) (stubs : Path) (name : Option String) (files : Option Path)
      (flags : Configuration.Flags)
  | batch (directory stubs : Path) (files : Option Path) (flags : Configuration.Flags)
  | inspect (source : String) (flags : Configuration.Flags)
  | showConfig
  | setConfig (key value : String)
  | resetConfig (force : Bool)
deriving DecidableEq

def help : Choice := ⟨"--help", none, false⟩
def output : Choice := ⟨"--output", some 'o', true⟩
def name : Choice := ⟨"--name", some 'n', true⟩
def filesDir : Choice := ⟨"--files-dir", none, true⟩
def seed : Choice := ⟨"--seed", none, true⟩
def locale : Choice := ⟨"--locale", none, true⟩
def force : Choice := ⟨"--force", some 'f', false⟩

def globalChoices : List Choice :=
  [⟨"--version", none, false⟩, ⟨"--json", none, false⟩, ⟨"--plain", none, false⟩,
   ⟨"--no-color", none, false⟩, ⟨"--quiet", some 'q', false⟩, ⟨"--verbose", some 'v', false⟩, help]

def globalsOf (r : Reading) : Globals :=
  ⟨r.has "--json", r.has "--plain", r.has "--no-color", r.has "--quiet", r.has "--verbose"⟩

-- The first of the options that end a run at once.
def immediate (r : Reading) : Option Ending :=
  r.options.findSome? fun o =>
    if o.1 = "--help" then some (.help true)
    else if o.1 = "--version" then some .version
    else none

-- What was read, unless it ends the run.
def proceed (reading : Option Reading) : Except Ending Reading :=
  match reading with
  | none => .error .usage
  | some r =>
      match immediate r with
      | some ending => .error ending
      | none => .ok r

-- Reads up to the name of a command of a group. A name that is no command is read once more as an option.
def readGroup (choices : List Choice) (names : List String) (arguments : List String) :
    Except Ending (Reading × String × List String) :=
  if arguments.isEmpty then .error (.help false)
  else
    match proceed (scan choices false arguments) with
    | .error ending => .error ending
    | .ok r =>
        match r.rest with
        | [] => .error .usage
        | name :: rest =>
            if names.contains name then .ok (r, name, rest)
            else
              match proceed (scan choices false (name :: rest)) with
              | .error ending => .error ending
              | .ok _ => .error .usage

def readGlobals (arguments : List String) : Except Ending (Globals × String × List String) :=
  match readGroup globalChoices ["generate", "batch", "inspect", "config"] arguments with
  | .error ending => .error ending
  | .ok (r, name, rest) => .ok (globalsOf r, name, rest)

def readCommand (choices : List Choice) (count : Nat) (arguments : List String) : Except Ending Reading :=
  match proceed (scan (help :: choices) true arguments) with
  | .error ending => .error ending
  | .ok r => if r.rest.length = count then .ok r else .error .usage

def seedOf (r : Reading) : Except Ending (Option Int) :=
  match r.value? "--seed" with
  | none => .ok none
  | some s =>
      match integer? s with
      | some n => .ok (some n)
      | none => .error .usage

def flagsOf (r : Reading) : Except Ending Configuration.Flags := do
  return { seed := ← seedOf r, locale := r.value? "--locale" }

def pathOf (r : Reading) (name : String) : Option Path :=
  (r.value? name).map Path.ofText

-- A path that has to lead somewhere; the empty text leads nowhere.
def namedPath? (text : String) : Option Path :=
  if text = "" then none else some (.ofText text)

def required {α : Type} (given : Option α) : Except Ending α :=
  match given with
  | some a => .ok a
  | none => .error .usage

def readGenerate (arguments : List String) : Except Ending Request := do
  let r ← readCommand [output, name, filesDir, seed, locale] 1 arguments
  let stubs ← required (pathOf r "--output")
  return .generate (r.rest.headD "") stubs (r.value? "--name") (pathOf r "--files-dir") (← flagsOf r)

def readBatch (arguments : List String) : Except Ending Request := do
  let r ← readCommand [output, filesDir, seed, locale] 1 arguments
  let stubs ← required (pathOf r "--output")
  let directory ← required (namedPath? (r.rest.headD ""))
  return .batch directory stubs (pathOf r "--files-dir") (← flagsOf r)

def readInspect (arguments : List String) : Except Ending Request := do
  let r ← readCommand [seed] 1 arguments
  return .inspect (r.rest.headD "") (← flagsOf r)

def readConfig (arguments : List String) : Except Ending Request := do
  let (_, name, rest) ← readGroup [help] ["show", "set", "reset"] arguments
  match name with
  | "show" =>
      let _ ← readCommand [] 0 rest
      return .showConfig
  | "set" =>
      let r ← readCommand [] 2 rest
      return .setConfig (r.rest.headD "") (r.rest.getLastD "")
  | _ =>
      let r ← readCommand [force] 0 rest
      return .resetConfig (r.has "--force")

def readRequest (name : String) (arguments : List String) : Except Ending Request :=
  match name with
  | "generate" => readGenerate arguments
  | "batch" => readBatch arguments
  | "inspect" => readInspect arguments
  | _ => readConfig arguments

def isPossible (host : Host) (store : Store) : Request → Bool
  | .batch directory _ _ _ => store.isDirectory host.place directory
  | _ => true

end ApiStubs.Command
