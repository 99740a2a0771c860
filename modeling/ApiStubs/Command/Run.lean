import ApiStubs.Batch
import ApiStubs.Command.Request
import ApiStubs.ConfigKey
import ApiStubs.Terminal

/- Running the commands. A failure that is to be reported ends a command with its message and its code; any
   other is written into a crash log. The configuration is read before a command is looked at, so that
   its format holds for the notices; a broken one is only warned about there. -/

set_option autoImplicit false

namespace ApiStubs.Command

open ApiStubs.Decimal ApiStubs.Text

def versionText : String := "specmock 0.1.0"

def orReport (job : Job Int) (report : Error → Job Int) : Job Int :=
  tryCatch job fun e => if e.isReported then report e else throw e

def fail (t : Terminal) (message : String) (e : Error) : Job Int := do
  Job.write (t.error message)
  return e.exitCode

def nameOf (source : String) (given : Option String) : Except Error String :=
  match given.filter (· != "") with
  | some name => .ok name
  | none =>
      match SpecName.ofSource? source with
      | some name => .ok name
      | none => .error (.defect .badUrl)

def countText (count : Nat) : String :=
  natText count

def summary (t : Terminal) (c : Compilation) (written : List Path) : List Journal.Entry :=
  (written.flatMap fun p => t.debug ("Wrote " ++ p.text)) ++
    (if c.warnings.isEmpty then []
      else t.warning (countText c.warnings.length ++ " path parameter(s) could not be resolved")) ++
    t.success ("Generated " ++ countText c.stubs.length ++ " mapping(s) and " ++
      countText c.files.length ++ " body file(s) for '" ++ c.name ++ "'")

def compileAndWrite (host : Host) (t : Terminal) (source name : String) (stubs : Path) (files : Option Path)
    (flags : Configuration.Flags) (fresh : Settings → Generator) : Job Int := do
  let r ← Configuration.resolve host flags
  Job.write (t.info ("Processing spec: " ++ source))
  let c ← Batch.compileSource host source name r.settings fresh
  let written ← Publish.write Store.undisturbed host stubs files c
  Job.write (summary t c written)
  return 0

def generate (host : Host) (t : Terminal) (source : String) (stubs : Path) (given : Option String)
    (files : Option Path) (flags : Configuration.Flags) (fresh : Settings → Generator) : Job Int := do
  let name ← Job.lift (nameOf source given)
  tryCatch (compileAndWrite host t source name stubs files flags fresh) fun
    | .file fault => fail t ("Failed to write stubs to " ++ stubs.text ++ ": " ++ fault.text) (.file fault)
    | e =>
        if e.isReported then fail t ("Failed to generate stubs from " ++ source ++ ": " ++ e.message) e
        else throw e

def doneEntry (t : Terminal) : Batch.Outcome → List Journal.Entry
  | .done success =>
      t.info (success.source.name ++ ": " ++ countText success.compilation.stubs.length ++ " mapping(s)")
  | .failed _ _ => []

def failedEntry (t : Terminal) : Batch.Outcome → List Journal.Entry
  | .done _ => []
  | .failed source reason => t.error (source.name ++ ": " ++ reason.message)

-- Tells how a batch went: first of the files that were compiled, then of the others.
def tellBatch (t : Terminal) (stubs : Path) (outcomes : List Batch.Outcome) : Job Int := do
  Job.write (outcomes.flatMap (doneEntry t) ++ outcomes.flatMap (failedEntry t))
  let failed := outcomes.countP fun o => !o.isDone
  if failed = 0 then
    Job.write (t.success ("Generated stubs for " ++ countText outcomes.length ++ " spec(s) in " ++
      stubs.text))
    return 0
  else
    Job.write (t.error (countText failed ++ " of " ++ countText outcomes.length ++ " spec(s) failed"))
    return 1

def compileBatch (host : Host) (t : Terminal) (directory stubs : Path) (files : Option Path)
    (settings : Settings) (fresh : Settings → Generator) : Job Int := do
  let outcomes ← Batch.compileDirectory host directory ⟨stubs, files⟩ settings fresh
  if outcomes.isEmpty then return 0
  tellBatch t stubs outcomes

def batch (host : Host) (t : Terminal) (directory stubs : Path) (files : Option Path)
    (flags : Configuration.Flags) (fresh : Settings → Generator) : Job Int :=
  orReport
    (do compileBatch host t directory stubs files (← Configuration.resolve host flags).settings fresh)
    fun e => fail t e.message e

def stubHeaders : List String :=
  ["Method", "URL Pattern", "Status", "Body File", "Header Matchers"]

def orDash (text : String) : String :=
  if text = "" then "-" else text

def stubRow (stub : Stub) : List String :=
  [stub.request.method, stub.request.urlPattern, intText stub.response.status,
   orDash (stub.response.bodyFileName.getD ""),
   orDash (String.intercalate ", " (stub.request.headers.map (·.1)))]

def preview (t : Terminal) (c : Compilation) : Except Error (List Journal.Entry) := do
  if t.format = .json then return Terminal.data (← Stub.documentText c.stubs)
  else
    return t.table stubHeaders (c.stubs.map stubRow)
      (some (c.name ++ " -- Mappings (" ++ countText c.stubs.length ++ ")"))

def compilePreview (host : Host) (source : String) (flags : Configuration.Flags)
    (fresh : Settings → Generator) : Job Compilation := do
  let r ← Configuration.resolve host flags
  let name ← Job.lift (nameOf source none)
  Batch.compileSource host source name r.settings fresh

def inspect (host : Host) (t : Terminal) (source : String) (flags : Configuration.Flags)
    (fresh : Settings → Generator) : Job Int :=
  orReport
    (do
      Job.write (← Job.lift (preview t (← compilePreview host source flags fresh)))
      return 0)
    fun e => fail t ("Failed to inspect " ++ source ++ ": " ++ e.message) e

def showConfig (host : Host) (t : Terminal) : Job Int :=
  orReport
    (do
      let config ← Configuration.load host
      let directory ← Job.ensure host host.configDirectory
      Job.write (t.info ("Config directory: " ++ directory.text))
      Job.write ((t.value config.toValue).getD [])
      return 0)
    fun e => fail t e.message e

def saveChange (host : Host) (t : Terminal) (key : String) (changed : Config × Value) : Job Int := do
  Configuration.save host changed.1
  Job.write (t.success ("Set " ++ key ++ " = " ++ changed.2.display))
  return 0

def setConfig (host : Host) (t : Terminal) (key text : String) : Job Int :=
  orReport
    (do
      let config ← Configuration.load host
      match ConfigKey.set key text config with
      | .ok changed => saveChange host t key changed
      | .error (.invalid found) =>
          Job.write (t.error ("Validation error: " ++ (Error.invalid found).message))
          return Category.usage.exitCode
      | .error e => throw e)
    fun e => fail t e.message e

def question : String := "Reset all config to defaults? [y/N]: "

def complaint : String := "Error: invalid input\n"

inductive Answer where
  | yes
  | no
  | none
deriving DecidableEq

-- The lines of an input; text behind the last line end is a line, nothing behind it is not.
def inputLines (cs : List Char) : List (List Char) :=
  match (splitOn '\n' cs).reverse with
  | [] :: before => before.reverse
  | lines => lines.reverse

-- The answer that a line is, if it is one; an empty line says no.
def answerOf? (line : List Char) : Option Answer :=
  let word := String.ofList (trim isBlank (lower (String.ofList line)).toList)
  if word = "y" ∨ word = "yes" then some .yes
  else if word = "n" ∨ word = "no" ∨ word = "" then some .no
  else none

-- Asks until a line is an answer: everything asked, and the answer, if the input has one.
def ask : List (List Char) → String × Answer
  | [] => (question, .none)
  | line :: rest =>
      match answerOf? line with
      | some answer => (question, answer)
      | none =>
          let (asked, answer) := ask rest
          (question ++ complaint ++ asked, answer)

def confirm (host : Host) : Job Answer :=
  match host.input with
  | .text content => do
      let (asked, answer) := ask (inputLines content.toList)
      Job.write [.data asked]
      return answer
  | .broken _ => return .none
  | .interrupted => do
      Job.write [.data question]
      throw .interrupted

def reset (host : Host) (t : Terminal) : Job Int := do
  Configuration.save host {}
  Job.write (t.success "Configuration reset to defaults.")
  return 0

def resetConfig (host : Host) (t : Terminal) (force : Bool) : Job Int := do
  if force then reset host t
  else
    match ← confirm host with
    | .yes => reset host t
    | .no =>
        Job.write (t.info "Cancelled.")
        return 0
    | .none =>
        Job.write [.notice "Aborted.\n"]
        return 1

def execute (host : Host) (t : Terminal) (fresh : Settings → Generator) : Request → Job Int
  | .generate source stubs name files flags => generate host t source stubs name files flags fresh
  | .batch directory stubs files flags => batch host t directory stubs files flags fresh
  | .inspect source flags => inspect host t source flags fresh
  | .showConfig => showConfig host t
  | .setConfig key value => setConfig host t key value
  | .resetConfig force => resetConfig host t force

def Globals.format (g : Globals) : Option OutputFormat :=
  if g.json then some .json else if g.plain then some .plain else none

def Globals.options (g : Globals) (format : OutputFormat) : Terminal.Options :=
  ⟨format, g.noColour, g.quiet, g.verbose⟩

def configuredTerminal (host : Host) (g : Globals) : Job Terminal := do
  let r ← Configuration.resolve host { format := g.format.map OutputFormat.name }
  return Terminal.start host (g.options ((OutputFormat.ofName? r.format).getD .auto))

-- The terminal of a run. A configuration that cannot be used is warned about, and passed over.
def openTerminal (host : Host) (g : Globals) : Job Terminal :=
  tryCatch (configuredTerminal host g) fun e =>
    if e.category = some .configuration then do
      let t := Terminal.start host (g.options (g.format.getD .auto))
      Job.write (t.warning e.message)
      return t
    else throw e

def crashLog (host : Host) (directory : Path) : Path :=
  (directory.child "logs").child ("crash-" ++ host.now.format "%Y%m%d-%H%M%S" ++ ".log")

def crash (host : Host) (t : Terminal) (account : String) : Job Int := do
  let directory ← Job.ensure host host.dataDirectory
  let p := crashLog host directory
  Job.change (Store.replace Store.undisturbed host.place p account.toUTF8)
  Job.write (t.error ("Unexpected error. Debug log: " ++ p.text))
  return 1

def conclude (host : Host) (account : Error → String) (t : Terminal) (e : Error) : Job Int :=
  match e with
  | .interrupted => do
      Job.write [.notice "\nCancelled.\n"]
      return 130
  | e => if e.isReported then fail t e.message e else crash host t (account e)

-- A job that ends a run. A crash that cannot even be written down ends it too.
def concluded (host : Host) (account : Error → String) (t : Terminal) (job : Job Int) :
    StateM Desk Ending := do
  match ← (tryCatch job (conclude host account t)).run with
  | .ok code => return .exit code
  | .error _ => return .exit 1

structure Result where
  ending : Ending
  threshold : Nat
deriving DecidableEq

def runRequest (host : Host) (account : Error → String) (fresh : Settings → Generator) (t : Terminal)
    (name : String) (arguments : List String) : StateM Desk Ending := do
  match readRequest name arguments with
  | .error ending => return ending
  | .ok request =>
      if isPossible host (← get).store request then concluded host account t (execute host t fresh request)
      else return .usage

def runWith (host : Host) (account : Error → String) (fresh : Settings → Generator) (g : Globals)
    (name : String) (arguments : List String) : StateM Desk Result := do
  match ← (openTerminal host g).run with
  | .ok t => return ⟨← runRequest host account fresh t name arguments, t.threshold⟩
  | .error e =>
      let t := Terminal.start host {}
      return ⟨← concluded host account t (throw e), t.threshold⟩

-- Runs a line of arguments. `account` says what a crash log holds of a failure.
def run (host : Host) (account : Error → String) (arguments : List String)
    (fresh : Settings → Generator := Generator.start) : StateM Desk Result := do
  match readGlobals arguments with
  | .ok (g, name, rest) => runWith host account fresh g name rest
  | .error ending =>
      if ending = .version then
        modify fun desk => { desk with journal := desk.journal ++ Terminal.data versionText }
      return ⟨ending, Log.Level.warning.weight⟩

end ApiStubs.Command
