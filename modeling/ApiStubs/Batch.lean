import ApiStubs.Publish

/- Compiling a description, a file of one, or every such file of a directory. A file that fails for a
   reason to report, or because of the store, does not keep the files after it from being compiled. -/

set_option autoImplicit false

namespace ApiStubs.Batch

-- Loads, checks and compiles a description without writing anything.
def compileSource (host : Host) (source specName : String) (settings : Settings)
    (fresh : Settings → Generator := Generator.start) : Job Compilation := do
  let document ← Job.lift (Source.load host (← Job.store) source)
  let _ ← Job.lift (Description.versionOf document)
  Job.compile settings specName document fresh

structure Target where
  stubs : Path
  files : Option Path
deriving DecidableEq

structure Success where
  source : Path
  compilation : Compilation
  written : List Path
deriving DecidableEq

-- The name a file is compiled under: one given, unless it is empty, or that of the file.
def nameFor (p : Path) (given : Option String) : String :=
  match given with
  | some name => if name = "" then p.stem else name
  | none => p.stem

def compileFile (host : Host) (p : Path) (target : Target) (settings : Settings) (given : Option String)
    (fresh : Settings → Generator := Generator.start) : Job Success := do
  Job.record .info ("Processing file: " ++ p.text)
  let c ← compileSource host p.text (nameFor p given) settings fresh
  let written ← Publish.write Store.undisturbed host target.stubs target.files c
  return ⟨p, c, written⟩

inductive Outcome where
  | done (success : Success)
  | failed (source : Path) (reason : Error)
deriving DecidableEq

def Outcome.isDone : Outcome → Bool
  | .done _ => true
  | .failed _ _ => false

-- Failures that end one file only.
def isContained : Error → Bool
  | .file _ => true
  | e => e.isReported

def attempt (host : Host) (target : Target) (settings : Settings) (fresh : Settings → Generator) (p : Path) :
    Job Outcome :=
  tryCatch (do return .done (← compileFile host p target settings none fresh)) fun e =>
    if isContained e then do
      Job.record .error ("Error processing file " ++ p.text ++ ": " ++ e.message)
      return .failed p e
    else throw e

def attemptAll (host : Host) (target : Target) (settings : Settings) (fresh : Settings → Generator) :
    List Path → Job (List Outcome)
  | [] => return []
  | p :: rest => do
      let outcome ← attempt host target settings fresh p
      return outcome :: (← attemptAll host target settings fresh rest)

def isCandidate (host : Host) (store : Store) (p : Path) : Bool :=
  match store.isFile host.place p with
  | .ok true => Source.isDescription p
  | _ => false

def find (host : Host) (store : Store) (directory : Path) : Except Error (List Path) :=
  match store.list host.place directory with
  | .error fault => .error (.file fault)
  | .ok names =>
      .ok (((names.mergeSort fun a b => a ≤ b).map directory.child).filter (isCandidate host store))

def compileDirectory (host : Host) (directory : Path) (target : Target) (settings : Settings)
    (fresh : Settings → Generator := Generator.start) : Job (List Outcome) := do
  match ← Job.lift (find host (← Job.store) directory) with
  | [] =>
      Job.record .warning ("No OpenAPI spec files found in " ++ directory.text)
      return []
  | files =>
      let bodies := Publish.filesDirectory target.stubs target.files
      attemptAll host ⟨target.stubs, some bodies⟩ settings fresh files

end ApiStubs.Batch
