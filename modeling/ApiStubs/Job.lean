import ApiStubs.Compile
import ApiStubs.Host
import ApiStubs.Journal
import ApiStubs.Store.Replace

/- Jobs: what changes the store, gives out identifiers and writes the journal, and may fail. What was done
   before a failure stays done. -/

set_option autoImplicit false

namespace ApiStubs

structure Desk where
  store : Store
  issued : Nat
  journal : List Journal.Entry

abbrev Job (α : Type) := ExceptT Error (StateM Desk) α

namespace Job

def lift {α : Type} (result : Except Error α) : Job α :=
  ExceptT.mk (pure result)

def ofFault {α : Type} : Except FileFault α → Except Error α
  | .ok a => .ok a
  | .error fault => .error (.file fault)

def store : Job Store := do
  return (← get).store

def write (entries : List Journal.Entry) : Job Unit :=
  modify fun desk => { desk with journal := desk.journal ++ entries }

def record (level : Log.Level) (text : String) : Job Unit :=
  write [.record ⟨level, text⟩]

def change {α : Type} (action : Store.Action α) : Job α := do
  let desk ← get
  let (result, store) := action.run.run desk.store
  set { desk with store := store }
  lift (ofFault result)

def ensure (host : Host) (p : Path) : Job Path := do
  change (Store.makeDirectories Store.undisturbed host.place p)
  return p

-- `fresh` makes the generator of a compilation; without a seed it may start anywhere.
def compile (settings : Settings) (specName : String) (document : Entries)
    (fresh : Settings → Generator := Generator.start) : Job Compilation := do
  let desk ← get
  let report := compileFrom (fresh settings) desk.issued settings specName document
  set { desk with
    issued := report.issued
    journal := desk.journal ++ report.records.map Journal.Entry.record }
  lift report.outcome

end Job

end ApiStubs
