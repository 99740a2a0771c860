import ApiStubs.Command.Run
import Std.Time.Format

/- The program on a real host. The parts of the file system that a line of arguments can touch are read
   into a store, the line is run on it, and what has changed is written back. Pages of the web are out
   of reach here. -/

set_option autoImplicit false

namespace ApiStubs.Main

open ApiStubs.Decimal

def variableNames : List String :=
  ["HOME", "XDG_CONFIG_HOME", "XDG_DATA_HOME", "SPECMOCK_SEED", "SPECMOCK_LOCALE", "NO_COLOR", "TERM"]

def readVariables : IO (List (String × String)) :=
  variableNames.filterMapM fun name => do
    return (← IO.getEnv name).map fun value => (name, value)

def readClock : IO DateTime := do
  let t ← Std.Time.PlainDateTime.now
  return ⟨⟨t.year.toInt.toNat, t.month.val.toNat, t.day.val.toNat⟩,
    t.hour.val.toNat, t.minute.val.toNat, t.second.val.toNat, 0, none⟩

def readsInput (arguments : List String) : Bool :=
  arguments.contains "-" || arguments.contains "reset"

def readInput (arguments : List String) : IO Input := do
  if readsInput arguments then
    let content ← (← IO.getStdin).readToEnd
    return .text content
  else return .text ""

def readHost (arguments : List String) : IO Host := do
  return {
    platform := "Linux"
    directory := .ofText (toString (← IO.currentDir))
    environment := ← readVariables
    now := ← readClock
    input := ← readInput arguments
    web := fun _ => .unreachable "the web is out of reach"
    interactive := ← (← IO.getStdout).isTty }

def placeText (place : Place) : String :=
  "/" ++ String.intercalate "/" place

-- The names inside a directory; `none` for what is no directory.
def listNames (place : Place) : IO (Option (List String)) := do
  try
    let entries ← ((← IO.currentDir) / placeText place).readDir
    return some (entries.toList.map fun e => e.fileName)
  catch _ => return none

def readContent (place : Place) : IO (Option ByteArray) := do
  try return some (← IO.FS.readBinFile (placeText place))
  catch _ => return none

def readNode (store : Store) (place : Place) : IO Store := do
  if (← listNames place).isSome then return store.put place .directory
  match ← readContent place with
  | some content => return store.put place (.file content)
  | none => return store

def ancestors (place : Place) : List Place :=
  (List.range place.length).map fun n => place.take (n + 1)

def readPlace (store : Store) (place : Place) : IO Store := do
  let store ← (ancestors place).foldlM readNode store
  match ← listNames place with
  | some names => names.foldlM (fun s name => readNode s (place ++ [name])) store
  | none => return store

def absolute (host : Host) (p : Path) : Place :=
  (host.directory.join p).parts

def reachable (host : Host) (arguments : List String) : List Path :=
  let given := (arguments ++ arguments.filterMap fun a => Command.givenValue a.toList).map Path.ofText
  [host.directory, host.configDirectory, host.dataDirectory, host.dataDirectory.child "logs"] ++ given ++
    given.map Path.parent ++ given.map fun p => Publish.filesDirectory p none

def readStore (host : Host) (arguments : List String) : IO Store :=
  ((reachable host arguments).map (absolute host)).foldlM readPlace Store.empty

def writeNode (before : Store) (e : Place × Node) : IO Unit := do
  if before.node e.1 = some e.2 then return
  match e.2 with
  | .directory => IO.FS.createDirAll (placeText e.1)
  | .file content =>
      let draft := placeText (Store.draftFor before e.1.dropLast (e.1.getLastD ""))
      IO.FS.writeBinFile draft content
      IO.FS.rename draft (placeText e.1)

def helpText : String :=
  "Usage: specmock [--json | --plain] [--no-color] [-q] [-v] COMMAND\n\n" ++
    "  generate SPEC -o DIR [-n NAME] [--files-dir DIR] [--seed N] [--locale NAME]\n" ++
    "  batch DIR -o DIR [--files-dir DIR] [--seed N] [--locale NAME]\n" ++
    "  inspect SPEC [--seed N]\n" ++
    "  config show | set KEY VALUE | reset [-f]\n"

-- What a terminal shows for a drawing: its lines, with the title of a table above them.
def drawn : Journal.Drawing → String
  | .value v => (Json.write .report v).getD "" ++ "\n"
  | .table headers rows title =>
      (title.map (· ++ "\n")).getD "" ++
        String.join ((headers :: rows).map fun row => String.intercalate "  " row ++ "\n")

def showEntry (threshold : Nat) (entry : Journal.Entry) : IO Unit := do
  match entry with
  | .drawing d => IO.print (drawn d)
  | .data text => IO.print text
  | entry => IO.eprint (entry.noticeText threshold)

def showEnding : Command.Ending → IO Unit
  | .help _ => IO.print helpText
  | .usage => IO.eprint helpText
  | _ => return ()

def account (e : Error) : String :=
  if e.message = "" then "a value that cannot be used" else e.message

end ApiStubs.Main

open ApiStubs in
def main (arguments : List String) : IO UInt32 := do
  let host ← Main.readHost arguments
  let before ← Main.readStore host arguments
  let (result, desk) := (Command.run host Main.account arguments).run ⟨before, 0, []⟩
  desk.store.nodes.forM (Main.writeNode before)
  desk.journal.forM (Main.showEntry result.threshold)
  Main.showEnding result.ending
  return UInt32.ofNat result.ending.code.toNat
