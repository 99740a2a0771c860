import ApiStubs.Store.Basic
import ApiStubs.Decimal.Digits

/- Replacing a file as a whole. The new content goes into a draft beside the file, and the draft then
   takes the file's name, so that the file holds either all of its old content or all of the new. The
   change is made of single operations, each of which may be made to fail from outside, a write also with
   a part of it done; when one fails after the draft was created, the draft is removed again. -/

set_option autoImplicit false

namespace ApiStubs

open ApiStubs.Decimal

namespace Store

-- A change that happens at once or not at all, but for a write.
inductive Operation where
  | makeDirectory (place : Place)
  | create (place : Place)
  | write (place : Place) (content : ByteArray)
  | sync (place : Place)
  | rename (source target : Place)
deriving DecidableEq

-- Faults brought about from outside, by operation.
abbrev Disturbance := Operation → Option FileFault

def undisturbed : Disturbance := fun _ => none

abbrev Action (α : Type) := ExceptT FileFault (StateM Store) α

-- A new node at a place; its name has to fit, and nothing may be there.
def createAt (s : Store) (place : Place) (node : Node) : Except FileFault Store :=
  if !nameFits (place.getLastD "") then .error .nameTooLong
  else if (s.node place).isSome then .error .exists
  else .ok (s.put place node)

-- A file takes another place. No file takes the place of a directory, least of all of one it is in.
def renameTo (s : Store) (source target : Place) : Except FileFault Store :=
  match s.node target with
  | some .directory => if target.isPrefixOf source then .error .busy else .error .isDirectory
  | _ =>
      match s.node source with
      | none => .error .missing
      | some node => .ok ((s.erase source).put target node)

def Operation.apply (s : Store) : Operation → Except FileFault Store
  | .makeDirectory place => createAt s place .directory
  | .create place => createAt s place (.file ⟨#[]⟩)
  | .write place content => .ok (s.put place (.file content))
  | .sync _ => .ok s
  | .rename source target => renameTo s source target

-- An outcome that changes nothing.
def lift {α : Type} (result : Except FileFault α) : Action α :=
  ExceptT.mk (pure result)

-- The longest part of a content, short of a size, whose writing alone is not disturbed.
def writtenPart (disturbance : Disturbance) (place : Place) (content : ByteArray) : Nat → ByteArray
  | 0 => ⟨#[]⟩
  | size + 1 =>
      let part := content.extract 0 size
      if (disturbance (.write place part)).isSome then writtenPart disturbance place content size else part

-- What an operation that fails leaves behind.
def Operation.interrupted (disturbance : Disturbance) (s : Store) : Operation → Store
  | .write place content => s.put place (.file (writtenPart disturbance place content content.size))
  | _ => s

def perform (disturbance : Disturbance) (operation : Operation) : Action Unit := do
  match disturbance operation with
  | some fault => do
      modify (operation.interrupted disturbance ·)
      throw fault
  | none => set (← lift (operation.apply (← get)))

-- Makes one directory; one that is there already is left as it is.
def makeDirectory (disturbance : Disturbance) (directory : Place) (p : Path) : Action Unit := do
  let s ← get
  let place ← lift (s.locate directory p)
  match s.node place with
  | some .directory => return ()
  | _ => perform disturbance (.makeDirectory place)

def makeAll (disturbance : Disturbance) (directory : Place) (root : String) : List String → Action Unit
  | [] => return ()
  | name :: above =>
      let make := makeDirectory disturbance directory ⟨root, (name :: above).reverse⟩
      tryCatch make fun
        | .missing => do
            makeAll disturbance directory root above
            make
        | fault => throw fault

def makeDirectories (disturbance : Disturbance) (directory : Place) (p : Path) : Action Unit :=
  makeAll disturbance directory p.root p.parts.reverse

def draftLetters (n : Nat) : String :=
  let digits := natText n
  String.ofList (List.replicate (8 - digits.length) '0') ++ digits

def draftName (name : String) (n : Nat) : String :=
  "." ++ name ++ "." ++ draftLetters n ++ ".tmp"

-- The first draft name from a number on that is not taken; a directory with that many nodes leaves one of
-- them free.
def freeDraft (s : Store) (directory : Place) (name : String) : Nat → Nat → Place
  | 0, n => directory ++ [draftName name n]
  | tries + 1, n =>
      let place := directory ++ [draftName name n]
      if (s.node place).isSome then freeDraft s directory name tries (n + 1) else place

def draftFor (s : Store) (directory : Place) (name : String) : Place :=
  freeDraft s directory name s.nodes.length 0

def finish (disturbance : Disturbance) (draft target : Place) (content : ByteArray) : Action Unit := do
  perform disturbance (.write draft content)
  perform disturbance (.sync draft)
  perform disturbance (.rename draft target)

def replace (disturbance : Disturbance) (directory : Place) (p : Path) (content : ByteArray) :
    Action Unit := do
  makeDirectories disturbance directory p.parent
  let s ← get
  let folder ← lift (s.locate directory p.parent)
  let target ← lift (s.locate directory p)
  let draft := draftFor s folder p.name
  perform disturbance (.create draft)
  tryCatch (finish disturbance draft target content) fun fault => do
    modify (·.erase draft)
    throw fault

end Store

end ApiStubs
