import ApiStubs.Job
import ApiStubs.Source
import ApiStubs.Stub

/- Writing what a description compiles to into the store, and reading documents of stubs back. The body
   files are written first and the document of the stubs last, so that a document never names a body
   file that is not there. -/

set_option autoImplicit false

namespace ApiStubs.Publish

def filesName : String := "__files"

-- Body files stand beside the directory of the stubs unless they are given one of their own.
def filesDirectory (stubs : Path) (files : Option Path) : Path :=
  files.getD (stubs.parent.child filesName)

def bodyPath (files : Path) (file : BodyFile) : Path :=
  files.child file.name

def stubPath (stubs : Path) (specName : String) : Path :=
  stubs.child (stubFileName specName)

def writeBodies (disturbance : Store.Disturbance) (host : Host) (files : Path) :
    List BodyFile → Job (List Path)
  | [] => return []
  | file :: rest => do
      let p := bodyPath files file
      Job.change (Store.replace disturbance host.place p file.content)
      Job.record .debug ("Mock response written to " ++ p.text)
      return p :: (← writeBodies disturbance host files rest)

def writeStubs (disturbance : Store.Disturbance) (host : Host) (stubs : Path) (c : Compilation) :
    Job Path := do
  let p := stubPath stubs c.name
  let text ← Job.lift (Stub.documentText c.stubs)
  Job.change (Store.replace disturbance host.place p (text ++ "\n").toUTF8)
  Job.record .debug ("WireMock stubs written to " ++ p.text)
  return p

def write (disturbance : Store.Disturbance) (host : Host) (stubs : Path) (files : Option Path)
    (c : Compilation) : Job (List Path) := do
  let bodies ← writeBodies disturbance host (filesDirectory stubs files) c.files
  return bodies ++ [← writeStubs disturbance host stubs c]

def read (host : Host) (store : Store) (p : Path) : Except Error (List Stub) :=
  match store.read host.place p with
  | .error fault => .error (.file fault)
  | .ok content =>
      match Source.textOf? content with
      | some s => Stub.parse s
      | none => .error (.defect .brokenText)

end ApiStubs.Publish
