import ApiStubs.Error
import ApiStubs.Path

/- A store of files. A place is the list of names from the root down to a node; the root is always a
   directory. A path is followed name by name from the directory in which it begins, so that two points
   lead out of a directory only when that directory is there. -/

set_option autoImplicit false

namespace ApiStubs

abbrev Place := List String

inductive Node where
  | directory
  | file (content : ByteArray)
deriving DecidableEq

structure Store where
  nodes : List (Place × Node)
deriving DecidableEq, Inhabited

namespace Store

def empty : Store := ⟨[]⟩

def node (s : Store) (place : Place) : Option Node :=
  if place = [] then some .directory else s.nodes.lookup place

def putNode (place : Place) (node : Node) : List (Place × Node) → List (Place × Node)
  | [] => [(place, node)]
  | (p, n) :: rest => if p = place then (p, node) :: rest else (p, n) :: putNode place node rest

def put (s : Store) (place : Place) (node : Node) : Store :=
  ⟨putNode place node s.nodes⟩

def erase (s : Store) (place : Place) : Store :=
  ⟨s.nodes.filter fun e => !(e.1 == place)⟩

-- A name has at most this many bytes.
def nameLimit : Nat := 255

def nameFits (name : String) : Bool :=
  name.utf8ByteSize ≤ nameLimit

-- The place that names lead to from a directory; nothing has to be there, but above it.
def follow (s : Store) (here : Place) : List String → Except FileFault Place
  | [] => .ok here
  | name :: rest =>
      match s.node here with
      | none => .error .missing
      | some (.file _) => .error .notDirectory
      | some .directory =>
          if name = ".." then s.follow here.dropLast rest
          else if nameFits name then s.follow (here ++ [name]) rest
          else .error .nameTooLong

def locate (s : Store) (directory : Place) (p : Path) : Except FileFault Place :=
  s.follow (if p.isAbsolute then [] else directory) p.parts

def stat (s : Store) (directory : Place) (p : Path) : Except FileFault Node :=
  match s.locate directory p with
  | .error fault => .error fault
  | .ok place =>
      match s.node place with
      | some node => .ok node
      | none => .error .missing

def isAbsence : FileFault → Bool
  | .missing | .notDirectory => true
  | _ => false

-- Whether a path leads to a file. That nothing is there is an answer, and no fault.
def isFile (s : Store) (directory : Place) (p : Path) : Except FileFault Bool :=
  match s.stat directory p with
  | .ok (.file _) => .ok true
  | .ok .directory => .ok false
  | .error fault => if isAbsence fault then .ok false else .error fault

def isDirectory (s : Store) (directory : Place) (p : Path) : Bool :=
  match s.stat directory p with
  | .ok .directory => true
  | _ => false

def read (s : Store) (directory : Place) (p : Path) : Except FileFault ByteArray :=
  match s.stat directory p with
  | .ok (.file content) => .ok content
  | .ok .directory => .error .isDirectory
  | .error fault => .error fault

def nameIn (directory place : Place) : Option String :=
  if place.dropLast = directory then place.getLast? else none

def namesIn (s : Store) (directory : Place) : List String :=
  s.nodes.filterMap fun e => nameIn directory e.1

def list (s : Store) (directory : Place) (p : Path) : Except FileFault (List String) :=
  match s.locate directory p with
  | .error fault => .error fault
  | .ok place =>
      match s.node place with
      | some .directory => .ok (s.namesIn place)
      | some (.file _) => .error .notDirectory
      | none => .error .missing

theorem lookup_put_node_self (place : Place) (node : Node) (nodes : List (Place × Node)) :
    (putNode place node nodes).lookup place = some node := by
  induction nodes with
  | nil => simp [putNode]
  | cons e rest ih =>
      obtain ⟨p, n⟩ := e
      by_cases same : p = place
      · simp [putNode, same]
      · have differ : (place == p) = false := by simpa using fun h => same h.symm
        simp [putNode, List.lookup_cons, same, differ, ih]

theorem lookup_put_node_other (place other : Place) (node : Node) (nodes : List (Place × Node))
    (different : other ≠ place) : (putNode place node nodes).lookup other = nodes.lookup other := by
  have differ : (other == place) = false := by simpa using different
  induction nodes with
  | nil => simp [putNode, List.lookup_cons, differ]
  | cons e rest ih =>
      obtain ⟨p, n⟩ := e
      by_cases same : p = place
      · simp [putNode, List.lookup_cons, same, differ]
      · simp only [putNode, if_neg same, List.lookup_cons, ih]

theorem lookup_erase_self (place : Place) (nodes : List (Place × Node)) :
    (nodes.filter fun e => !(e.1 == place)).lookup place = none := by
  induction nodes with
  | nil => rfl
  | cons e rest ih =>
      obtain ⟨p, n⟩ := e
      by_cases same : p = place
      · simpa [same] using ih
      · have differ : (place == p) = false := by simpa using fun h => same h.symm
        have kept : (!(p == place)) = true := by simpa using same
        rw [List.filter_cons, kept, if_pos rfl, List.lookup_cons, differ]
        exact ih

theorem lookup_erase_other (place other : Place) (nodes : List (Place × Node))
    (different : other ≠ place) :
    (nodes.filter fun e => !(e.1 == place)).lookup other = nodes.lookup other := by
  induction nodes with
  | nil => rfl
  | cons e rest ih =>
      obtain ⟨p, n⟩ := e
      by_cases same : p = place
      · have differ : (other == p) = false := by simpa [same] using different
        have dropped : (!(p == place)) = false := by simpa using same
        rw [List.filter_cons, dropped, if_neg Bool.false_ne_true, ih, List.lookup_cons, differ]
      · have kept : (!(p == place)) = true := by simpa using same
        rw [List.filter_cons, kept, if_pos rfl, List.lookup_cons, List.lookup_cons, ih]

theorem node_put_self (s : Store) (place : Place) (node : Node) (named : place ≠ []) :
    (s.put place node).node place = some node := by
  simp [Store.node, put, named, lookup_put_node_self]

theorem node_put_other (s : Store) (place other : Place) (node : Node) (different : other ≠ place) :
    (s.put place node).node other = s.node other := by
  simp [Store.node, put, lookup_put_node_other place other node s.nodes different]

theorem node_erase_self (s : Store) (place : Place) (named : place ≠ []) :
    (s.erase place).node place = none := by
  simp [Store.node, erase, named, lookup_erase_self]

theorem node_erase_other (s : Store) (place other : Place) (different : other ≠ place) :
    (s.erase place).node other = s.node other := by
  simp [Store.node, erase, lookup_erase_other place other s.nodes different]

end Store

end ApiStubs
