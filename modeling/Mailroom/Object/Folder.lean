import Mailroom.Error
import Mailroom.Text.Cut

/-!
# Objects in a tree of folders

A container is a folder and a key the path of a file in it. Paths may not leave the
tree: they must not be empty, absolute or begin with `.`, and no component may be `..`.
Empty components and later `.` count for nothing, except that at the end they demand a
folder. Folders above a file are made as they are needed. A name has at most 255 bytes;
that systems also bound the length of whole paths is left out.
-/

namespace Mailroom.Object

open Mailroom.Mail (Location)

abbrev Bytes := List UInt8

def pieces (path : String) : List String := (Text.splitAt '/' path.toList).map String.ofList

/-- Whether a path stays below the folder it begins in. -/
def staysBelow (path : String) : Bool :=
  match pieces path with
  | first :: rest => first != "" && first != "." && !(first :: rest).contains ".."
  | [] => false

def components (path : String) : List String := (pieces path).filter fun p => p != "" && p != "."

/-- Whether a path can only mean a folder. -/
def demandsFolder (path : String) : Bool :=
  (pieces path).getLast? == some "" || (pieces path).getLast? == some "."

def pathOf (l : Location) : Except Error (List String) :=
  if staysBelow l.container && staysBelow l.key then
    .ok (components l.container ++ components l.key)
  else .error (.invalidObjectPath l)

def maxNameSize : Nat := 255

def tooLong (name : String) : Bool := name.utf8ByteSize > maxNameSize

def hasNull (path : List String) : Bool := path.any fun name => name.toList.contains '\x00'

inductive Node
  | file (bytes : Bytes)
  | folder (children : List (String × Node))

namespace Node

def empty : Node := .folder []

def child? (children : List (String × Node)) (name : String) : Option Node :=
  (children.find? (·.1 = name)).map Prod.snd

def setChild (name : String) (node : Node) : List (String × Node) → List (String × Node)
  | [] => [(name, node)]
  | (other, old) :: rest =>
    if other = name then (name, node) :: rest else (other, old) :: setChild name node rest

inductive Found
  | file (bytes : Bytes)
  | missing
  /-- A folder, or no possible place. -/
  | unusable

def find : Node → (path : List String) → Found
  | .file bytes, [] => .file bytes
  | .folder _, [] => .unusable
  | .file _, _ :: _ => .unusable
  | .folder children, name :: rest =>
    if tooLong name then .unusable
    else match child? children name with
      | none => .missing
      | some node => find node rest

def sub? : Node → (path : List String) → Option Node
  | node, [] => some node
  | .file _, _ :: _ => none
  | .folder children, name :: rest => (child? children name).bind fun node => sub? node rest

/-- The tree with another one at a path, unless a file is in the way. -/
def graft (node tree : Node) : (path : List String) → Node
  | [] => tree
  | name :: rest =>
    match node with
    | .file bytes => .file bytes
    | .folder children =>
      .folder (setChild name (graft ((child? children name).getD empty) tree rest) children)

/-- Makes the folders of a path, and says whether all of them are there. Those above a
place where that is impossible stay. -/
def makeFolders : Node → (path : List String) → Bool × Node
  | .file bytes, _ => (false, .file bytes)
  | .folder children, [] => (true, .folder children)
  | .folder children, name :: rest =>
    if tooLong name then (false, .folder children)
    else
      let (made, node) := makeFolders ((child? children name).getD empty) rest
      (made, .folder (setChild name node children))

def writeFile (node : Node) (bytes : Bytes) : (path : List String) → Option Node
  | [] =>
    match node with
    | .file _ => some (.file bytes)
    | .folder _ => none
  | name :: rest =>
    match node with
    | .file _ => none
    | .folder children =>
      if tooLong name then none
      else
        let fresh := if rest.isEmpty then .file [] else empty
        (writeFile ((child? children name).getD fresh) bytes rest).map fun node =>
          .folder (setChild name node children)

def fetch (root : Node) (l : Location) : Except Error Bytes := do
  let path ← pathOf l
  if hasNull path then .error .io
  else match root.find path with
    | .missing => .error (.objectNotFound l)
    | .unusable => .error .io
    | .file bytes => if demandsFolder l.key then .error .io else .ok bytes

/-- Writes an object, making the folders above it. These stay if the object itself cannot
be written. -/
def put (root : Node) (l : Location) (bytes : Bytes) : Except Error Unit × Node :=
  match pathOf l with
  | .error e => (.error e, root)
  | .ok path =>
    if hasNull path.dropLast then (.error .io, root)
    else
      let (made, root) := root.makeFolders path.dropLast
      if !made || hasNull path || demandsFolder l.key then (.error .io, root)
      else match root.writeFile bytes path with
        | some root => (.ok (), root)
        | none => (.error .io, root)

end Node

end Mailroom.Object
