import Mailroom.Object.Folder
import Mailroom.Text.Utf8

/-!
# Paths of files

A path is a sequence of bytes with slashes between its pieces, and says how to go from one folder
to another. The objects of a store are files below a root: a container and a key are put behind its
path, unless one of them has a step that does not lead into something.
-/

namespace Mailroom.Object

open Mailroom.Mail (Location)

def slash : UInt8 := 0x2f

def dot : UInt8 := 0x2e

inductive Step
  | root
  /-- Stays. This only counts as the beginning of a path. -/
  | here
  | parent
  | into (name : Bytes)
  deriving DecidableEq, Repr

namespace Step

def isInto : Step → Bool
  | .into _ => true
  | _ => false

def ofPiece? (piece : Bytes) : Option Step :=
  if piece = [] ∨ piece = [dot] then none
  else if piece = [dot, dot] then some .parent
  else some (.into piece)

/-- The folder, named by what leads to it from the root, that a step leads to. Above the root there
is nothing but itself. -/
def follow (folder : List Bytes) : Step → List Bytes
  | .root => []
  | .here => folder
  | .parent => folder.dropLast
  | .into name => folder ++ [name]

end Step

namespace Path

def first? (path : Bytes) : Option Step :=
  if [slash].isPrefixOf path then some .root
  else if path == [dot] || [dot, slash].isPrefixOf path then some .here
  else none

def steps (path : Bytes) : List Step :=
  (first? path).toList ++ (Text.splitAt slash path).filterMap Step.ofPiece?

example : steps (Text.bytes "./a//b/./../c/") =
    [.here, .into (Text.bytes "a"), .into (Text.bytes "b"), .parent, .into (Text.bytes "c")] := by
  decide

def walk (folder : List Bytes) (steps : List Step) : List Bytes := steps.foldl Step.follow folder

/-- Puts a path behind another one. One that begins at the root takes its place. -/
def push (path part : Bytes) : Bytes :=
  if [slash].isPrefixOf part then part
  else if path == [] || path.getLast? == some slash then path ++ part
  else path ++ slash :: part

end Path

def addPart (l : Location) (path : Bytes) (part : String) : Except Error Bytes :=
  if part.isEmpty || (Path.steps (Text.bytes part)).any (!·.isInto) then
    .error (.invalidObjectPath l)
  else .ok (Path.push path (Text.bytes part))

def filePath (root : Bytes) (l : Location) : Except Error Bytes :=
  [l.container, l.key].foldlM (addPart l) root

end Mailroom.Object
