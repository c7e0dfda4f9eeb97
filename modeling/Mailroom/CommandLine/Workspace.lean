import Mailroom.CommandLine.Session

/-!
# A machine in memory

A working folder with files, which may be objects, and the databases that have been opened
in it so far.
-/

namespace Mailroom.CommandLine

open Mailroom.Object (Node)
open Mailroom.Pipeline (State)
open Mailroom.Store (Database)
open Mailroom.Time (Instant)

structure Workspace where
  files : Node
  /-- The databases by the components of their paths, which are distinct. -/
  databases : List (List String × Database)
  now : Instant

namespace Workspace

def empty (now : Instant) : Workspace := ⟨.empty, [], now⟩

def addFile (w : Workspace) (path : String) (bytes : List UInt8) : Workspace :=
  let place := Object.components path
  match w.files.writeFile bytes place with
  | some files => { w with files, databases := w.databases.filter (·.1 ≠ place) }
  | none => w

def readFile (w : Workspace) (path : String) : File :=
  if Object.hasNull [path] then .missing
  else match w.files.sub? (Object.components path) with
    | none => .missing
    | some (.folder _) => .unusable
    | some (.file bytes) => if Object.demandsFolder path then .missing else .content bytes

/-- Whether a path can be that of a database: it is no folder and no file of another kind.
A question mark would end the path. -/
def canHoldDatabase (w : Workspace) (path : String) : Bool :=
  path.isEmpty ||
    !path.toList.contains '?' && !Object.demandsFolder path &&
      (Object.components path).getLast? != some ".." &&
      match w.files.find (Object.components path) with
      | .missing => true
      | .file bytes => bytes.isEmpty
      | .unusable => false

def openDatabase (w : Workspace) (path : String) : Option Database :=
  if w.canHoldDatabase path then
    match w.databases.find? (·.1 = Object.components path) with
    | some (_, db) => some { db with closed := false }
    | none => some .empty
  else none

def saveDatabase (w : Workspace) (path : String) (db : Database) : Workspace :=
  let place := Object.components path
  { w with databases := (place, db) :: w.databases.filter (·.1 ≠ place) }

/-- The objects below a folder. A file in its place lets nothing be read or written. -/
def openObjects (w : Workspace) (root : String) : Object.Store :=
  let place := Object.components root
  let tree : Node := match w.files.sub? place, w.files.find place with
    | some tree, _ => tree
    | none, .missing => .empty
    | none, _ => .file []
  { Object.Store.inFiles with place := .files tree }

def saveObjects (w : Workspace) (root : String) (objects : Object.Store) : Workspace :=
  match objects.place with
  | .files (.folder (child :: rest)) =>
    { w with files := w.files.graft (.folder (child :: rest)) (Object.components root) }
  | _ => w

def openStores (w : Workspace) (settings : Settings) : Option State :=
  (w.openDatabase settings.databasePath).map fun database =>
    ⟨database, w.openObjects settings.objectRoot, .empty⟩

def saveStores (w : Workspace) (settings : Settings) (state : State) : Workspace :=
  (w.saveDatabase settings.databasePath state.database).saveObjects settings.objectRoot
    state.objects

def makeFolder (w : Workspace) (path : String) : Bool × Workspace :=
  let (made, files) := w.files.makeFolders (Object.components path)
  (made, { w with files })

def machine (configFolder dataFolder : String) : Machine (StateM Workspace) where
  configFolder
  dataFolder
  readFile path := do return (← get).readFile path
  makeFolder path := modifyGet fun w => w.makeFolder path
  openStores settings := do return (← get).openStores settings
  saveStores settings state := modify fun w => w.saveStores settings state
  now := do return (← get).now

end Workspace

end Mailroom.CommandLine
