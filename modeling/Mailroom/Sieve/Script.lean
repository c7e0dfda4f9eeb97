import Mailroom.Sieve.Validation

/-!
# Scripts written by hand

A script is checked whenever its text changes. An invalid script cannot be active.
-/

namespace Mailroom.Sieve

structure Script where
  name : String
  text : String
  active : Bool
  lastFault : Option Fault
  deriving DecidableEq, Repr

namespace Script

def fault? (text : String) : Option Fault :=
  match validate text with
  | .ok _ => none
  | .error fault => some fault

/-- A script that is active if that is wanted and its text is valid. -/
def ofText (name text : String) (active : Bool) : Script :=
  let fault := fault? text
  ⟨name, text, active && fault.isNone, fault⟩

def isValid (s : Script) : Bool := s.lastFault.isNone

def setName (s : Script) (name : String) : Script := { s with name }

/-- Replaces the text. An invalid text takes the script out of use. -/
def setText (s : Script) (text : String) : Script :=
  let fault := fault? text
  { s with text, active := s.active && fault.isNone, lastFault := fault }

/-- Puts a script in use or out of use. An invalid script stays out of use. -/
def setActive (s : Script) (active : Bool) : Except Fault Script :=
  match active, s.lastFault with
  | true, some fault => .error fault
  | _, _ => .ok { s with active }

inductive Request
  | rename (name : String)
  | replace (text : String)
  | switch (on : Bool)
  deriving DecidableEq, Repr

/-- Does what is asked for. What is refused leaves the script as it was. -/
def handle (s : Script) : Request → Except Fault Unit × Script
  | .rename name => (.ok (), s.setName name)
  | .replace text => (.ok (), s.setText text)
  | .switch on =>
    match s.setActive on with
    | .ok changed => (.ok (), changed)
    | .error fault => (.error fault, s)

def handleAll (s : Script) (requests : List Request) : Script :=
  requests.foldl (fun s request => (s.handle request).2) s

end Script

end Mailroom.Sieve
