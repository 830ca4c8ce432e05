import Catalogue.Json.Codec

namespace Catalogue.Json

/-- A field of a record: its key, how its value is read and written, and how it gets out of the
record and into it. -/
structure Slot (ρ : Type) where
  of ::
  key : String
  {α : Type}
  codec : Codec α
  get : ρ → α
  set : α → ρ → ρ

namespace Slot

variable {ρ : Type}

def read (slot : Slot ρ) (depth : Nat) (t : Tree) : Except Fault (ρ → ρ) :=
  slot.set <$> slot.codec.read depth t

def ofJson (slot : Slot ρ) (j : Json) : Option (ρ → ρ) := slot.set <$> slot.codec.ofJson j

def write (slot : Slot ρ) (r : ρ) : Json := slot.codec.write (slot.get r)

end Slot

structure Shape (ρ : Type) where
  name : String
  slots : List (Slot ρ)
  blank : ρ
  /-- Whether an array has to have all fields. -/
  full : Bool

namespace Shape

variable {ρ : Type}

def slot? (slots : List (Slot ρ)) (key : String) : Option (Slot ρ) := slots.find? (·.key == key)

/-- Reads members into `r`. A known key may come only once; `seen` holds those that have come. -/
def readMembers (slots : List (Slot ρ)) (depth : Nat) (seen : List String) (r : ρ) :
    List (Option String × Tree) → Except Fault ρ
  | [] => .ok r
  | (none, _) :: _ => .error .malformed
  | (some key, t) :: members =>
    match slot? slots key with
    | none => if t.complete then readMembers slots depth seen r members else .error .malformed
    | some slot =>
      if seen.contains key then .error (.duplicateField key)
      else do
        let set ← slot.read depth t
        readMembers slots depth (key :: seen) (set r) members

def readItems (s : Shape ρ) (depth : Nat) (closed : Bool) (i : Nat) (r : ρ) :
    List (Slot ρ) → List Tree → Except Fault ρ
  | slots, [] => do
    demand closed
    if s.full && !slots.isEmpty then
      .error (.wrongLength i
        ("struct " ++ s.name ++ " with " ++ toString s.slots.length ++ " elements"))
    else pure r
  | [], _ :: _ => .error .malformed
  | slot :: slots, item :: items => do
    let set ← slot.read depth item
    readItems s depth closed (i + 1) (set r) slots items

def read (s : Shape ρ) (depth : Nat) (t : Tree) : Except Fault ρ :=
  match t with
  | .array items closed => do
    let inner ← enter depth
    s.readItems inner closed 0 s.blank s.slots items
  | .object members closed => do
    let inner ← enter depth
    let r ← readMembers s.slots inner [] s.blank members
    demand closed
    pure r
  | t => .error (t.mismatch ("struct " ++ s.name))

def ofMembers (slots : List (Slot ρ)) (seen : List String) (r : ρ) :
    List (String × Json) → Option ρ
  | [] => some r
  | (key, value) :: members =>
    match slot? slots key with
    | none => ofMembers slots seen r members
    | some slot =>
      if seen.contains key then none
      else do
        let set ← slot.ofJson value
        ofMembers slots (key :: seen) (set r) members

def ofItems (s : Shape ρ) (r : ρ) : List (Slot ρ) → List Json → Option ρ
  | slots, [] => if s.full && !slots.isEmpty then none else some r
  | [], _ :: _ => none
  | slot :: slots, item :: items => do
    let set ← slot.ofJson item
    ofItems s (set r) slots items

def ofJson (s : Shape ρ) (j : Json) : Option ρ :=
  match j with
  | .array items => s.ofItems s.blank s.slots items
  | .object members => ofMembers s.slots [] s.blank members
  | _ => none

def write (s : Shape ρ) (r : ρ) : Json := .object (s.slots.map fun slot => (slot.key, slot.write r))

def codec (s : Shape ρ) : Codec ρ := ⟨s.read, s.ofJson, s.write⟩

end Shape

end Catalogue.Json
