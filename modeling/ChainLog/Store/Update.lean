/-
# Values put into columns

What putting a value into a column of a record comes to.  The column's type is asked first
(`Field.takes`), then the value is handed over (`Field.bind`), and a column may not be left without a
value.  Of several changes all types are asked before anything is handed over, in the order of the
columns (`update?`).  The row that results takes the place of the old one, if the keys allow it
(`Store.replaceRecord?`).
-/
import ChainLog.Draft
import ChainLog.Store

namespace ChainLog

set_option autoImplicit false

/-! ## Types -/

/-- A value that a column of identifiers takes.  Bytes and floating-point values have a
hexadecimal form too, but one that cannot be handed over. -/
def takenAsIdentifier : Value → Bool
  | .none | .uuid _ | .bytes .. | .float _ => true
  | .bool _ | .int _ | .text _ | .list _ | .dict _ => false

def takenAsPayload : Value → Bool
  | .none | .bytes .. => true
  | _ => false

def Field.takes (f : Field) (v : Value) : Bool :=
  match f with
  | .id | .host | .parent => takenAsIdentifier v
  | .payload => takenAsPayload v
  | .createdAt => v.isNone
  | .timestamp | .version | .tag | .userId | .idx => true

/-! ## Handing over -/

def identifierParameter : Value → Except ParameterError (Option Uuid)
  | .none => .ok none
  | .uuid u => .ok (some u)
  | _ => .error .unsupported

def payloadParameter : Value → Except ParameterError (Option (List UInt8))
  | .none => .ok none
  | .bytes _ content => .ok (some content)
  | _ => .error .wrongType

/-- What putting a value into a column does to a record; nothing can be done with no
value. -/
def Field.bind (f : Field) (v : Value) : Except ParameterError (Option (Record → Record)) :=
  match f with
  | .id => (identifierParameter v).map (·.map fun u r => { r with id := u })
  | .host =>
      (identifierParameter v).map (·.map fun u r => { r with chain := { r.chain with host := u } })
  | .parent => (identifierParameter v).map (·.map fun u r => { r with parent := u })
  | .timestamp => v.inNumbers.map (·.map fun c r => { r with timestamp := c })
  | .version => v.inTexts.map (·.map fun c r => { r with version := c })
  | .tag => v.inTexts.map (·.map fun c r => { r with chain := { r.chain with tag := c } })
  | .payload => (payloadParameter v).map (·.map fun content r => { r with payload := content })
  | .userId => v.inNumbers.map (·.map fun c r => { r with userId := c })
  | .idx => v.inNumbers.map (·.map fun c r => { r with idx := c })
  | .createdAt => .ok none

/-! ## Changes -/

/-- The columns that are changed, in order, with their new values. -/
def inOrder {κ : Type} [DecidableEq κ] (columns : List κ) (changes : List (κ × Value)) :
    List (κ × Value) :=
  columns.filterMap fun f => (changes.lookup f).map fun v => (f, v)

/-- What changes of columns do to a row: every value has to be of the column's type, and
then to be a parameter.  They do nothing that a row can have if a column would be left
without a value. -/
def update? {κ ρ : Type} [DecidableEq κ] (columns : List κ) (takes : κ → Value → Bool)
    (bind : κ → Value → Except ParameterError (Option (ρ → ρ))) (changes : List (κ × Value)) :
    Except ParameterError (Option (ρ → ρ)) := do
  let changes := inOrder columns changes
  if !changes.all (fun c => takes c.1 c.2) then throw .wrongType
  let updates ← changes.mapM fun c => bind c.1 c.2
  return (updates.mapM id).map fun updates row => updates.foldl (fun row update => update row) row

/-- The record has the value already. -/
def Record.has (r : Record) (f : Field) (v : Value) : Bool :=
  match f with
  | .id => v.equalsUuid r.id
  | .host => v.equalsUuid r.chain.host
  | .parent => v.equalsUuid r.parent
  | .timestamp => v.equalsCell r.timestamp
  | .version => v.equalsCell r.version
  | .tag => v.equalsCell r.chain.tag
  | .payload => v.equalsCell (.blob r.payload)
  | .userId => v.equalsCell r.userId
  | .idx => v.equalsCell r.idx
  | .createdAt => false

/-! ## Rows -/

namespace Store

def withoutRecord (s : Store) (id : Uuid) : Store :=
  { s with records := s.records.filter (·.id ≠ id) }

/-- Put a record where the record `id` was, if the keys allow it. -/
def replaceRecord? (s : Store) (id : Uuid) (r : Record) : Option Store :=
  if (s.withoutRecord id).records.any (fun q => Clash q r) then none
  else some { s with records := s.records.map fun q => if q.id = id then r else q }

end Store

end ChainLog
