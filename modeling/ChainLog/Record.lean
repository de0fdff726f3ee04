/-
# Records and tips

A chain is named by the host that writes it and a tag.  A record is one entry of
a chain: it names its parent, the record before it, by identifier, or nil if it is
the first, and it has a position.  Its payload is opaque.  A chain's tip row
names its last record, its length, and the user who started it.

Tags, versions and numbers are cells: rows that are edited directly may hold other
things there than the texts and integers that appending puts into them.
-/
import ChainLog.Cell.Column
import ChainLog.Time.Instant

namespace ChainLog

set_option autoImplicit false

structure ChainName where
  host : Uuid
  tag : Cell
deriving DecidableEq, Inhabited

/-- A chain as it is named in messages, by its host and what stands for its tag. -/
def chainText (host : Uuid) (tag : Value) : String := host.text ++ "/" ++ tag.display

def ChainName.text (c : ChainName) : String := chainText c.host c.tag.value

/-- A stored record. -/
structure Record where
  id : Uuid
  chain : ChainName
  parent : Uuid
  /-- Nanoseconds since the epoch, as the writer gave them. -/
  timestamp : Cell
  version : Cell
  payload : List UInt8
  userId : Cell
  /-- The position in the chain, from 0. -/
  idx : Cell
  createdAt : Time.Instant
deriving DecidableEq, Inhabited

/-- How a record is shown, from the texts of its fields. -/
def recordSummary (id host tag idx parent : String) : String :=
  "<Record id=" ++ id ++ " host=" ++ host ++ " tag=" ++ tag ++ " idx=" ++ idx ++ " parent="
    ++ parent ++ ">"

namespace Record

/-- The record starts its chain. -/
def isHead (r : Record) : Bool := r.parent = Uuid.nil

def summary (r : Record) : String :=
  recordSummary r.id.text r.chain.host.text r.chain.tag.display r.idx.display r.parent.text

end Record

/-- How a tip row is shown, from the texts of its fields. -/
def tipSummary (host tag tipId length : String) : String :=
  "<RecordTip host=" ++ host ++ " tag=" ++ tag ++ " tip_id=" ++ tipId ++ " length=" ++ length ++ ">"

/-- The row of a chain's tip. -/
structure Tip where
  chain : ChainName
  /-- The user of the chain's first record. -/
  userId : Cell
  tipId : Uuid
  length : Cell
  updatedAt : Time.Instant
deriving DecidableEq, Inhabited

def Tip.summary (t : Tip) : String :=
  tipSummary t.chain.host.text t.chain.tag.display t.tipId.text t.length.display

end ChainLog
