/-
# Refusals

What the store reports when it does not do what it was asked to.  `Report` is
the outward form, with whatever the reporter put into its fields; `Refusal` are
the three reasons for which an append is refused, and `Defect` the ways in which a
stored chain fails to link up.  Each has one text.
-/
import ChainLog.Record

namespace ChainLog

set_option autoImplicit false

/-- A report with its fields. -/
inductive Report where
  | general (args : List Value)
  | notFound (args : List Value)
  | conflict (id : Value)
  | orphan (id parent : Value)
  | fork (host tag id parent tip : Value)
  | broken (host tag id reason : Value)

/-- Arguments by themselves: nothing, the one argument, or all of them in
parentheses. -/
def Value.displayArgs : List Value → String
  | [] => ""
  | [v] => v.display
  | vs => "(" ++ Value.commas (Value.literals vs) ++ ")"

def Report.message : Report → String
  | general args => Value.displayArgs args
  | notFound args => Value.displayArgs args
  | conflict id => "record " ++ id.display ++ " already exists"
  | orphan id parent => "parent " ++ parent.display ++ " of record " ++ id.display ++ " does not exist"
  | fork host tag id parent tip =>
      "record " ++ id.display ++ " would fork " ++ host.display ++ "/" ++ tag.display ++ ": parent "
        ++ parent.display ++ " is not the tip (" ++ tip.display ++ ")"
  | broken host tag id reason =>
      "chain " ++ host.display ++ "/" ++ tag.display ++ " broken at " ++ id.display ++ ": "
        ++ reason.display

/-- Why an append is refused. -/
inductive Refusal where
  /-- A record with this identifier, or at its position, is stored. -/
  | conflict (id : Uuid)
  /-- The parent is not stored. -/
  | orphan (id parent : Uuid)
  /-- The parent is not the tip of the chain, which is `tip` if that is known.  The tag is
  the one that was asked for. -/
  | fork (host : Uuid) (tag : Value) (id parent : Uuid) (tip : Option Uuid)

def Refusal.report : Refusal → Report
  | conflict id => .conflict (.uuid id)
  | orphan id parent => .orphan (.uuid id) (.uuid parent)
  | fork host tag id parent tip =>
      .fork (.uuid host) tag (.uuid id) (.uuid parent) (tip.elim .none .uuid)

def Refusal.message (r : Refusal) : String := r.report.message

/-- What was asked for is not there. -/
inductive Absence where
  | chain (c : ChainName)
  | record (id : Uuid)
  | notInChain (id : Uuid) (c : ChainName)
deriving DecidableEq

def Absence.message : Absence → String
  | chain c => "no chain for " ++ c.text
  | record id => "record " ++ id.text ++ " does not exist"
  | notInChain id c => "record " ++ id.text ++ " is not part of " ++ c.text

def Absence.report (a : Absence) : Report := .notFound [.text a.message]

/-- How a chain fails to link up. -/
inductive Defect where
  | parent (found expected : Uuid)
  | position (found : Cell) (expected : Int)
  | length (ofTip : Cell) (walked : Int)
  | tip (walkedTo ofRow : Uuid)
deriving DecidableEq

def Defect.reason : Defect → String
  | parent found expected => "parent is " ++ found.text ++ ", expected " ++ expected.text
  | position found expected => "idx is " ++ found.display ++ ", expected " ++ toString expected
  | length ofTip walked => "tip length " ++ ofTip.display ++ ", walked " ++ toString walked
  | tip walkedTo ofRow => "walk ended at " ++ walkedTo.text ++ ", tip is " ++ ofRow.text

/-- The first defect of a chain, and the record at which it shows. -/
structure Broken where
  chain : ChainName
  id : Uuid
  defect : Defect
deriving DecidableEq

def Broken.report (b : Broken) : Report :=
  .broken (.uuid b.chain.host) b.chain.tag.value (.uuid b.id) (.text b.defect.reason)

def Broken.message (b : Broken) : String := b.report.message

end ChainLog
