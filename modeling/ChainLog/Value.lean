/-
# Untyped field values

A caller may put anything into the fields of a record before the store has seen
it.  `Value` is that anything: the types the store accepts, and the others that
its error messages have to name and show.

`display` is a value by itself in a message, `literal` the same value inside a
list, a dictionary or an argument list, where texts are quoted.
-/
import ChainLog.Decimal.Layout
import ChainLog.Text.Quoted
import ChainLog.Uuid

namespace ChainLog

set_option autoImplicit false

/-- The three carriers of raw bytes. -/
inductive Carrier where
  | bytes
  | bytearray
  | memoryview
deriving DecidableEq, Repr

def Carrier.name : Carrier → String
  | .bytes => "bytes"
  | .bytearray => "bytearray"
  | .memoryview => "memoryview"

inductive Value where
  | none
  | bool (b : Bool)
  | int (n : Int)
  | float (x : Float)
  | text (s : String)
  | uuid (u : Uuid)
  | bytes (carrier : Carrier) (content : List UInt8)
  | list (items : List Value)
  | dict (entries : List (String × Value))

namespace Value

instance : Inhabited Value := ⟨none⟩

/-- The name of a value's type in messages. -/
def typeName : Value → String
  | none => "NoneType"
  | bool _ => "bool"
  | int _ => "int"
  | float _ => "float"
  | text _ => "str"
  | uuid _ => "UUID"
  | bytes carrier _ => carrier.name
  | list _ => "list"
  | dict _ => "dict"

def isNone : Value → Bool
  | none => true
  | _ => false

/-- A whole number, of which true and false are one and zero. -/
def toInt? : Value → Option Int
  | bool b => some (if b then 1 else 0)
  | int n => some n
  | _ => Option.none

/-- Texts separated by a comma and a blank. -/
def commas : List String → String
  | [] => ""
  | [s] => s
  | s :: r => s ++ ", " ++ commas r

def bytesLiteral (carrier : Carrier) (content : List UInt8) : String :=
  match carrier with
  | .bytes => String.ofList (Text.Quoted.encodeBytes content)
  | .bytearray => "bytearray(" ++ String.ofList (Text.Quoted.encodeBuffer content) ++ ")"
  | .memoryview => "<memory>"

mutual

/-- A value inside another one. -/
def literal : Value → String
  | none => "None"
  | bool b => if b then "True" else "False"
  | int n => toString n
  | float x => Decimal.plain.float x
  | text s => Text.quoted s
  | uuid u => "UUID('" ++ u.text ++ "')"
  | bytes carrier content => bytesLiteral carrier content
  | list items => "[" ++ commas (literals items) ++ "]"
  | dict entries => "\x7b" ++ commas (entryLiterals entries) ++ "\x7d"

def literals : List Value → List String
  | [] => []
  | v :: r => literal v :: literals r

def entryLiterals : List (String × Value) → List String
  | [] => []
  | (k, v) :: r => (Text.quoted k ++ ": " ++ literal v) :: entryLiterals r

end

/-- A value by itself. -/
def display : Value → String
  | text s => s
  | uuid u => u.text
  | v => v.literal

end Value

end ChainLog
