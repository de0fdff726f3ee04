/-
# The arguments of the inspection command

The command takes a host, a tag, and the option `--user` with a number.  An option
may be shortened as long as it stays unambiguous, and its value may follow after
an equals sign; the last value wins.  A negative number is no option.  What comes
after `--` is no option either.

Words that are no options come in runs between the options.  Host and tag are both
taken from the first run (or from none); words of later runs, like unknown
options, are left over and refused, but only after all options have been read.
-/
import ChainLog.Text.DecimalDigit
import ChainLog.Text.Numeral
import ChainLog.Text.Quoted

namespace ChainLog.CommandLine

set_option autoImplicit false

open ChainLog.Text

structure Arguments where
  host : Option String
  tag : String
  /-- The user asked for.  The value after an equals sign may be the mark `--`, which
  is dropped, as it is everywhere: then there is an option without a number. -/
  user : Option (Option Int)
deriving DecidableEq

inductive Refused where
  | userNotNumber (text : String)
  | userMissing
  | helpWithValue (value : String)
  | ambiguous (word : String)
  | leftOver (words : List String)
  | hostMissing
deriving DecidableEq

def Refused.message : Refused → String
  | userNotNumber text => "argument --user: invalid int value: " ++ quoted text
  | userMissing => "argument --user: expected one argument"
  | helpWithValue value => "argument -h/--help: ignored explicit argument " ++ quoted value
  | ambiguous word => "ambiguous option: " ++ word ++ " could match --help, --user"
  | leftOver words => "unrecognized arguments: " ++ " ".intercalate words
  | hostMissing => "host is required unless --user is given"

/-- What a word of the command line is. -/
inductive Word where
  | plain
  /-- The mark after which nothing is an option. -/
  | mark
  | user (value : Option String)
  | help (value : Option String)
  | unknown
  | ambiguous
deriving DecidableEq

/-- A minus and a decimal number; one line break may follow. -/
def isNegativeNumber : List Char → Bool
  | '-' :: r =>
      let number := if r.getLast? = some '\n' then r.dropLast else r
      let isDigit := fun c => (decimalDigit? c).isSome
      let whole := number.takeWhile isDigit
      match number.dropWhile isDigit with
      | [] => !whole.isEmpty
      | '.' :: fraction => !fraction.isEmpty && fraction.all isDigit
      | _ => false
  | _ => false

/-- What a word is that begins with a hyphen and names no option exactly. -/
def otherWord (w : List Char) : Word :=
  if isNegativeNumber w || w.contains ' ' then .plain else .unknown

/-- What a word is of which the letters after `-h` are these: each further `h` asks for
help again, and anything else is taken for a value. -/
def helpLetters (letters : List Char) : Word :=
  match letters.dropWhile (· == 'h') with
  | [] => .help none
  | rest => .help (some (String.ofList rest))

/-- What a word is before the mark. -/
def classify (word : String) : Word :=
  let w := word.toList
  let name := w.takeWhile (· != '=')
  let value : Option String :=
    if w.contains '=' then some (String.ofList ((w.dropWhile (· != '=')).drop 1)) else none
  if word = "--" then .mark
  else
    match w with
    | ['-'] => .plain
    | '-' :: '-' :: _ =>
        match name.isPrefixOf "--help".toList, name.isPrefixOf "--user".toList with
        | true, true => .ambiguous
        | true, false => .help value
        | false, true => .user value
        | false, false => otherWord w
    | ['-', 'h', '='] => .help (some "")
    | '-' :: 'h' :: '=' :: r => helpLetters r
    | '-' :: 'h' :: r => helpLetters r
    | '-' :: _ => otherWord w
    | _ => .plain

/-- The words with what they are. -/
def classifyAll : List String → List (String × Word)
  | [] => []
  | w :: r =>
      match classify w with
      | .mark => (w, .mark) :: r.map fun v => (v, .plain)
      | k => (w, k) :: classifyAll r

/-- One of the two words of a run, marks around it included: its texts, and the
rest of the run. -/
def takeWord (run : List (String × Word)) : List String × List (String × Word) :=
  let before := run.takeWhile (·.2 = .mark)
  let rest := run.dropWhile (·.2 = .mark)
  let word := rest.take 1
  let after := (rest.drop 1).takeWhile (·.2 = .mark)
  ((before ++ word ++ after).map (·.1), (rest.drop 1).dropWhile (·.2 = .mark))

/-- The word itself; the first mark among its texts is dropped. -/
def wordText (texts : List String) : Option String := (texts.erase "--").head?

/-- What has been read of a command line. -/
structure Progress where
  arguments : Arguments
  /-- Host and tag have been taken. -/
  settled : Bool
  leftOver : List String

/-- A run of words: host and tag are taken from the first, later ones are left
over. -/
def Progress.takeRun (p : Progress) (run : List (String × Word)) : Progress :=
  if p.settled then { p with leftOver := p.leftOver ++ run.map (·.1) }
  else
    let (host, rest) := takeWord run
    let (tag, rest) := takeWord rest
    { arguments := { p.arguments with
        host := wordText host
        tag := (wordText tag).getD "history" }
      settled := true
      leftOver := p.leftOver ++ rest.map (·.1) }

/-- How reading a command line ends. -/
inductive Reading where
  | arguments (a : Arguments)
  | help
  | refused (r : Refused)
deriving DecidableEq

/-- Note what `--user` was given. -/
def Progress.setUser (p : Progress) (text : String) : Except Refused Progress :=
  if text = "--" then .ok { p with arguments := { p.arguments with user := some none } }
  else
    match Numeral.read .ten text.toList with
    | .ok n => .ok { p with arguments := { p.arguments with user := some (some n) } }
    | .error _ => .error (.userNotNumber text)

def Progress.finish (p : Progress) : Reading :=
  if p.leftOver = [] then .arguments p.arguments else .refused (.leftOver p.leftOver)

/-- Read the words from left to right; `run` holds the words of the run at hand. -/
def readWords (p : Progress) (run : List (String × Word)) : List (String × Word) → Reading
  | [] => (if run = [] then p else p.takeRun run).finish
  | (w, k) :: r =>
      let q := if run = [] then p else p.takeRun run
      match k, r with
      | .plain, r => readWords p (run ++ [(w, .plain)]) r
      | .mark, r => readWords p (run ++ [(w, .mark)]) r
      | .help none, _ => .help
      | .help (some value), _ => .refused (.helpWithValue value)
      | .user (some value), r =>
          match q.setUser value with
          | .ok q => readWords q [] r
          | .error e => .refused e
      | .user none, (v, .plain) :: r =>
          match q.setUser v with
          | .ok q => readWords q [] r
          | .error e => .refused e
      | .user none, _ => .refused .userMissing
      | .unknown, r => readWords { q with leftOver := q.leftOver ++ [w] } [] r
      | .ambiguous, _ => .refused (.ambiguous w)

/-- Read a command line. -/
def read (words : List String) : Reading :=
  let classified := classifyAll words
  match classified.find? (·.2 = .ambiguous) with
  | some (w, _) => .refused (.ambiguous w)
  | none => readWords ⟨⟨none, "history", none⟩, false, []⟩ [] classified

end ChainLog.CommandLine
