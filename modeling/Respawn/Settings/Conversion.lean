import Respawn.Settings.Basic
import Respawn.Text.CaseMap
import Respawn.Text.Words

/-!
# Conversion of values

A text from the environment, or a value from a file of overrides, is brought to the sort of the value
it replaces.

* `convert_path`, `convert_list_text`, `convert_bool`: how three sorts convert;
* `convert_bool_value`: a truth value that replaces a number stays a truth value.
-/

namespace Respawn.Settings

/-! ## 1. Readings of a text -/

def readWhole (s : String) : Except Fault Int :=
  match Numeral.readInt s.toList with
  | .ok i => .ok i
  | .error .malformed => .error (.malformedInt s)
  | .error (.tooLong digits) => .error (.overlongInt digits)

def readReal (s : String) : Except Fault Binary64 :=
  match Numeral.readReal s.toList with
  | some x => .ok x
  | none => .error (.malformedReal s)

def readWords (s : String) : Except Fault (List String) :=
  match Text.words s.toList with
  | .ok words => .ok (words.map String.ofList)
  | .error .unclosedQuote => .error .unclosedQuote
  | .error .danglingEscape => .error .danglingEscape

/-- The words that mean yes, in small letters; every other text means no. -/
def yesWords : List String := ["true", "1", "t", "yes", "y"]

def readYes (s : String) : Bool := yesWords.contains (String.ofList (Text.toLower s.toList))

/-! ## 2. Conversions of a value -/

/-- The whole number that a value stands for. -/
def toWhole : Value → Except Fault Int
  | .bool b => .ok (if b then 1 else 0)
  | .int i => .ok i
  | .real x =>
    match x.truncate with
    | .ok i => .ok i
    | .error .infinite => .error .infiniteWhole
    | .error .undefined => .error .undefinedWhole
  | .text s => readWhole s
  | v => .error (.notANumber .whole v.kind)

/-- The real number that a value stands for. -/
def toReal : Value → Except Fault Binary64
  | .bool b => .ok (.ofInt (if b then 1 else 0))
  | .int i =>
    match Binary64.ofInt i with
    | .infinite _ => .error .tooLargeReal
    | x => .ok x
  | .real x => .ok x
  | .text s => readReal s
  | v => .error (.notANumber .real v.kind)

/-- The path that a value names. -/
def toPath : Value → Except Fault Path
  | .text s => .ok (Path.ofText s)
  | .path p => .ok p
  | v => .error (.notAPath v.kind)

def listOfWords (words : List String) : Value := .list (words.map .text)

/-- A value in place of another one, converted to its sort. Texts, tables, sets and nothing take any
    value as it is, and a truth value that replaces a number is kept as well. -/
def convert (old new : Value) : Except Fault Value :=
  match old, new with
  | .path _, v => (toPath v).map .path
  | .list _, .text s => (readWords s).map listOfWords
  | .bool _, v => .ok (.bool (readYes v.shown))
  | .int _, .bool b | .real _, .bool b => .ok (.bool b)
  | .int _, v => (toWhole v).map .int
  | .real _, v => (toReal v).map .real
  | _, v => .ok v

theorem convert_path (p : Path) (s : String) :
    convert (.path p) (.text s) = .ok (.path (.ofText s)) := rfl

theorem convert_list_text (items : List Value) (s : String) :
    convert (.list items) (.text s) = (readWords s).map listOfWords := rfl

theorem convert_bool (b : Bool) (v : Value) :
    convert (.bool b) v = .ok (.bool (readYes v.shown)) := by cases v <;> rfl

/-- A truth value that replaces a number stays a truth value. -/
theorem convert_bool_value (i : Int) (b : Bool) : convert (.int i) (.bool b) = .ok (.bool b) := rfl

end Respawn.Settings
