import Respawn.Number.Decimal
import Respawn.Path
import Respawn.Text.Quoted

/-!
# Values

What a setting may hold: nothing, a truth value, a number, a text, a path, a list, a table or a set
of texts. A table keeps its keys in the order they came in.

* `quotedText`: a value as it stands inside another one;
* `shown`: a value on its own, a text without quotes;
* `together`: several values, which stand inside of brackets;
* `isTrue_text`: an empty text counts as false, any other as true.
-/

namespace Respawn

/-- What a setting may hold. -/
inductive Value where
  | null
  | bool (b : Bool)
  | int (i : Int)
  | real (x : Binary64)
  | text (s : String)
  | path (p : Path)
  | list (items : List Value)
  | dict (entries : List (String × Value))
  | set (members : List String)
  deriving Repr, Inhabited

namespace Value

/-! ## 1. Kinds -/

/-- The kinds of values. -/
inductive Kind where
  | null | bool | int | real | text | path | list | dict | set
  deriving DecidableEq, Repr

def kind : Value → Kind
  | .null => .null
  | .bool _ => .bool
  | .int _ => .int
  | .real _ => .real
  | .text _ => .text
  | .path _ => .path
  | .list _ => .list
  | .dict _ => .dict
  | .set _ => .set

/-- The word for a kind in messages. -/
def Kind.word : Kind → String
  | .null => "NoneType"
  | .bool => "bool"
  | .int => "int"
  | .real => "float"
  | .text => "str"
  | .path => "PosixPath"
  | .list => "list"
  | .dict => "dict"
  | .set => "set"

/-! ## 2. Text of a value -/

def boolText (b : Bool) : String := if b then "True" else "False"

def realText (x : Binary64) : String := String.ofList x.toText

mutual

/-- A value as it stands inside another one: texts are quoted. -/
def quotedText : Value → String
  | .null => "None"
  | .bool b => boolText b
  | .int i => toString i
  | .real x => realText x
  | .text s => Text.quotedString s
  | .path p => "PosixPath(" ++ Text.quotedString p.text ++ ")"
  | .list items => "[" ++ ", ".intercalate (quotedItems items) ++ "]"
  | .dict entries => "\x7b" ++ ", ".intercalate (quotedEntries entries) ++ "\x7d"
  | .set [] => "set()"
  | .set members => "\x7b" ++ ", ".intercalate (members.map Text.quotedString) ++ "\x7d"

def quotedItems : List Value → List String
  | [] => []
  | v :: rest => quotedText v :: quotedItems rest

def quotedEntries : List (String × Value) → List String
  | [] => []
  | (key, v) :: rest => (Text.quotedString key ++ ": " ++ quotedText v) :: quotedEntries rest

end

/-- A value on its own: a text stands for itself. -/
def shown : Value → String
  | .text s => s
  | .path p => p.text
  | v => quotedText v

instance : ToString Value := ⟨shown⟩

/-- Values told together: none is nothing, one stands for itself, and more stand in brackets. -/
def together : List Value → String
  | [] => ""
  | [v] => v.shown
  | vs => "(" ++ ", ".intercalate (quotedItems vs) ++ ")"

@[simp] theorem shown_text (s : String) : shown (.text s) = s := rfl

@[simp] theorem shown_path (p : Path) : shown (.path p) = p.text := rfl

/-! ## 3. Truth -/

/-- Whether a value counts as true: zero, nothing, and whatever is empty do not. -/
def isTrue : Value → Bool
  | .null => false
  | .bool b => b
  | .int i => i ≠ 0
  | .real x => !Binary64.eq x .zero
  | .text s => s ≠ ""
  | .path _ => true
  | .list items => !items.isEmpty
  | .dict entries => !entries.isEmpty
  | .set members => !members.isEmpty

@[simp] theorem isTrue_text (s : String) : isTrue (.text s) = decide (s ≠ "") := rfl

end Value

end Respawn
