import Respawn.Action
import Respawn.Text.Blank
import Respawn.Text.Utf8

/-!
# Output of the supervised program

What the program prints is logged line by line: decoded leniently, without the blanks at the end of
the line, and without blank lines. If reading fails, what was read so far has been logged, and one
more record says why the reading ended.

* `linesOf_flatten`: cutting a stream into lines loses nothing;
* `lineRecords_nil`: a blank line makes no record;
* `lineRecords_single`: any other line makes exactly one.
-/

namespace Respawn.Child

/-! ## 1. Lines -/

/-- A byte stream cut after each newline byte. -/
def linesOf : List UInt8 → List (List UInt8)
  | [] => []
  | b :: rest =>
    if b = 0x0a then [b] :: linesOf rest
    else
      match linesOf rest with
      | [] => [[b]]
      | line :: lines => (b :: line) :: lines

/-- Cutting a stream into lines loses nothing. -/
theorem linesOf_flatten (bs : List UInt8) : (linesOf bs).flatten = bs := by
  induction bs with
  | nil => rfl
  | cons b rest ih =>
    rw [linesOf]
    split
    · simp [ih]
    · cases h : linesOf rest with
      | nil => rw [h] at ih; simp [← ih]
      | cons line lines => rw [h] at ih; simp [← ih]

/-- The text of a line as it is logged. -/
def lineText (line : List UInt8) : List Char :=
  Text.trimEnd Text.isBlank (Text.Utf8.lenient line)

/-- The two streams that a program writes to. -/
inductive Channel where
  | output
  | errors
  deriving DecidableEq, Repr

def Channel.word : Channel → String
  | .output => "stdout"
  | .errors => "stderr"

def Channel.level : Channel → Log.Level
  | .output => .info
  | .errors => .error

/-- The logger for what the program of the given name prints. -/
def outputLogger (name : String) : String := "proc." ++ name

/-- The record for a line, unless the line is blank or the level is none. -/
def lineRecords (name : String) (level : Log.Level) (line : List UInt8) : List Log.Record :=
  match lineText line with
  | [] => []
  | text => if 0 < level.number then [⟨level, outputLogger name, String.ofList text⟩] else []

theorem lineRecords_nil {line : List UInt8} (h : lineText line = []) (name : String)
    (level : Log.Level) : lineRecords name level line = [] := by simp [lineRecords, h]

theorem lineRecords_single {line : List UInt8} (h : lineText line ≠ []) (name : String)
    {level : Log.Level} (hl : 0 < level.number) : lineRecords name level line =
      [⟨level, outputLogger name, String.ofList (lineText line)⟩] := by
  unfold lineRecords
  split
  · rename_i heq; exact absurd heq h
  · simp [hl]

/-! ## 2. Reading a pipe -/

/-- What reading a pipe yields: lines, and then the end or a fault. -/
structure Pipe where
  lines : List (List UInt8)
  failure : Option Fault

/-- A pipe with the given bytes in it, which fails after `failAfter` lines if a fault is given. A
    fault that lies behind the end of the stream is never met. -/
def Pipe.ofBytes (bs : List UInt8) (failure : Option (Nat × Fault)) : Pipe :=
  let lines := linesOf bs
  match failure with
  | some (failAfter, fault) =>
    if failAfter ≤ lines.length then ⟨lines.take failAfter, some fault⟩ else ⟨lines, none⟩
  | none => ⟨lines, none⟩

def endedRecord (name : String) (f : Fault) : Log.Record :=
  ⟨.debug, outputLogger name, s!"Pipe reader for {name} stream exited: {f}"⟩

variable {σ : Type} [Log.Logbook σ]

def noteAll : List Log.Record → Action σ Unit :=
  Action.each fun r => .modify (Log.Logbook.note r)

/-- Whether a fault ends the reading of a pipe and nothing more. -/
def endsReading (f : Fault) : Bool := f.family = .os || f.isValueFault

/-- Logs what a pipe yields and closes it. -/
def readPipe (close : Action σ Unit) (name : String) (level : Log.Level) (p : Pipe) :
    Action σ Unit :=
  let body : Action σ Unit := do
    noteAll (p.lines.flatMap (lineRecords name level))
    match p.failure with
    | none => pure ()
    | some f => if endsReading f then noteAll [endedRecord name f] else .raise f
  body.ensuring close

end Respawn.Child
