import Respawn.Fault
import Respawn.Log.Record

/-!
# Layout of a log line

A line shows when, how grave, by whom and what. What the supervised program prints is shown as it was
written.

* `civil_epoch`, `civil_leap_day`: two days of the calendar;
* `write_output`: the supervised program's lines need no calendar;
* `line_output`: the supervised program's lines are shown bare;
* `lineOf_plain`: a record without a trace is one line.
-/

namespace Respawn.Log

/-! ## 1. Time -/

/-- A moment: whole seconds since the start of 1970, and milliseconds. -/
structure Stamp where
  seconds : Int
  millis : Int
  deriving DecidableEq, Repr

/-- Year, month and day of the day with the given number, counted from the start of 1970. The count
    goes by eras of 400 years that begin with March. -/
def civil (day : Int) : Int × Nat × Nat :=
  let shifted := day + 719468
  let era := shifted / 146097
  let dayOfEra := (shifted % 146097).toNat
  let yearOfEra :=
    (dayOfEra - dayOfEra / 1460 + dayOfEra / 36524 - dayOfEra / 146096) / 365
  let dayOfYear := dayOfEra - (365 * yearOfEra + yearOfEra / 4 - yearOfEra / 100)
  let shiftedMonth := (5 * dayOfYear + 2) / 153
  let day := dayOfYear - (153 * shiftedMonth + 2) / 5 + 1
  let month := if shiftedMonth < 10 then shiftedMonth + 3 else shiftedMonth - 9
  (yearOfEra + era * 400 + (if month ≤ 2 then 1 else 0), month, day)

theorem civil_epoch : civil 0 = (1970, 1, 1) := by decide

theorem civil_leap_day : civil 11016 = (2000, 2, 29) := by decide

/-- A number with zeros in front up to the given width. -/
def padded (width n : Nat) : String :=
  let digits := toString n
  String.ofList (List.replicate (width - digits.length) '0') ++ digits

/-- A number with zeros in front up to the given width, in which a sign counts. -/
def paddedInt (width : Nat) (n : Int) : String :=
  if n < 0 then "-" ++ padded (width - 1) n.natAbs else padded width n.natAbs

/-- The largest number that a word of 64 bits holds. -/
def longLimit : Int := 9223372036854775807

/-- The largest number that a word of 32 bits holds. -/
def shortLimit : Int := 2147483647

/-- Whether a number is too large for a word, or too far below zero. -/
def exceeds (limit n : Int) : Bool := limit < n || n < -limit - 1

/-- Why the calendar has no text for a moment, if it has none: its seconds need more than a long
    word, or its year more than a short one, counted from 1900 on or in full. -/
def Stamp.fault? (t : Stamp) : Option Fault :=
  let (year, _, _) := civil (t.seconds / 86400)
  if exceeds longLimit t.seconds then some .momentOutOfReach
  else if exceeds shortLimit (year - 1900) then
    some (.os ⟨some 75, "Value too large for defined data type", none⟩)
  else if exceeds shortLimit year then some .yearOutOfReach
  else none

def Stamp.text (t : Stamp) : String :=
  let (year, month, day) := civil (t.seconds / 86400)
  let second := (t.seconds % 86400).toNat
  s!"{year}-{padded 2 month}-{padded 2 day} " ++
    s!"{padded 2 (second / 3600)}:{padded 2 (second / 60 % 60)}:{padded 2 (second % 60)}," ++
    paddedInt 3 t.millis

/-! ## 2. Lines -/

/-- What may come with a record: the trace of a fault, and where the record was made. -/
structure Trace where
  fault : String
  place : String
  deriving DecidableEq, Repr

def Trace.none : Trace := ⟨"", ""⟩

/-- Text with more of it on a new line, if there is more. -/
def under (text more : String) : String :=
  if more.isEmpty then text
  else if text.toList.getLast? = some '\n' then text ++ more
  else text ++ "\n" ++ more

/-- A text with blanks behind it up to the given width. -/
def filled (width : Nat) (text : String) : String :=
  text ++ String.ofList (List.replicate (width - text.length) ' ')

/-- The two layouts: the one in use while the settings are not known yet, which shows the same name
    for every logger, and the one in use after that. -/
inductive Layout where
  | preliminary
  | regular
  deriving DecidableEq, Repr

/-- The line with everything in it. -/
def fullLine (time : Stamp) (shownLogger : String) (r : Record) (trace : Trace) : String :=
  under (under s!"{time.text} - {filled 8 r.level.name} - [{shownLogger}] - {r.message}"
    trace.fault) trace.place

/-- The loggers for what the supervised program prints start like this. -/
def outputGroup : String := "proc."

def isOutput (r : Record) : Bool := outputGroup.toList.isPrefixOf r.logger.toList

def Layout.line (layout : Layout) (time : Stamp) (r : Record) (trace : Trace) : String :=
  match layout with
  | .preliminary => fullLine time "console" r trace
  | .regular => if isOutput r then r.message else fullLine time r.logger r trace

/-- Whether a layout shows the time of a record. -/
def Layout.isTimed (layout : Layout) (r : Record) : Bool := layout = .preliminary || !isOutput r

/-- The line for a record, unless it would show a time that the calendar has no text for. -/
def Layout.write (layout : Layout) (time : Stamp) (r : Record) (trace : Trace) :
    Except Fault String :=
  match layout.isTimed r, time.fault? with
  | true, some f => .error f
  | _, _ => .ok (layout.line time r trace)

/-- The supervised program's lines need no calendar. -/
theorem write_output {r : Record} (h : isOutput r = true) (time : Stamp) (trace : Trace) :
    Layout.regular.write time r trace = .ok r.message := by
  simp [Layout.write, Layout.isTimed, Layout.line, h]

/-- The supervised program's lines are shown bare. -/
theorem line_output {r : Record} (h : isOutput r = true) (time : Stamp) (trace : Trace) :
    Layout.regular.line time r trace = r.message := by simp [Layout.line, h]

@[simp] theorem under_empty (text : String) : under text "" = text := by simp [under]

theorem lineOf_plain {r : Record} (h : isOutput r = false) (time : Stamp) :
    Layout.regular.line time r .none =
      s!"{time.text} - {filled 8 r.level.name} - [{r.logger}] - {r.message}" := by
  simp [Layout.line, h, fullLine, Trace.none]

end Respawn.Log
