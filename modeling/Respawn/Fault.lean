import Respawn.Value
import Respawn.Number.Numeral
import Respawn.Text.Utf8

/-!
# Faults

Everything that can go wrong, as causes. Each cause has one wording, `Fault.message`, and belongs to
one family, which decides who handles it.

* `message_cannotWatch`, `message_survived`: the wording of two of the program's own complaints;
* `family_complaint`: a complaint belongs to no other family;
* `bind_eq_ok`: a chain of two steps gives an answer exactly if both steps do.
-/

namespace Respawn

/-! ## 1. The program's own complaints -/

/-- What the program itself complains of. -/
inductive Complaint where
  | general (details : List Value)
  | watchSetup (path reason : Value)
  | childStart (argv : List String) (reason code : Value)
  | childSurvived (pid : Value)
  deriving Repr

namespace Complaint

def message : Complaint → String
  | .general details => Value.together details
  | .watchSetup path reason => s!"Cannot watch '{path}': {reason}"
  | .childStart argv reason _ => "Failed to start '" ++ " ".intercalate argv ++ s!"': {reason}"
  | .childSurvived pid => s!"Process {pid} did not exit after SIGKILL."

end Complaint

/-! ## 2. Causes -/

/-- An error of the operating system: its number, if it has one, its text, and the file it is
    about. -/
structure OsError where
  number : Option Int
  text : String
  file : Option String
  deriving DecidableEq, Repr

def OsError.message (e : OsError) : String :=
  match e.number, e.file with
  | none, _ => e.text
  | some n, none => s!"[Errno {n}] {e.text}"
  | some n, some file => s!"[Errno {n}] {e.text}: {Text.quotedString file}"

/-- The two sorts of numbers that settings are converted to. -/
inductive NumberSort where
  | whole
  | real
  deriving DecidableEq, Repr

/-- The families of faults; a handler names the families it takes. -/
inductive Family where
  | complaint | os | process | interrupt
  | value | decoding | type | attribute | overflow | runtime
  deriving DecidableEq, Repr

/-- What can go wrong. -/
inductive Fault where
  | complaint (c : Complaint)
  | os (e : OsError)
  | noSuchProcess (pid : Int)
  | accessDenied (pid : Int)
  | interrupted
  | malformedInt (text : String)
  | overlongInt (digits : Nat)
  | malformedReal (text : String)
  | undefinedWhole
  | infiniteWhole
  | tooLargeReal
  | notANumber (wanted : NumberSort) (given : Value.Kind)
  | notAPath (given : Value.Kind)
  | notIterable (given : Value.Kind)
  | notAContainer (given : Value.Kind)
  | notText (index : Nat) (given : Value.Kind)
  | notCallable (given : Value.Kind)
  | notComparable (given : Value.Kind)
  | unclosedQuote
  | danglingEscape
  | undecodable (u : Text.Utf8.Undecodable)
  | unencodable (u : Text.Unencodable)
  | missingSetting (name : String)
  | noExistenceCheck (given : Value.Kind)
  | fixedClass (given : Value.Kind)
  | fixedTable (given : Value.Kind)
  | fixedReferences
  | emptyCommand
  | negativeTimeout
  | momentOutOfReach
  | yearOutOfReach
  | unknownLevel (text : String)
  | levelNotInteger (text : String)
  | nulInPath
  | linkLoop (path : String)
  | linksTooDeep
  | tooDeep (container : String)
  | alreadyHeld (pid : Int)
  | wrongArguments (text : String)
  | foreign (family : Family) (text : String)
  deriving Repr

namespace Fault

/-! ## 3. Wording -/

/-- Why a byte sequence is refused. -/
def defectText : Text.Utf8.Defect → String
  | .badStart => "invalid start byte"
  | .badContinuation => "invalid continuation byte"
  | .cutShort => "unexpected end of data"

def undecodableText (u : Text.Utf8.Undecodable) : String :=
  match u.bytes with
  | [b] =>
    let digits := String.ofList (Text.hexDigits 2 b.toNat)
    s!"'utf-8' codec can't decode byte 0x{digits} in position {u.position}: {defectText u.why}"
  | bytes =>
    let last := u.position + bytes.length - 1
    s!"'utf-8' codec can't decode bytes in position {u.position}-{last}: {defectText u.why}"

def unencodableText (u : Text.Unencodable) : String :=
  match u.units with
  | [unit] =>
    let digits := String.ofList (Text.hexDigits 4 unit)
    s!"'utf-8' codec can't encode character '\\u{digits}' in position {u.position}: " ++
      "surrogates not allowed"
  | units =>
    let last := u.position + units.length - 1
    s!"'utf-8' codec can't encode characters in position {u.position}-{last}: " ++
      "surrogates not allowed"

def message : Fault → String
  | .complaint c => c.message
  | .os e => e.message
  | .noSuchProcess pid => s!"process PID not found (pid={pid})"
  | .accessDenied pid => s!"(pid={pid})"
  | .interrupted => ""
  | .malformedInt text =>
    "invalid literal for int() with base 10: " ++
      String.ofList ((Text.quoted text.toList).take 200)
  | .overlongInt digits =>
    s!"Exceeds the limit ({Numeral.digitLimit} digits) for integer string conversion: " ++
      s!"value has {digits} digits; use sys.set_int_max_str_digits() to increase the limit"
  | .malformedReal text => "could not convert string to float: " ++ Text.quotedString text
  | .undefinedWhole => "cannot convert float NaN to integer"
  | .infiniteWhole => "cannot convert float infinity to integer"
  | .tooLargeReal => "int too large to convert to float"
  | .notANumber .whole given =>
    s!"int() argument must be a string, a bytes-like object or a real number, not '{given.word}'"
  | .notANumber .real given =>
    s!"float() argument must be a string or a real number, not '{given.word}'"
  | .notAPath given => s!"expected str, bytes or os.PathLike object, not {given.word}"
  | .notIterable given => s!"'{given.word}' object is not iterable"
  | .notAContainer given => s!"argument of type '{given.word}' is not iterable"
  | .notText index given => s!"sequence item {index}: expected str instance, {given.word} found"
  | .notCallable given => s!"'{given.word}' object is not callable"
  | .notComparable given =>
    s!"'>' not supported between instances of '{given.word}' and 'int'"
  | .unclosedQuote => "No closing quotation"
  | .danglingEscape => "No escaped character"
  | .undecodable u => undecodableText u
  | .unencodable u => unencodableText u
  | .missingSetting name => s!"'MergedSettings' object has no attribute '{name}'"
  | .noExistenceCheck given => s!"'{given.word}' object has no attribute 'exists'"
  | .fixedClass given => s!"__class__ must be set to a class, not '{given.word}' object"
  | .fixedTable given => s!"__dict__ must be set to a dictionary, not a '{given.word}'"
  | .fixedReferences => "attribute '__weakref__' of 'MergedSettings' objects is not writable"
  | .emptyCommand => "BUILD_COMMAND is empty. Nothing to run."
  | .negativeTimeout => "'timeout' must be a non-negative number"
  | .momentOutOfReach => "timestamp out of range for platform time_t"
  | .yearOutOfReach => "signed integer is greater than maximum"
  | .unknownLevel text => s!"Unknown level: {Text.quotedString text}"
  | .levelNotInteger text => s!"Level not an integer or a valid string: {text}"
  | .nulInPath => "embedded null byte"
  | .linkLoop path => s!"Symlink loop from {Text.quotedString path}"
  | .linksTooDeep => "maximum recursion depth exceeded"
  | .tooDeep container =>
    s!"maximum recursion depth exceeded while decoding a JSON {container} from a unicode string"
  | .alreadyHeld pid => s!"Refusing to start a second instance while PID {pid} is held."
  | .wrongArguments text => text
  | .foreign _ text => text

instance : ToString Fault := ⟨message⟩

/-! ## 4. Families -/

def family : Fault → Family
  | .complaint _ => .complaint
  | .os _ => .os
  | .noSuchProcess _ | .accessDenied _ => .process
  | .interrupted => .interrupt
  | .malformedInt _ | .overlongInt _ | .malformedReal _ | .undefinedWhole | .unclosedQuote
  | .danglingEscape | .emptyCommand | .negativeTimeout | .unknownLevel _ | .nulInPath
  | .unencodable _ => .value
  | .undecodable _ => .decoding
  | .infiniteWhole | .tooLargeReal | .momentOutOfReach | .yearOutOfReach => .overflow
  | .notANumber .. | .notAPath _ | .notIterable _ | .notAContainer _ | .notText .. | .notCallable _
  | .notComparable _ | .fixedClass _ | .fixedTable _ | .levelNotInteger _ | .wrongArguments _ => .type
  | .missingSetting _ | .noExistenceCheck _ | .fixedReferences => .attribute
  | .linkLoop _ | .linksTooDeep | .tooDeep _ | .alreadyHeld _ => .runtime
  | .foreign family _ => family

/-- Whether the fault lies in a value: a malformed one, or bytes that are no text. -/
def isValueFault (f : Fault) : Bool := f.family = .value || f.family = .decoding

/-! ## 5. The complaints the program makes -/

@[match_pattern]
def cannotWatch (path reason : String) : Fault :=
  .complaint (.watchSetup (.text path) (.text reason))

@[match_pattern]
def startFailed (argv : List String) (reason : String) (code : Value) : Fault :=
  .complaint (.childStart argv (.text reason) code)

@[match_pattern]
def survived (pid : Int) : Fault := .complaint (.childSurvived (.int pid))

theorem message_cannotWatch (path reason : String) :
    message (cannotWatch path reason) = s!"Cannot watch '{path}': {reason}" := rfl

theorem message_survived (pid : Int) :
    message (survived pid) = s!"Process {pid} did not exit after SIGKILL." := rfl

@[simp] theorem family_complaint (c : Complaint) : family (.complaint c) = .complaint := rfl

end Fault

/-! ## 6. Answers that a fault may take the place of -/

/-- A chain of two steps gives an answer exactly if both steps do. -/
theorem bind_eq_ok {ε α β : Type} {x : Except ε α} {k : α → Except ε β} {b : β} :
    (x >>= k) = .ok b ↔ ∃ a, x = .ok a ∧ k a = .ok b := by
  cases x <;> simp [bind, Except.bind]

theorem map_eq_ok {α β : Type} {x : Except Fault α} {g : α → β} {b : β} :
    x.map g = .ok b ↔ ∃ a, x = .ok a ∧ g a = b := by
  cases x <;> simp [Except.map]

theorem map_eq_error {α β : Type} {x : Except Fault α} {g : α → β} {f : Fault} :
    x.map g = .error f ↔ x = .error f := by
  cases x <;> simp [Except.map]

theorem bind_eq_error {α β : Type} {x : Except Fault α} {k : α → Except Fault β} {f : Fault} :
    (x >>= k) = .error f ↔ x = .error f ∨ ∃ a, x = .ok a ∧ k a = .error f := by
  cases x <;> simp [bind, Except.bind]

end Respawn
