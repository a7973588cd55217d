import Respawn.Fault

/-!
# Faults made from values

A complaint of a known kind is made from a list of values. Its parts come in a fixed order, and only
some kinds have a part that may be left out. An error of the operating system is made from a number,
a text and the files that it is about; from any other list it is made as well, and tells just that.

* `texts_map_text`: a list of texts is read as it is;
* `message_ofValues_single`: an error made from one value tells that value;
* `make_general`: a general complaint takes any number of values;
* `kind_make`: a complaint is of the kind it was made as.
-/

namespace Respawn

namespace Value

/-- The items of a value that has some: those of a list, the characters of a text, the names of a
    table. -/
def items : Value → Except Fault (List Value)
  | .list items => .ok items
  | .text s => .ok (s.toList.map fun c => .text c.toString)
  | .dict entries => .ok (entries.map fun e => .text e.1)
  | .set members => .ok (members.map .text)
  | v => .error (.notIterable v.kind)

/-- The texts in a list of values that holds nothing else; `index` is the place of the first. -/
def textsFrom (index : Nat) : List Value → Except Fault (List String)
  | [] => .ok []
  | .text s :: rest => (textsFrom (index + 1) rest).map (s :: ·)
  | v :: _ => .error (.notText index v.kind)

def texts (vs : List Value) : Except Fault (List String) := textsFrom 0 vs

theorem textsFrom_map_text (index : Nat) (ss : List String) :
    textsFrom index (ss.map .text) = .ok ss := by
  induction ss generalizing index with
  | nil => rfl
  | cons s rest ih => simp [textsFrom, ih, Except.map]

/-- A list of texts is read as it is. -/
theorem texts_map_text (ss : List String) : texts (ss.map .text) = .ok ss :=
  textsFrom_map_text 0 ss

theorem textsFrom_eq_ok {index : Nat} {vs : List Value} {ss : List String}
    (h : textsFrom index vs = .ok ss) : vs = ss.map .text := by
  induction vs generalizing index ss with
  | nil => simp [textsFrom] at h; simp [← h]
  | cons v rest ih =>
    cases v with
    | text s =>
      obtain ⟨found, hr, rfl⟩ := map_eq_ok.1 h
      rw [List.map_cons, ← ih hr]
    | _ => simp [textsFrom] at h

theorem texts_eq_ok {vs : List Value} {ss : List String} (h : texts vs = .ok ss) :
    vs = ss.map .text := textsFrom_eq_ok h

end Value

namespace OsError

/-- The files that an error tells of: one, or one and what it was to become. -/
def filesText : List Value → String
  | [] | .null :: _ => ""
  | [file, _, other] =>
    match other with
    | .null => s!": {file.quotedText}"
    | other => s!": {file.quotedText} -> {other.quotedText}"
  | file :: _ => s!": {file.quotedText}"

/-- The error that a list of values makes. -/
def ofValues : List Value → OsError
  | [.int n, text, .text file] => ⟨some n, text.shown, some file⟩
  | number :: text :: files =>
    if 3 < files.length then ⟨none, Value.together (number :: text :: files), none⟩
    else
      match number with
      | .int n => ⟨some n, text.shown ++ filesText files, none⟩
      | number => ⟨none, s!"[Errno {number}] {text}" ++ filesText files, none⟩
  | vs => ⟨none, Value.together vs, none⟩

/-- An error made from one value tells that value. -/
theorem message_ofValues_single (v : Value) : (ofValues [v]).message = v.shown := by
  cases v <;> rfl

end OsError

namespace Complaint

/-- The kinds of complaints. -/
inductive Kind where
  | general
  | watchSetup
  | childStart
  | childSurvived
  deriving DecidableEq, Repr

def Kind.word : Kind → String
  | .general => "DevloopError"
  | .watchSetup => "WatchSetupError"
  | .childStart => "ChildStartError"
  | .childSurvived => "ChildTerminationError"

def kind : Complaint → Kind
  | .general _ => .general
  | .watchSetup .. => .watchSetup
  | .childStart .. => .childStart
  | .childSurvived _ => .childSurvived

/-- The parts that a kind has to be given. -/
def Kind.needed : Kind → List String
  | .general => []
  | .watchSetup => ["path", "reason"]
  | .childStart => ["argv", "reason"]
  | .childSurvived => ["pid"]

/-- How many more parts a kind may be given. -/
def Kind.optional : Kind → Nat
  | .childStart => 1
  | _ => 0

/-- Names in quotes, with the word "and" before the last. -/
def enumerated : List String → String
  | [] => ""
  | [a] => s!"'{a}'"
  | [a, b] => s!"'{a}' and '{b}'"
  | names =>
    ", ".intercalate ((names.dropLast).map fun n => s!"'{n}'") ++
      ", and '" ++ names.getLastD "" ++ "'"

/-- A complaint that lacks parts. -/
def lacking (k : Kind) (missing : List String) : Fault :=
  let plural := if missing.length = 1 then "" else "s"
  .wrongArguments (s!"{k.word}.__init__() missing {missing.length} required positional " ++
    s!"argument{plural}: {enumerated missing}")

/-- A complaint with too many parts. The complaint itself counts as one. -/
def excessive (k : Kind) (given : Nat) : Fault :=
  let least := k.needed.length + 1
  let range := if k.optional = 0 then s!"{least}" else s!"from {least} to {least + k.optional}"
  .wrongArguments (s!"{k.word}.__init__() takes {range} positional arguments but " ++
    s!"{given + 1} were given")

/-- The complaint of a kind with the given parts. -/
def make (k : Kind) (parts : List Value) : Except Fault Complaint :=
  match k, parts with
  | .general, parts => .ok (.general parts)
  | .watchSetup, [path, reason] => .ok (.watchSetup path reason)
  | .childSurvived, [pid] => .ok (.childSurvived pid)
  | .childStart, [argv, reason] => start argv reason .null
  | .childStart, [argv, reason, code] => start argv reason code
  | k, parts =>
    if parts.length < k.needed.length then .error (lacking k (k.needed.drop parts.length))
    else .error (excessive k parts.length)
where
  start (argv reason code : Value) : Except Fault Complaint := do
    let words ← Value.texts (← argv.items)
    pure (.childStart words reason code)

theorem make_general (parts : List Value) : make .general parts = .ok (.general parts) := by
  simp [make]

theorem kind_start {argv reason code : Value} {c : Complaint}
    (h : make.start argv reason code = .ok c) : c.kind = .childStart := by
  obtain ⟨_, _, h⟩ := bind_eq_ok.1 h
  obtain ⟨_, _, h⟩ := bind_eq_ok.1 h
  cases h
  rfl

/-- A complaint is of the kind it was made as. -/
theorem kind_make {k : Kind} {parts : List Value} {c : Complaint} (h : make k parts = .ok c) :
    c.kind = k := by
  unfold make at h
  split at h
  · cases h; rfl
  · cases h; rfl
  · cases h; rfl
  · exact kind_start h
  · exact kind_start h
  · split at h <;> cases h

end Complaint

end Respawn
