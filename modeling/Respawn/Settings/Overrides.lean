import Respawn.Json
import Respawn.Settings.Defaults

/-!
# Overrides

A file of overrides changes the settings that may be changed. Every entry of the file is answered by
one record: it is taken, or it is refused because there is no such setting, because the setting may
not be changed, or because its value does not convert.

* `applyEntry_other`: an entry changes no setting but its own;
* `applyAll_append`: entries are applied one after the other.
-/

namespace Respawn.Settings

def overridesLogger : String := "devloop.local.config"

/-! ## 1. What may be changed -/

/-- The name under which a settings object keeps the module of its defaults. -/
def moduleName : String := "_defaults"

/-- Names that every settings object answers to without being settings. -/
def reserved : List String :=
  ["_coerce", "_load_defaults", "_load_overrides", "__init__", "__module__",
    "__dict__", "__weakref__", "__doc__", "__class__", "__delattr__", "__dir__", "__eq__",
    "__format__", "__ge__", "__getattribute__", "__getstate__", "__gt__", "__hash__",
    "__init_subclass__", "__le__", "__lt__", "__ne__", "__new__", "__reduce__", "__reduce_ex__",
    "__repr__", "__setattr__", "__sizeof__", "__str__", "__subclasshook__"]

/-- Reserved names that are about the object itself: what its table holds under them does not
    count. -/
def intrinsic : List String := ["__class__", "__dict__", "__weakref__"]

/-- Whether a name is there at all. -/
def answersTo (s : Settings) (name : String) : Bool := Table.has s name || reserved.contains name

/-- Whether one text stands inside another. -/
def standsIn (part : List Char) : List Char → Bool
  | [] => part.isEmpty
  | c :: rest => part.isPrefixOf (c :: rest) || standsIn part rest

/-- Whether a name is a member of a value. -/
def member (name : String) : Value → Except Fault Bool
  | .set members => .ok (members.contains name)
  | .list items => .ok (items.any fun
      | .text s => s = name
      | _ => false)
  | .dict entries => .ok (Table.has entries name)
  | .text s => .ok (standsIn name.toList s.toList)
  | v => .error (.notAContainer v.kind)

/-- Whether the settings let a name be changed. -/
def allows (s : Settings) (name : String) : Except Fault Bool :=
  match get s "MODIFIABLE_SETTINGS" with
  | .ok v => member name v
  | .error f => .error f

/-! ## 2. One entry -/

/-- The settings with a name changed to a converted value. The intrinsic names do not take every
    value, and one of them stands for the whole table. -/
def change (s : Settings) (name : String) (v : Value) : Except Fault Settings :=
  if name = "__class__" then .error (.fixedClass v.kind)
  else if name = "__weakref__" then .error .fixedReferences
  else if name = "__dict__" then
    match v with
    | .dict entries => .ok entries
    | v => .error (.fixedTable v.kind)
  else .ok (Table.put s name v)

/-- The value that an entry gives to its setting. A reserved name that the table does not hold takes
    it as it is, and so does an intrinsic one; a settings object whose conversion was replaced
    converts nothing more. -/
def converted (s : Settings) (name : String) (v : Value) : Except Fault Value :=
  match Table.get? s "_coerce" with
  | some replaced => .error (.notCallable replaced.kind)
  | none =>
    match Table.get? s name, intrinsic.contains name with
    | some old, false => convert old v
    | _, _ => .ok v

/-- A fault that keeps an entry from being taken, and nothing more. -/
def isConversionFault (f : Fault) : Bool := f.isValueFault || f.family = .type

def warningRecord (message : String) : Log.Record := ⟨.warning, overridesLogger, message⟩

def unknownRecord (name : String) : Log.Record :=
  warningRecord s!"Override setting '{name}' not found in default settings. Ignoring."

def forbiddenRecord (name : String) : Log.Record :=
  warningRecord s!"Attempted to override non-modifiable setting '{name}'. Ignoring."

def unconvertedRecord (name : String) (v : Value) (f : Fault) : Log.Record :=
  ⟨.error, overridesLogger, s!"Could not convert value '{v}' for setting '{name}': {f}"⟩

def takenRecord (name : String) (v : Value) : Log.Record :=
  ⟨.debug, overridesLogger, s!"Overridden setting: {name} = {v}"⟩

/-- The settings after one entry, and the record that answers it. -/
def applyEntry (s : Settings) (name : String) (v : Value) :
    Except Fault (Settings × Log.Record) :=
  if !answersTo s name then .ok (s, unknownRecord name)
  else
    match allows s name with
    | .error f => .error f
    | .ok false => .ok (s, forbiddenRecord name)
    | .ok true =>
      match (converted s name v).bind fun w => (change s name w).map fun s => (s, w) with
      | .ok (s, w) => .ok (s, takenRecord name w)
      | .error f =>
        if isConversionFault f then .ok (s, unconvertedRecord name v f) else .error f

/-- The settings after all entries, and the records that answer them. A fault ends the loading. -/
def applyAll (s : Settings) : List (String × Value) → Loading Settings
  | [] => ⟨[], .ok s⟩
  | (name, v) :: rest =>
    match applyEntry s name v with
    | .error f => ⟨[], .error f⟩
    | .ok (s, r) =>
      let later := applyAll s rest
      ⟨r :: later.records, later.result⟩

/-! ## 3. The file -/

/-- What becomes of a file of overrides. -/
inductive Reading where
  | absent
  | refused (record : Log.Record)
  | entries (entries : Table Value)

def errorRecord (message : String) : Log.Record := ⟨.error, overridesLogger, message⟩

def unreadableRecord (p : Path) (reason : String) : Log.Record :=
  errorRecord s!"Failed to load or parse overrides file '{p}': {reason}"

/-- An error of the file system about a path as it was given. -/
def pathFault (e : PathError) (p : Path) : OsError := ⟨some e.number, e.text, some p.text⟩

/-- The entries that a text of overrides holds. -/
def readEntries (p : Path) (s : List Char) : Except Fault Reading :=
  match Json.read s with
  | .error (.defect d rest) =>
    .ok (.refused (unreadableRecord p (Json.locate d s rest).message))
  | .error (.overlong digits) => .error (.overlongInt digits)
  | .error (.tooDeep isObject) => .error (.tooDeep (if isObject then "object" else "array"))
  | .ok (.dict entries) => .ok (.entries entries)
  | .ok _ =>
    .ok (.refused (errorRecord s!"Overrides file '{p}' must contain a JSON object. Ignoring."))

/-- Errors that mean that there is no such file. -/
def meansAbsent : PathError → Bool
  | .missing | .notDirectory | .tooManyLinks => true
  | _ => false

/-- What the file of overrides at a path says. A path that cannot be asked for leads nowhere. -/
def readOverrides (cwd : Path) (t : FileTree) (p : Path) : Except Fault Reading :=
  if !p.isAskable then .ok .absent
  else
    match t.lookupFrom cwd p with
    | .error e => if meansAbsent e then .ok .absent else .error (.os (pathFault e p))
    | .ok (.file bytes) => (fileText bytes).bind (readEntries p)
    | .ok _ => .ok (.refused (unreadableRecord p (pathFault .isDirectory p).message))

/-- Where the settings expect their overrides. -/
def overridesPath (s : Settings) : Except Fault Path :=
  match get s "OVERRIDES_JSON_PATH" with
  | .ok (.path p) => .ok p
  | .ok v => .error (.noExistenceCheck v.kind)
  | .error f => .error f

def loadingRecord (p : Path) : Log.Record :=
  ⟨.info, overridesLogger, s!"Loading configuration overrides from {p}"⟩

/-- The settings with the overrides that they point to. While entries are applied, the settings also
    hold the module of their defaults, whatever it is. -/
def override (s : Settings) (cwd : Path) (t : FileTree) : Loading Settings :=
  match overridesPath s with
  | .error f => ⟨[], .error f⟩
  | .ok p =>
    match readOverrides cwd t p with
    | .error f => ⟨[], .error f⟩
    | .ok .absent => ⟨[], .ok s⟩
    | .ok (.refused r) => ⟨[r], .ok s⟩
    | .ok (.entries entries) =>
      let loaded := applyAll (Table.put s moduleName .null) entries
      ⟨loadingRecord p :: loaded.records, loaded.result⟩

/-- The settings of a module of defaults with overrides over them, read from the given path or else
    from where the defaults say. -/
def merged (module : Table Value) (given : Option Value) (cwd : Path) (t : FileTree) :
    Loading Settings :=
  let s := ofModule module
  match given with
  | none => override s cwd t
  | some v =>
    match toPath v with
    | .error f => ⟨[], .error f⟩
    | .ok p => override (Table.put s "OVERRIDES_JSON_PATH" (.path p)) cwd t

/-- The settings in effect: the defaults of the environment with the overrides over them. -/
def effective (surroundings : EnvFile.Bindings) (cwd : Path) (t : FileTree)
    (reader : EnvReader := envFile) : Loading Settings :=
  let base := defaults surroundings cwd t reader
  match base.result with
  | .error f => ⟨base.records, .error f⟩
  | .ok s =>
    let changed := override s cwd t
    ⟨base.records ++ changed.records, changed.result⟩

/-! ## 4. Rules -/

theorem change_other {s s' : Settings} {name : String} {v : Value} (hd : name ≠ "__dict__")
    (h : change s name v = .ok s') {other : String} (ho : other ≠ name) :
    Table.get? s' other = Table.get? s other := by
  unfold change at h
  split at h
  · cases h
  · split at h
    · cases h
    · simp only [Except.ok.injEq] at h
      exact h ▸ Table.get?_put_of_ne _ ho _

/-- **An entry changes no setting but its own.** -/
theorem applyEntry_other {s s' : Settings} {name : String} {v : Value} {r : Log.Record}
    (hd : name ≠ "__dict__") (h : applyEntry s name v = .ok (s', r)) {other : String}
    (ho : other ≠ name) : Table.get? s' other = Table.get? s other := by
  unfold applyEntry at h
  split at h
  · cases h; rfl
  · split at h
    · cases h
    · cases h; rfl
    · split at h
      · rename_i heq
        cases h
        obtain ⟨w, _, heq⟩ := bind_eq_ok.1 heq
        obtain ⟨s2, hs, heq⟩ := map_eq_ok.1 heq
        cases heq
        exact change_other hd hs ho
      · split at h
        · cases h; rfl
        · cases h

theorem applyAll_append (s : Settings) (before after : List (String × Value)) {s' : Settings}
    (h : (applyAll s before).result = .ok s') :
    applyAll s (before ++ after) =
      ⟨(applyAll s before).records ++ (applyAll s' after).records, (applyAll s' after).result⟩ := by
  induction before generalizing s with
  | nil =>
    simp only [applyAll, Except.ok.injEq] at h
    simp [applyAll, h]
  | cons e rest ih =>
    obtain ⟨name, v⟩ := e
    simp only [List.cons_append, applyAll] at h ⊢
    cases he : applyEntry s name v with
    | error f => simp [he] at h
    | ok p =>
      obtain ⟨s2, r⟩ := p
      simp only [he] at h ⊢
      rw [ih s2 h]
      rfl

end Respawn.Settings
