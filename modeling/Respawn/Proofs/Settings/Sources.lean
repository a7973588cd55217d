import Respawn.Settings.Overrides

/-!
# Where the default settings come from

Every setting that may be overridden has a variable of the environment, a sort, and a text that counts
where the variable is not set. The other settings are the same in every environment, or are places
and levels, which any text gives.

* `stems_ofEnvironment`: what the settings of an environment hold;
* `ofEnvironment_error`: why an environment gives none.
-/

namespace Respawn.Settings

open EnvFile (Bindings)

/-! ## 1. Sources -/

/-- Where a setting comes from: its sort, the variable that gives it, and the text that counts where
    the variable is not set. -/
structure Source where
  setting : String
  kind : Value.Kind
  key : String
  fallback : String
  deriving DecidableEq, Repr

/-- The sources of the settings that may be overridden. -/
def sources : List Source :=
  [⟨"BUILD_COMMAND", .list, "DEVLOOP_BUILD_COMMAND", "cargo run"⟩,
    ⟨"ARGS_SEPARATOR", .text, "DEVLOOP_ARGS_SEPARATOR", "--"⟩,
    ⟨"PRIMARY_HOST", .text, "DEVLOOP_PRIMARY_HOST", "127.0.0.1"⟩,
    ⟨"PRIMARY_PORT", .int, "DEVLOOP_PRIMARY_PORT", "6379"⟩,
    ⟨"REPLICA_PORT", .int, "DEVLOOP_REPLICA_PORT", "6380"⟩,
    ⟨"WATCH_GLOB", .text, "DEVLOOP_WATCH_GLOB", "src/*"⟩,
    ⟨"DEBOUNCE_SECONDS", .real, "DEVLOOP_DEBOUNCE_SECONDS", "0.2"⟩,
    ⟨"STARTUP_CHECK_SECONDS", .real, "DEVLOOP_STARTUP_CHECK_SECONDS", "0.5"⟩,
    ⟨"GRACEFUL_SHUTDOWN_TIMEOUT", .real, "DEVLOOP_GRACEFUL_SHUTDOWN_TIMEOUT", "0"⟩,
    ⟨"CAPTURE_CHILD_OUTPUT", .bool, "DEVLOOP_CAPTURE_CHILD_OUTPUT", "True"⟩]

/-- Every source has a variable of its own. -/
theorem key_inj : ∀ a ∈ sources, ∀ b ∈ sources, a.key = b.key → a = b := by decide

/-- What a text is read as for a setting of a sort. -/
def readAs : Value.Kind → String → Except Fault Value
  | .list, s => (readWords s).map listOfWords
  | .int, s => (readWhole s).map .int
  | .real, s => (readReal s).map .real
  | .bool, s => .ok (.bool (readYes s))
  | .path, s => .ok (.path (.ofText s))
  | .text, s | .null, s | .dict, s | .set, s => .ok (.text s)

theorem readWhole_fault {text : String} {f : Fault} (h : readWhole text = .error f) :
    f.isValueFault = true := by
  unfold readWhole at h
  split at h <;> cases h <;> rfl

theorem readReal_fault {text : String} {f : Fault} (h : readReal text = .error f) :
    f.isValueFault = true := by
  unfold readReal at h
  split at h <;> cases h
  rfl

theorem readWords_fault {text : String} {f : Fault} (h : readWords text = .error f) :
    f.isValueFault = true := by
  unfold readWords at h
  split at h <;> cases h <;> rfl

/-- What cannot be read is a matter of its value. -/
theorem readAs_fault {kind : Value.Kind} {s : String} {f : Fault} (h : readAs kind s = .error f) :
    f.isValueFault = true := by
  cases kind with
  | list => exact readWords_fault (map_eq_error.1 h)
  | int => exact readWhole_fault (map_eq_error.1 h)
  | real => exact readReal_fault (map_eq_error.1 h)
  | null | bool | text | path | dict | set => cases h

/-- A value of a sort; a list is one of texts. -/
structure HasSort (kind : Value.Kind) (v : Value) : Prop where
  kind_eq : v.kind = kind
  words (items : List Value) : v = .list items → ∀ item ∈ items, item.kind = .text

theorem HasSort.of_kind {kind : Value.Kind} {v : Value} (hk : v.kind = kind) (h : kind ≠ .list) :
    HasSort kind v :=
  ⟨hk, fun _ same => absurd (hk.symm.trans (congrArg Value.kind same)) h⟩

theorem hasSort_listOfWords (words : List String) : HasSort .list (listOfWords words) := by
  refine ⟨rfl, fun items same item hi => ?_⟩
  cases same
  obtain ⟨word, _, rfl⟩ := List.mem_map.1 hi
  rfl

/-- The sorts that there are among the sources. -/
theorem Source.kind_cases {src : Source} (h : src ∈ sources) : src.kind = .list ∨
    src.kind = .text ∨ src.kind = .int ∨ src.kind = .real ∨ src.kind = .bool := by
  have known : ∀ src ∈ sources, src.kind = .list ∨ src.kind = .text ∨ src.kind = .int ∨
      src.kind = .real ∨ src.kind = .bool := by decide
  exact known src h

/-- What is read for a source is of its sort. -/
theorem readAs_hasSort {src : Source} (hs : src ∈ sources) {s : String} {v : Value}
    (h : readAs src.kind s = .ok v) : HasSort src.kind v := by
  have kind := Source.kind_cases hs
  generalize src.kind = kind at h kind ⊢
  rcases kind with rfl | rfl | rfl | rfl | rfl
  · obtain ⟨words, _, rfl⟩ := map_eq_ok.1 h
    exact hasSort_listOfWords words
  · cases h
    exact .of_kind rfl nofun
  · obtain ⟨i, _, rfl⟩ := map_eq_ok.1 h
    exact .of_kind rfl nofun
  · obtain ⟨x, _, rfl⟩ := map_eq_ok.1 h
    exact .of_kind rfl nofun
  · cases h
    exact .of_kind rfl nofun

/-- The text that an environment has for a source. -/
def Source.text (src : Source) (env : Bindings) : String := (env.get? src.key).getD src.fallback

/-- What a source is read as in an environment. -/
def Source.read (src : Source) (env : Bindings) : Except Fault Value :=
  readAs src.kind (src.text env)

/-- Where the variable is not set, a source can be read. -/
theorem fallback_reads : ∀ src ∈ sources, ∃ v, readAs src.kind src.fallback = .ok v := by
  intro src h
  simp only [sources, List.mem_cons, List.not_mem_nil, or_false] at h
  rcases h with rfl | rfl | rfl | rfl | rfl | rfl | rfl | rfl | rfl | rfl <;> exact ⟨_, rfl⟩

/-! ## 2. The settings of an environment -/

/-- The base directory as an environment spells it. -/
def basePath (env : Bindings) (home : Path) : Path :=
  .ofText ((env.get? "DEVLOOP_WATCH_BASE_DIR").getD home.text)

/-- Where an environment expects a file of overrides. -/
def overridesPlace (env : Bindings) (home : Path) (tree : FileTree) : Except Fault Path :=
  (tree.canonical home (basePath env home)).map fun base =>
    .ofText ((env.get? "DEVLOOP_OVERRIDES").getD
      ((base.child ".devloop").child "overrides.json").text)

/-- The settings that no variable gives. -/
def constants : Table Value :=
  [("CHILD_PROCESS_NAME", .text "server"), ("PRIMARY_ROLE_NAME", .text "master"),
    ("SUPERVISOR_SLEEP_INTERVAL", .real half), ("KILL_TIMEOUT", .int 5),
    ("MODIFIABLE_SETTINGS", .set modifiable)]

/-- The names of all settings. -/
def settingNames : List String :=
  ["_ENV", "WATCH_BASE_DIR", "STATE_DIR", "OVERRIDES_JSON_PATH", "BUILD_COMMAND", "ARGS_SEPARATOR",
    "CHILD_PROCESS_NAME", "PRIMARY_ROLE_NAME", "PRIMARY_HOST", "PRIMARY_PORT", "REPLICA_PORT",
    "WATCH_GLOB", "DEBOUNCE_SECONDS", "SUPERVISOR_SLEEP_INTERVAL", "STARTUP_CHECK_SECONDS",
    "GRACEFUL_SHUTDOWN_TIMEOUT", "KILL_TIMEOUT", "CAPTURE_CHILD_OUTPUT", "LOG_LEVEL",
    "LOG_FILE_PATH", "MODIFIABLE_SETTINGS"]

theorem settingNames_isUpper : ∀ name ∈ settingNames, Text.isUpperName name = true := by decide

/-- What the settings of an environment hold. -/
structure Stems (env : Bindings) (home : Path) (tree : FileTree) (module : Settings) : Prop where
  names : Table.names module = settingNames
  base : ∃ base, tree.canonical home (basePath env home) = .ok base ∧
    Table.get? module "WATCH_BASE_DIR" = some (.path base)
  place : overridesPlace env home tree = overridesPath module
  source : ∀ src ∈ sources, ∃ v, src.read env = .ok v ∧ Table.get? module src.setting = some v
  constant : ∀ e ∈ constants, Table.get? module e.1 = some e.2
  logLevel : ∃ level, Table.get? module "LOG_LEVEL" = some (.text level)
  logFile : Table.get? module "LOG_FILE_PATH" = some .null ∨
    ∃ file, Table.get? module "LOG_FILE_PATH" = some (.path file)

section OfEnvironment

variable {env : Bindings} {home : Path} {tree : FileTree} {module : Settings}

/-- **The settings of an environment: each source gives its own.** -/
theorem stems_ofEnvironment (h : ofEnvironment env home tree = .ok module) :
    Stems env home tree module := by
  unfold ofEnvironment at h
  obtain ⟨base, found, h⟩ := bind_eq_ok.1 h
  obtain ⟨command, hcommand, h⟩ := bind_eq_ok.1 h
  obtain ⟨primaryPort, hprimary, h⟩ := bind_eq_ok.1 h
  obtain ⟨replicaPort, hreplica, h⟩ := bind_eq_ok.1 h
  obtain ⟨debounce, hdebounce, h⟩ := bind_eq_ok.1 h
  obtain ⟨startup, hstartup, h⟩ := bind_eq_ok.1 h
  obtain ⟨grace, hgrace, h⟩ := bind_eq_ok.1 h
  cases h
  refine ⟨rfl, ⟨base, found, rfl⟩, map_eq_ok.2 ⟨base, found, rfl⟩, fun src hs => ?_, fun e he => ?_,
    ⟨_, rfl⟩, ?_⟩
  · simp only [sources, List.mem_cons, List.not_mem_nil, or_false] at hs
    rcases hs with rfl | rfl | rfl | rfl | rfl | rfl | rfl | rfl | rfl | rfl
    · exact ⟨_, map_eq_ok.2 ⟨_, hcommand, rfl⟩, rfl⟩
    · exact ⟨_, rfl, rfl⟩
    · exact ⟨_, rfl, rfl⟩
    · exact ⟨_, map_eq_ok.2 ⟨_, hprimary, rfl⟩, rfl⟩
    · exact ⟨_, map_eq_ok.2 ⟨_, hreplica, rfl⟩, rfl⟩
    · exact ⟨_, rfl, rfl⟩
    · exact ⟨_, map_eq_ok.2 ⟨_, hdebounce, rfl⟩, rfl⟩
    · exact ⟨_, map_eq_ok.2 ⟨_, hstartup, rfl⟩, rfl⟩
    · exact ⟨_, map_eq_ok.2 ⟨_, hgrace, rfl⟩, rfl⟩
    · exact ⟨_, rfl, rfl⟩
  · simp only [constants, List.mem_cons, List.not_mem_nil, or_false] at he
    rcases he with rfl | rfl | rfl | rfl | rfl <;> rfl
  · have file (text : String) : (if text = "" then Value.null else .path (.ofText text)) = .null ∨
        ∃ p, (if text = "" then Value.null else .path (.ofText text)) = .path p := by
      split
      · exact .inl rfl
      · exact .inr ⟨_, rfl⟩
    exact (file _).imp (congrArg some) fun ⟨p, hp⟩ => ⟨p, congrArg some hp⟩

/-- What an environment says of the log: the level of the console in capitals, and a file. -/
theorem log_ofEnvironment (h : ofEnvironment env home tree = .ok module) :
    Table.get? module "LOG_LEVEL" = some (.text (String.ofList
      (Text.toUpper ((env.get? "DEVLOOP_LOG_LEVEL").getD "INFO").toList))) ∧
    Table.get? module "LOG_FILE_PATH" = some (if (env.get? "DEVLOOP_LOG_FILE").getD "" = "" then .null
      else .path (.ofText ((env.get? "DEVLOOP_LOG_FILE").getD ""))) := by
  unfold ofEnvironment at h
  obtain ⟨base, -, h⟩ := bind_eq_ok.1 h
  obtain ⟨command, -, h⟩ := bind_eq_ok.1 h
  obtain ⟨primaryPort, -, h⟩ := bind_eq_ok.1 h
  obtain ⟨replicaPort, -, h⟩ := bind_eq_ok.1 h
  obtain ⟨debounce, -, h⟩ := bind_eq_ok.1 h
  obtain ⟨startup, -, h⟩ := bind_eq_ok.1 h
  obtain ⟨grace, -, h⟩ := bind_eq_ok.1 h
  cases h
  exact ⟨rfl, rfl⟩

theorem logLevel_ofEnvironment (h : ofEnvironment env home tree = .ok module) :
    Table.get? module "LOG_LEVEL" = some (.text (String.ofList
      (Text.toUpper ((env.get? "DEVLOOP_LOG_LEVEL").getD "INFO").toList))) :=
  (log_ofEnvironment h).1

/-- An environment without settings has a base directory that cannot be found, or a source that
    cannot be read. -/
theorem ofEnvironment_error {f : Fault} (h : ofEnvironment env home tree = .error f) :
    tree.canonical home (basePath env home) = .error f ∨
      ∃ src ∈ sources, src.read env = .error f := by
  have unread (i : Nat) (hi : i < sources.length) (h : sources[i].read env = .error f) :
      ∃ src ∈ sources, src.read env = .error f := ⟨sources[i], List.getElem_mem hi, h⟩
  have whole (i : Nat) (hi : i < sources.length) (hk : sources[i].kind = .int)
      (h : readWhole (sources[i].text env) = .error f) :
      ∃ src ∈ sources, src.read env = .error f :=
    unread i hi (by rw [Source.read, hk]; exact map_eq_error.2 h)
  have real (i : Nat) (hi : i < sources.length) (hk : sources[i].kind = .real)
      (h : readReal (sources[i].text env) = .error f) :
      ∃ src ∈ sources, src.read env = .error f :=
    unread i hi (by rw [Source.read, hk]; exact map_eq_error.2 h)
  unfold ofEnvironment at h
  obtain h | ⟨base, _, h⟩ := bind_eq_error.1 h
  · exact .inl h
  refine .inr ?_
  obtain h | ⟨command, _, h⟩ := bind_eq_error.1 h
  · exact unread 0 (by decide) (map_eq_error.2 h)
  obtain h | ⟨primaryPort, _, h⟩ := bind_eq_error.1 h
  · exact whole 3 (by decide) rfl h
  obtain h | ⟨replicaPort, _, h⟩ := bind_eq_error.1 h
  · exact whole 4 (by decide) rfl h
  obtain h | ⟨debounce, _, h⟩ := bind_eq_error.1 h
  · exact real 6 (by decide) rfl h
  obtain h | ⟨startup, _, h⟩ := bind_eq_error.1 h
  · exact real 7 (by decide) rfl h
  obtain h | ⟨grace, _, h⟩ := bind_eq_error.1 h
  · exact real 8 (by decide) rfl h
  cases h

/-- Where the base directory is found and every source is read, there are settings. -/
theorem ofEnvironment_ok {base : Path} (hb : tree.canonical home (basePath env home) = .ok base)
    (hs : ∀ src ∈ sources, ∃ v, src.read env = .ok v) :
    ∃ module, ofEnvironment env home tree = .ok module := by
  cases loaded : ofEnvironment env home tree with
  | ok module => exact ⟨module, rfl⟩
  | error f =>
    obtain unfound | ⟨src, hsrc, unread⟩ := ofEnvironment_error loaded
    · cases unfound.symm.trans hb
    · obtain ⟨v, read⟩ := hs src hsrc
      cases unread.symm.trans read

theorem Stems.ofModule_eq (h : Stems env home tree module) : ofModule module = module := by
  refine List.filter_eq_self.2 fun e he => settingNames_isUpper e.1 ?_
  rw [← h.names]
  exact List.mem_map_of_mem he

/-- The settings of an environment are of their sorts. -/
theorem Stems.sort (h : Stems env home tree module) {src : Source} (hs : src ∈ sources) :
    ∃ v, Table.get? module src.setting = some v ∧ HasSort src.kind v := by
  obtain ⟨v, read, held⟩ := h.source src hs
  exact ⟨v, held, readAs_hasSort hs read⟩

end OfEnvironment

end Respawn.Settings
