import Respawn.Proofs.Session.Preparation

/-!
# The wording of a command line

Which role a session takes depends on one word of its command line, and of that word only on whether
it is the name of the primary. The command line of the server is worded from the settings alone: for a
replica, the flags that tell it where its primary is follow the build command.

* `derive_congr`: only the name of the primary matters for the role;
* `Wording`: what a command line is worded from, where the settings have the sorts of their defaults;
* **`Wording.build_eq`**: then every command line that is built is worded so.
-/

namespace Respawn

open Settings (Fit HasSort listOfWords sorts)

/-! ## 1. The name of the primary -/

/-- Whether the word that selects the role is the name of the primary in the settings. -/
def Request.namesPrimary (request : Request) (s : Settings) : Bool :=
  match s.get "PRIMARY_ROLE_NAME" with
  | .ok (.text name) => request.selector = some name
  | _ => false

variable {s : Settings} {request request' : Request}

theorem namesPrimary_eq (hs : Fit s) (request : Request) :
    request.namesPrimary s = Role.selects request.selector (.text "master") := by
  have name : s.get "PRIMARY_ROLE_NAME" = .ok (.text "master") :=
    hs.constant_eq (by simp [Settings.constants])
  unfold Request.namesPrimary
  rw [name]
  rfl

/-- **Only whether it is the name of the primary matters of the word that selects the role.** -/
theorem derive_congr (hs : Fit s) (same : request.namesPrimary s = request'.namesPrimary s) :
    Role.derive request.selector s = Role.derive request'.selector s := by
  rw [namesPrimary_eq hs, namesPrimary_eq hs] at same
  have name : s.get "PRIMARY_ROLE_NAME" = .ok (.text "master") :=
    hs.constant_eq (by simp [Settings.constants])
  simp only [Role.derive, name, bind, Except.bind, same]

/-! ## 2. The words -/

/-- The settings that may be changed have the sorts of their defaults. -/
def Settings.Sorted (s : Settings) : Prop := ∀ e ∈ sorts, ∃ v, s.get e.1 = .ok v ∧ HasSort e.2 v

/-- So do settings over which nothing was taken that is foreign to its setting. -/
theorem Settings.sorted_of_settles {env : EnvFile.Bindings} {home : Path} {tree : FileTree}
    {plain s : Settings} {entries : Table Value} (stems : Stems env home tree plain)
    (settles : ∀ name, name ≠ moduleName → Table.get? s name = mergedValue plain entries name)
    (familiar : ∀ src ∈ sources, ¬ ∃ w, entries.get? src.setting = some w ∧ Foreign src.kind w) :
    s.Sorted := by
  intro e he
  obtain ⟨src, hs, rfl⟩ := exists_source he
  obtain ⟨old, held, sort⟩ := stems.sort hs
  obtain ⟨v, merged, sorted, -⟩ := mergedValue_sort stems.standard.toGoverned hs held sort entries
  have settled := (settles _ (setting_ne_moduleName src hs)).trans merged
  exact ⟨v, (get_eq_ok_iff _ _ _).2 settled, sorted.2 (familiar src hs)⟩

/-- What a command line is worded from: the build command, the separator, where the primary is, the
    port of a replica, and the directory that is watched. -/
structure Wording (s : Settings) where
  command : List String
  separator : String
  host : String
  port : Int
  own : Int
  base : Path
  command_eq : s.get "BUILD_COMMAND" = .ok (listOfWords command)
  separator_eq : s.get "ARGS_SEPARATOR" = .ok (.text separator)
  host_eq : s.get "PRIMARY_HOST" = .ok (.text host)
  port_eq : s.get "PRIMARY_PORT" = .ok (.int port)
  own_eq : s.get "REPLICA_PORT" = .ok (.int own)
  base_eq : s.get "WATCH_BASE_DIR" = .ok (.path base)

namespace Wording

/-- The words that follow the build command of a replica. -/
def flags (wording : Wording s) : List String :=
  (if wording.separator = "" then [] else [wording.separator]) ++
    ["--port", toString wording.own, "--replicaof", wording.host, toString wording.port]

/-- The command line of the primary, or that of a replica, in the directory that is watched. -/
def invocation (wording : Wording s) (primary : Bool) : Invocation :=
  ⟨wording.command ++ (if primary then [] else wording.flags), wording.base⟩

/-- A list of texts is one of words. -/
theorem words_of_texts {items : List Value} (h : ∀ item ∈ items, item.kind = .text) :
    ∃ words, listOfWords words = .list items := by
  induction items with
  | nil => exact ⟨[], rfl⟩
  | cons item rest ih =>
    obtain ⟨words, same⟩ := ih fun other ho => h other (List.mem_cons_of_mem _ ho)
    have text := h item List.mem_cons_self
    cases item <;> cases text
    rename_i word
    refine ⟨word :: words, ?_⟩
    have rest_eq : words.map Value.text = rest := Value.list.inj same
    rw [listOfWords, List.map_cons, rest_eq]

/-- Settings of their sorts give the wording. -/
theorem of_sorted (hs : Fit s) (sorted : s.Sorted) : Nonempty (Wording s) := by
  have text (name : String) (hn : (name, .text) ∈ sorts) : ∃ t, s.get name = .ok (.text t) := by
    obtain ⟨v, held, sort⟩ := sorted _ hn
    have kind := sort.kind_eq
    cases v <;> cases kind
    exact ⟨_, held⟩
  have whole (name : String) (hn : (name, .int) ∈ sorts) : ∃ i, s.get name = .ok (.int i) := by
    obtain ⟨v, held, sort⟩ := sorted _ hn
    have kind := sort.kind_eq
    cases v <;> cases kind
    exact ⟨_, held⟩
  obtain ⟨command, built⟩ : ∃ command, s.get "BUILD_COMMAND" = .ok (listOfWords command) := by
    obtain ⟨v, held, sort⟩ := sorted ("BUILD_COMMAND", .list) (by decide)
    have kind := sort.kind_eq
    cases v <;> cases kind
    obtain ⟨command, same⟩ := words_of_texts (sort.words _ rfl)
    exact ⟨command, same ▸ held⟩
  obtain ⟨separator, apart⟩ := text "ARGS_SEPARATOR" (by decide)
  obtain ⟨host, home⟩ := text "PRIMARY_HOST" (by decide)
  obtain ⟨port, there⟩ := whole "PRIMARY_PORT" (by decide)
  obtain ⟨own, here⟩ := whole "REPLICA_PORT" (by decide)
  obtain ⟨base, place⟩ := hs.base
  exact ⟨⟨command, separator, host, port, own, base, built, apart, home, there, here,
    (Settings.get_eq_ok_iff _ _ _).2 place⟩⟩

/-- The role under such settings. -/
theorem derive_eq (wording : Wording s) (hs : Fit s) (request : Request) :
    Role.derive request.selector s = .ok (if request.namesPrimary s then .primary
      else .replica (.text wording.host) wording.port) := by
  have name : s.get "PRIMARY_ROLE_NAME" = .ok (.text "master") :=
    hs.constant_eq (by simp [Settings.constants])
  rw [namesPrimary_eq hs]
  simp only [Role.derive, name, bind, Except.bind, wording.host_eq, wording.port_eq]
  split <;> rfl

/-- The flags of the role, as values. -/
theorem flags_eq (wording : Wording s) (primary : Bool) :
    Role.flags (if primary then .primary else .replica (.text wording.host) wording.port) s =
      .ok (if primary then [] else
        (["--port", toString wording.own, "--replicaof", wording.host, toString wording.port].map
          .text)) := by
  cases primary with
  | true => rfl
  | false =>
    simp only [Bool.false_eq_true, if_false, Role.flags, wording.own_eq]
    rfl

/-- The command line, if there is a build command. -/
theorem build_settled (wording : Wording s) (hs : Fit s) {request : Request} {r : Role}
    (hr : Role.derive request.selector s = .ok r) : Invocation.build r s =
      if wording.command.isEmpty then .error .emptyCommand
      else .ok (wording.invocation (request.namesPrimary s)) := by
  cases (wording.derive_eq hs request).symm.trans hr
  generalize request.namesPrimary s = primary
  have spoken : Invocation.assemble (wording.command.map .text) (.text wording.separator)
      (if primary then [] else
        ["--port", toString wording.own, "--replicaof", wording.host, toString wording.port].map
          .text) = (wording.invocation primary).argv.map .text := by
    cases primary with
    | true => simp [Invocation.assemble, invocation]
    | false =>
      by_cases none : wording.separator = "" <;>
        simp [Invocation.assemble, invocation, flags, none]
  simp only [Invocation.build, wording.command_eq, wording.flags_eq, wording.separator_eq,
    wording.base_eq, bind, Except.bind, listOfWords, Value.items, List.isEmpty_map]
  split
  · rfl
  · rw [spoken, Value.texts_map_text]
    rfl

/-- **Every command line that is built is worded so.** -/
theorem build_eq (wording : Wording s) (hs : Fit s) {request : Request} {r : Role} {i : Invocation}
    (hr : Role.derive request.selector s = .ok r) (hb : Invocation.build r s = .ok i) :
    i = wording.invocation (request.namesPrimary s) := by
  rw [wording.build_settled hs hr] at hb
  split at hb
  · cases hb
  · cases hb
    rfl

end Wording

end Respawn
