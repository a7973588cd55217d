import Respawn.Proofs.Settings.Sorts

/-!
# Settings that are saved and loaded again

What a value converts to in place of a default converts to itself in place of that default, and so
does the default. So a file of overrides that says what the settings hold changes nothing of them:
every one of its entries is taken as it is.

* `convert_again`: what was converted once is converted for good;
* `Saves`: a table of what settings hold under the names that may be changed;
* **`saved_reloads`**: what is saved after a load comes back at the next one.
-/

namespace Respawn.Settings

open EnvFile (Bindings)

/-! ## 1. One value -/

/-- A truth value is read back from its text. -/
theorem readYes_bool (b : Bool) : readYes (Value.bool b).shown = b := by
  cases b <;> rfl

theorem convert_self (old : Value) : convert old old = .ok old := by
  cases old with
  | bool b => rw [convert_bool, readYes_bool]
  | null | int | real | text | path | list | dict | set => rfl

/-- **What was converted once is converted for good.** -/
theorem convert_again {old v w : Value} (h : convert old v = .ok w) : convert old w = .ok w := by
  have converted := h
  unfold convert at h
  split at h
  · obtain ⟨p, _, rfl⟩ := map_eq_ok.1 h
    rfl
  · obtain ⟨words, _, rfl⟩ := map_eq_ok.1 h
    rfl
  · cases h
    rw [convert_bool, readYes_bool]
  · cases h
    rfl
  · cases h
    rfl
  · obtain ⟨i, _, rfl⟩ := map_eq_ok.1 h
    rfl
  · obtain ⟨x, _, rfl⟩ := map_eq_ok.1 h
    rfl
  · cases h
    exact converted

/-! ## 2. Settings under overrides -/

section Ruled

variable {s : Settings} {name : String}

/-- What a default comes to where its setting has the given entry, or none. -/
def replaced (old : Value) (entry : Option Value) : Value :=
  match entry.map (convert old) with
  | some (.ok w) => w
  | _ => old

/-- **Loading what a default came to leaves it as it is.** -/
theorem convert_replaced (old : Value) (entry : Option Value) :
    convert old (replaced old entry) = .ok (replaced old entry) := by
  unfold replaced
  split
  · next w came =>
    obtain ⟨v, -, came⟩ := Option.map_eq_some_iff.1 came
    exact convert_again came
  · exact convert_self old

theorem attempt_listed {old : Value} (hl : lists s name = true) (ho : Table.get? s name = some old)
    (v : Value) : attempt s name v = some (convert old v) := by
  simp only [attempt, hl, if_true, ho, Option.map_some]

theorem mergedValue_listed {old : Value} (hl : lists s name = true)
    (ho : Table.get? s name = some old) (entries : Table Value) :
    mergedValue s entries name = some (replaced old (entries.get? name)) := by
  cases he : entries.get? name with
  | none => simp [mergedValue, replaced, he, ho]
  | some v => cases hc : convert old v <;> simp [mergedValue, replaced, he, ho, attempt_listed hl ho, hc]

end Ruled

/-- What settings hold under the names that may be changed, in whatever order. -/
structure Saves (u : Settings) (saved : Table Value) : Prop where
  names : saved.names.Perm modifiable
  values : ∀ name ∈ modifiable, saved.get? name = Table.get? u name

namespace Saves

variable {u : Settings} {saved : Table Value} {name : String} {v : Value}

theorem nodup (h : Saves u saved) : saved.names.Nodup :=
  h.names.nodup_iff.2 (by decide)

theorem listed (h : Saves u saved) (hv : (name, v) ∈ saved) : name ∈ modifiable :=
  h.names.mem_iff.1 (List.mem_map_of_mem hv)

theorem held (h : Saves u saved) (hv : (name, v) ∈ saved) : Table.get? u name = some v :=
  (h.values name (h.listed hv)).symm.trans (Table.get?_of_mem h.nodup hv)

end Saves

/-- **What is saved after a load comes back at the next one.** The settings of an environment are
    loaded with some file of overrides. A file that says what they hold then, for all settings that
    may be changed, is loaded over the same settings: every setting has the value that it had, and
    the records are those of entries that are taken as they are. For a single value, what is converted
    once is converted for good. -/
theorem saved_reloads {env : Bindings} {home : Path} {tree : FileTree} {module : Settings}
    (hm : ofEnvironment env home tree = .ok module) (given : Option Path) {cwd : Path} {t : FileTree}
    {u : Settings} (hu : (merged module (given.map .path) cwd t).result = .ok u)
    {saved : Table Value} (hs : Saves u saved) {p : Path} {t' : FileTree}
    (hp : overridesPath (pointed module given) = .ok p)
    (hr : readOverrides cwd t' p = .ok (.entries saved)) :
    (∃ u', (merged module (given.map .path) cwd t').result = .ok u' ∧
      ∀ name, name ≠ moduleName → Table.get? u' name = Table.get? u name) ∧
    (merged module (given.map .path) cwd t').records =
      loadingRecord p :: saved.map (fun e => takenRecord e.1 e.2) ∧
    ∀ old v w, convert old v = .ok w → convert old w = .ok w := by
  have governed : Governed (pointed module given) :=
    ((standard_ofEnvironment hm).pointed given).toGoverned
  have ruled := governed.ruled
  simp only [merged_eq] at hu ⊢
  obtain ⟨p', reading, hp', first⟩ := override_reads hu
  have before {name : String} (hn : name ≠ moduleName) := ruled.override_settles hp' first hu hn
  -- what is saved converts to itself over the default
  have fixed {name : String} {w : Value} (hw : (name, w) ∈ saved) :
      attempt (pointed module given) name w = some (.ok w) := by
    have listed := hs.listed hw
    obtain ⟨old, ho⟩ := governed.there name listed
    have hl : lists (pointed module given) name = true := by
      rw [governed.lists_eq]
      exact List.contains_iff_mem.2 listed
    have apart : name ≠ moduleName := by
      rintro rfl
      exact absurd listed (by decide)
    have came : some (replaced old (reading.table.get? name)) = some w :=
      (mergedValue_listed hl ho _).symm.trans ((before apart).symm.trans (hs.held hw))
    rw [attempt_listed hl ho, ← Option.some.inj came, convert_replaced]
  have answerable : ∀ name w, (name, w) ∈ saved → Answerable (pointed module given) name w := by
    intro name w hw f hf
    cases (fixed hw).symm.trans hf
  obtain ⟨u', hu'⟩ := (ruled.override_ok_iff hp hr).2 answerable
  refine ⟨⟨u', hu', fun name hn => ?_⟩, ?_, fun old v w => convert_again⟩
  · rw [ruled.override_settles hp hr hu' hn]
    by_cases listed : name ∈ modifiable
    · obtain ⟨⟨name, w⟩, hw, rfl⟩ := List.mem_map.1 (hs.names.mem_iff.2 listed)
      have entry : saved.get? name = some w := Table.get?_of_mem hs.nodup hw
      simp only [mergedValue, Reading.table, entry, Option.bind_some, fixed hw, hs.held hw]
    · have unlisted : lists (pointed module given) name = false := by
        rw [governed.lists_eq]
        simpa using listed
      rw [before hn, mergedValue_of_unlisted _ unlisted, mergedValue_of_unlisted _ unlisted]
  · rw [ruled.override_records hp hr hu']
    refine congrArg _ (List.map_congr_left fun e he => ?_)
    have taken : attempt (opened (pointed module given)) e.1 e.2 = some (.ok e.2) := by
      rw [ruled.attempt_opened]
      exact fixed he
    simp only [answer, taken]

/-! ## 3. A draft and what is saved of it -/

/-- A command in one text, a port that is a truth value, and an undefined time. -/
def draft : String :=
  "\x7b\"BUILD_COMMAND\": \"a 'b c'\", \"PRIMARY_PORT\": true, \"DEBOUNCE_SECONDS\": NaN\x7d"

def draftEntries : Table Value :=
  [("BUILD_COMMAND", .text "a 'b c'"), ("PRIMARY_PORT", .bool true), ("DEBOUNCE_SECONDS", .real .nan)]

/-- All settings that may be changed, as the draft leaves them. -/
def fair : String :=
  "\x7b\"WATCH_GLOB\": \"src/*\", \"BUILD_COMMAND\": [\"a\", \"b c\"], \"ARGS_SEPARATOR\": \"--\", " ++
    "\"PRIMARY_HOST\": \"127.0.0.1\", \"PRIMARY_PORT\": true, \"REPLICA_PORT\": 6380, " ++
    "\"DEBOUNCE_SECONDS\": NaN, \"STARTUP_CHECK_SECONDS\": 0.5, " ++
    "\"GRACEFUL_SHUTDOWN_TIMEOUT\": 0.0, \"CAPTURE_CHILD_OUTPUT\": true\x7d"

def fairEntries : Table Value :=
  [("WATCH_GLOB", .text "src/*"), ("BUILD_COMMAND", listOfWords ["a", "b c"]),
    ("ARGS_SEPARATOR", .text "--"), ("PRIMARY_HOST", .text "127.0.0.1"), ("PRIMARY_PORT", .bool true),
    ("REPLICA_PORT", .int 6380), ("DEBOUNCE_SECONDS", .real .nan), ("STARTUP_CHECK_SECONDS", .real half),
    ("GRACEFUL_SHUTDOWN_TIMEOUT", .real .zero), ("CAPTURE_CHILD_OUTPUT", .bool true)]

theorem readOverrides_draft :
    readOverrides .top (desk draft) note = .ok (.entries draftEntries) :=
  readOverrides_desk rfl rfl rfl

/-- A text in four pieces is read as its characters say. -/
theorem readOverrides_pieces {a b c d : List Char} {entries : Table Value}
    (hp : (a ++ b ++ c ++ d).all (·.toNat < 128) = true)
    (hr : (a ++ b ++ c ++ d).contains '\r' = false)
    (h : Json.read (a ++ b ++ c ++ d) = .ok (.dict entries)) :
    readOverrides .top
      (desk (String.ofList a ++ String.ofList b ++ String.ofList c ++ String.ofList d)) note =
        .ok (.entries entries) := by
  have plain : (String.ofList a ++ String.ofList b ++ String.ofList c ++ String.ofList d).toList =
      a ++ b ++ c ++ d := by
    simp only [String.toList_append, String.toList_ofList]
  refine readOverrides_desk ?_ ?_ ?_
  · rwa [plain]
  · rwa [plain]
  · rwa [plain]

set_option maxRecDepth 4000 in
theorem readOverrides_fair : readOverrides .top (desk fair) note = .ok (.entries fairEntries) :=
  readOverrides_pieces rfl rfl rfl

/-- The fair copy has what the defaults come to under the draft. -/
theorem fair_of_draft : ∀ src ∈ sources, ∃ old, src.read [] = .ok old ∧
    fairEntries.get? src.setting = some (replaced old (draftEntries.get? src.setting)) := by
  intro src h
  simp only [sources, List.mem_cons, List.not_mem_nil, or_false] at h
  rcases h with rfl | rfl | rfl | rfl | rfl | rfl | rfl | rfl | rfl | rfl <;> exact ⟨_, rfl, rfl⟩

theorem inRange_draft : InRange draftEntries := by
  intro e _ v hv old _ overflows
  simp only [draftEntries, List.mem_cons, Prod.mk.injEq, List.not_mem_nil, or_false] at hv
  rcases hv with ⟨_, rfl⟩ | ⟨_, rfl⟩ | ⟨_, rfl⟩ <;> cases overflows

/-- The fair copy says what the settings hold under the draft. -/
theorem saves_fair {home : Path} {tree : FileTree} {module u : Settings}
    (hm : ofEnvironment [] home tree = .ok module) (given : Option Path) {p cwd : Path}
    {t : FileTree} (hp : overridesPath (pointed module given) = .ok p)
    (hr : readOverrides cwd t p = .ok (.entries draftEntries))
    (hu : (override (pointed module given) cwd t).result = .ok u) : Saves u fairEntries where
  names := by decide
  values name hn := by
    have stems := stems_ofEnvironment hm
    have governed := ((standard_ofEnvironment hm).pointed given).toGoverned
    obtain ⟨e, he, rfl⟩ := List.mem_map.1 (modifiable_eq ▸ hn)
    obtain ⟨src, hs, rfl⟩ := exists_source he
    obtain ⟨old, read, entry⟩ := fair_of_draft src hs
    obtain ⟨v, read', held⟩ := stems.source src hs
    cases read.symm.trans read'
    have kept : Table.get? (pointed module given) src.setting = some old := by
      rw [get?_pointed module given (setting_ne_place src hs), stems.ofModule_eq, held]
    have listed : lists (pointed module given) src.setting = true := by
      rw [governed.lists_eq]
      exact List.contains_iff_mem.2 hn
    rw [governed.ruled.override_settles hp hr hu (setting_ne_moduleName src hs)]
    exact entry.trans (mergedValue_listed listed kept _).symm

/-- The fair copy of the draft changes nothing, though the draft does. -/
theorem saved_reloads_fair : ∃ module u u', ofEnvironment [] .top .empty = .ok module ∧
    (merged module (some (.path note)) .top (desk draft)).result = .ok u ∧
    Table.get? u "BUILD_COMMAND" = some (listOfWords ["a", "b c"]) ∧
    Table.get? u "PRIMARY_PORT" = some (.bool true) ∧
    (merged module (some (.path note)) .top (desk fair)).result = .ok u' ∧
    (∀ name, name ≠ moduleName → Table.get? u' name = Table.get? u name) ∧
    (merged module (some (.path note)) .top (desk fair)).records =
      loadingRecord note :: fairEntries.map (fun e => takenRecord e.1 e.2) := by
  obtain ⟨module, hm⟩ := ofEnvironment_nil .empty
  have hp : overridesPath (pointed module (some note)) = .ok note := by
    simp [overridesPath, get, pointed]
  have standard := (standard_ofEnvironment hm).pointed (some note)
  obtain ⟨u, hu⟩ := (standard.toGoverned.ruled.override_ok_iff hp readOverrides_draft).2
    fun _ _ he => standard.answerable inRange_draft he
  have loaded : (merged module ((some note).map .path) .top (desk draft)).result = .ok u := by
    rw [merged_eq, hu]
  have saves : Saves u fairEntries :=
    saves_fair hm (some note) hp readOverrides_draft hu
  obtain ⟨⟨u', again, same⟩, records, -⟩ :=
    saved_reloads hm (some note) loaded saves hp readOverrides_fair
  exact ⟨module, u, u', hm, loaded, (saves.values _ (by decide)).symm,
    (saves.values _ (by decide)).symm, again, same, records⟩

end Respawn.Settings
