import Respawn.Proofs.Settings.Pointwise

/-!
# A variable or an entry

Every setting that may be overridden can also be given by a variable of the environment. The two ways
are read by separate code: a variable by the name of its setting, an entry of a file by the sort of
the default that it replaces. They agree on every text.

* `convert_text`: a text converts to what it is read as;
* `Twins.loads`: without the variable the defaults load if they loaded with it;
* **`variable_agrees`**: a text means the same in the environment and in a file of overrides.
-/

namespace Respawn.Settings

open EnvFile (Bindings)

/-! ## 1. One text, read in two ways -/

/-- **A text converts to what it is read as.** -/
theorem convert_text (old : Value) (s : String) : convert old (.text s) = readAs old.kind s := by
  cases old <;> rfl

/-- An entry with a text for a source comes to what its variable would be read as. -/
theorem Standard.attempt_text {plain : Settings} (h : Standard plain) {src : Source}
    (hs : src ∈ sources) (s : String) :
    attempt plain src.setting (.text s) = some (readAs src.kind s) := by
  obtain ⟨old, hk, conversion⟩ := h.conversion_eq (Source.mem_sorts hs)
  rw [h.attempt_eq, conversion, convert_text, hk]

/-! ## 2. Two environments -/

/-- Two environments, each before a tree of its own, that differ in one variable only: the first one
    sets it to a text, the second one leaves it out. The base directory is the same. -/
structure Twins (key s : String) (home : Path) (env : Bindings) (tree : FileTree) (env' : Bindings)
    (tree' : FileTree) : Prop where
  set : env.get? key = some s
  unset : env'.get? key = none
  other (name) : name ≠ key → env'.get? name = env.get? name
  base : tree'.canonical home (basePath env' home) = tree.canonical home (basePath env home)

section Twins

variable {src : Source} {s : String} {home : Path} {env env' : Bindings} {tree tree' : FileTree}

theorem Twins.read_set (h : Twins src.key s home env tree env' tree') :
    src.read env = readAs src.kind s := by
  simp only [Source.read, Source.text, h.set, Option.getD_some]

theorem Twins.read_unset (h : Twins src.key s home env tree env' tree') :
    src.read env' = readAs src.kind src.fallback := by
  simp only [Source.read, Source.text, h.unset, Option.getD_none]

theorem Twins.read_other (h : Twins src.key s home env tree env' tree') {other : Source}
    (ho : other.key ≠ src.key) : other.read env' = other.read env := by
  simp only [Source.read, Source.text, h.other _ ho]

/-- **Without the variable the defaults load if they loaded with it.** -/
theorem Twins.loads (h : Twins src.key s home env tree env' tree') (hs : src ∈ sources)
    {module : Settings} (hm : ofEnvironment env home tree = .ok module) :
    ∃ plain, ofEnvironment env' home tree' = .ok plain := by
  have stems := stems_ofEnvironment hm
  obtain ⟨base, found, _⟩ := stems.base
  refine ofEnvironment_ok (h.base.trans found) fun other ho => ?_
  by_cases same : other.key = src.key
  · cases key_inj other ho src hs same
    obtain ⟨v, read⟩ := fallback_reads src hs
    exact ⟨v, h.read_unset.trans read⟩
  · obtain ⟨v, read, _⟩ := stems.source other ho
    exact ⟨v, (h.read_other same).trans read⟩

/-- Where the defaults load without the variable and not with it, it is its text that is at fault. -/
theorem Twins.blames (h : Twins src.key s home env tree env' tree') (hs : src ∈ sources) {f : Fault}
    (hf : ofEnvironment env home tree = .error f) {plain : Settings}
    (hp : ofEnvironment env' home tree' = .ok plain) : readAs src.kind s = .error f := by
  have stems := stems_ofEnvironment hp
  obtain unfound | ⟨other, ho, unread⟩ := ofEnvironment_error hf
  · obtain ⟨base, found, _⟩ := stems.base
    cases unfound.symm.trans (h.base.symm.trans found)
  · by_cases same : other.key = src.key
    · cases key_inj other ho src hs same
      exact h.read_set.symm.trans unread
    · obtain ⟨v, read, _⟩ := stems.source other ho
      cases unread.symm.trans ((h.read_other same).symm.trans read)

end Twins

/-! ## 3. The settings in effect -/

/-- What an entry with a text makes of its setting: what the text is read as, or the default. -/
theorem Standard.override_text {plain : Settings} (h : Standard plain) {src : Source}
    (hs : src ∈ sources) {s : String} {home p : Path} {tree : FileTree} {entries : Table Value}
    (hp : overridesPath plain = .ok p) (hr : readOverrides home tree p = .ok (.entries entries))
    (hv : entries.get? src.setting = some (.text s)) (range : InRange entries) :
    ∃ u, (override plain home tree).result = .ok u ∧
      (∀ v, readAs src.kind s = .ok v → Table.get? u src.setting = some v) ∧
      ∀ f, readAs src.kind s = .error f →
        Table.get? u src.setting = Table.get? plain src.setting := by
  have ruled := h.toGoverned.ruled
  obtain ⟨u, hu⟩ := (ruled.override_ok_iff hp hr).2 fun _ _ he => h.answerable range he
  have settles := ruled.override_settles hp hr hu (setting_ne_moduleName src hs)
  simp only [Reading.table, mergedValue, hv, Option.bind_some, h.attempt_text hs] at settles
  refine ⟨u, hu, fun v read => ?_, fun f unread => ?_⟩
  · simpa only [read] using settles
  · simpa only [unread] using settles

/-- The record for an entry stands at its place between those of the other entries. -/
theorem Standard.override_records_text {plain : Settings} (h : Standard plain) {src : Source}
    (hs : src ∈ sources) {s : String} {home p : Path} {tree : FileTree} {entries : Table Value}
    {u : Settings} (hp : overridesPath plain = .ok p)
    (hr : readOverrides home tree p = .ok (.entries entries))
    (hv : entries.get? src.setting = some (.text s)) {f : Fault}
    (unread : readAs src.kind s = .error f) (hu : (override plain home tree).result = .ok u) :
    ∃ before after : Table Value, entries = before ++ (src.setting, .text s) :: after ∧
      src.setting ∉ before.names ∧ src.setting ∉ after.names ∧
      (override plain home tree).records = loadingRecord p ::
        (before.map (fun e => answer (Settings.opened plain) e.1 e.2) ++
          unconvertedRecord src.setting (.text s) f ::
            after.map fun e => answer (Settings.opened plain) e.1 e.2) := by
  obtain ⟨before, after, rfl, apart, apart'⟩ :=
    Table.split_of_get? (readOverrides_nodup hr) hv
  have own : answer (Settings.opened plain) src.setting (.text s) =
      unconvertedRecord src.setting (.text s) f := by
    rw [answer, h.opened.attempt_text hs, unread]
  have told := h.toGoverned.ruled.override_records hp hr hu
  rw [List.map_append, List.map_cons, own] at told
  exact ⟨before, after, rfl, apart, apart', told⟩

/-- **A text means the same in the environment and in a file of overrides.** However the file `.env`
    is read, two runs start alike but for one setting: the first one has a text for it in the variable,
    be it from the surroundings or from the file `.env`, and no override; the second one has no
    variable, and the text in a file of overrides.

    * If the first run has settings, so has the second one, with the same value for the setting.
    * If the first run fails where the defaults of the second one load, the text is at fault: the
      second run has settings, tells that fault as an error once, and keeps the default. -/
theorem variable_agrees (reader : EnvReader) {src : Source} (hs : src ∈ sources) {s : String}
    {surroundings surroundings' : Bindings} {home : Path} {tree tree' : FileTree}
    {file file' : Table (Option String)}
    (hfile : (reader surroundings home tree).result = .ok file)
    (hfile' : (reader surroundings' home tree').result = .ok file')
    (twins : Twins src.key s home (environment surroundings file) tree
      (environment surroundings' file') tree')
    {p' : Path} {entries : Table Value}
    (hp' : overridesPlace (environment surroundings' file') home tree' = .ok p')
    (hr' : readOverrides home tree' p' = .ok (.entries entries))
    (hv : entries.get? src.setting = some (.text s)) (range : InRange entries) :
    (∀ u p reading, (effective surroundings home tree reader).result = .ok u →
      overridesPlace (environment surroundings file) home tree = .ok p →
      readOverrides home tree p = .ok reading → src.setting ∉ reading.table.names →
      ∃ u' v, readAs src.kind s = .ok v ∧
        (effective surroundings' home tree' reader).result = .ok u' ∧
        Table.get? u src.setting = some v ∧ Table.get? u' src.setting = some v) ∧
    ∀ f plain, (defaults surroundings home tree reader).result = .error f →
      (defaults surroundings' home tree' reader).result = .ok plain →
      f.isValueFault = true ∧ ∃ u', (effective surroundings' home tree' reader).result = .ok u' ∧
        Table.get? u' src.setting = Table.get? plain src.setting ∧
        ∃ before after : Table Value, entries = before ++ (src.setting, .text s) :: after ∧
          src.setting ∉ before.names ∧ src.setting ∉ after.names ∧
          (effective surroundings' home tree' reader).records =
            (defaults surroundings' home tree' reader).records ++ loadingRecord p' ::
              (before.map (fun e => answer (opened plain) e.1 e.2) ++
                unconvertedRecord src.setting (.text s) f ::
                  after.map fun e => answer (opened plain) e.1 e.2) := by
  have load := defaults_result hfile
  have load' := defaults_result hfile'
  refine ⟨fun u p reading hu hp hr silent => ?_, fun f plain hf hplain => ?_⟩
  · obtain ⟨module, hm, overridden⟩ := effective_result_eq_ok.1 hu
    obtain ⟨plain, hplain⟩ := twins.loads hs (load.symm.trans hm)
    have stems := stems_ofEnvironment (load.symm.trans hm)
    have stems' := stems_ofEnvironment hplain
    obtain ⟨v, read, held⟩ := stems.source src hs
    rw [twins.read_set] at read
    obtain ⟨u', hu', taken, -⟩ :=
      stems'.standard.override_text hs (stems'.place.symm.trans hp') hr' hv range
    refine ⟨u', v, read, effective_result_eq_ok.2 ⟨plain, load'.trans hplain, hu'⟩, ?_, taken v read⟩
    -- the first run's file of overrides says nothing of the setting
    have ruled := stems.standard.toGoverned.ruled
    rw [ruled.override_settles (stems.place.symm.trans hp) hr overridden (setting_ne_moduleName src hs),
      mergedValue_of_absent _ silent, held]
  · have unread := twins.blames hs (load.symm.trans hf) (load'.symm.trans hplain)
    have stems' := stems_ofEnvironment (load'.symm.trans hplain)
    have place := stems'.place.symm.trans hp'
    obtain ⟨u', hu', -, kept⟩ := stems'.standard.override_text hs place hr' hv range
    obtain ⟨before, after, split, apart, apart', told⟩ :=
      stems'.standard.override_records_text hs place hr' hv unread hu'
    refine ⟨readAs_fault unread, u', effective_result_eq_ok.2 ⟨plain, hplain, hu'⟩, kept f unread,
      before, after, split, apart, apart', ?_⟩
    rw [effective_records hplain, told]

/-! ## 4. A port, given twice -/

/-- On a desk there is no file of bindings. -/
theorem envFile_desk (surroundings : Bindings) (content : String) :
    (envFile surroundings .top (desk content)).result = .ok [] := by
  have short : ¬ FileTree.pathLimit < (Path.top.child ".env").text.utf8ByteSize := by decide
  have parts : (Path.top.within (Path.top.child ".env")).parts = [".env"] := rfl
  have size : ¬ FileTree.nameLimit < ".env".utf8ByteSize := by decide
  have absent : (desk content).bytes (Path.top.child ".env") = .error .missing := by
    simp [FileTree.bytes, FileTree.lookup, FileTree.lookupFrom, FileTree.locate, short, parts,
      FileTree.locateFrom, FileTree.get?, Node.get?, desk, size, Table.get?]
  simp [envFile, absent]

/-- Surroundings that say where the overrides lie. -/
def pointing : Bindings := [("DEVLOOP_OVERRIDES", "/note")]

theorem overridesPlace_pointing {env : Bindings} (content : String)
    (hb : basePath env .top = .top) (ho : env.get? "DEVLOOP_OVERRIDES" = some "/note") :
    overridesPlace env .top (desk content) = .ok note := by
  simp only [overridesPlace, hb, canonical_top, ho]
  rfl

/-- A port, in the surroundings beside the place of the overrides. -/
def porting (s : String) : Bindings := ("DEVLOOP_PRIMARY_PORT", s) :: pointing

/-- The same port in a file of overrides. -/
def portNote (s : String) : String := "\x7b\"PRIMARY_PORT\": \"" ++ s ++ "\"\x7d"

/-- A file of overrides that says nothing. -/
def nothing : String := "\x7b\x7d"

def portSource : Source := ⟨"PRIMARY_PORT", .int, "DEVLOOP_PRIMARY_PORT", "6379"⟩

theorem portSource_mem : portSource ∈ sources := by decide

theorem environment_empty (surroundings : Bindings) :
    environment surroundings [] = surroundings := by
  change surroundings.filter (fun _ => true) = surroundings
  exact List.filter_true surroundings

theorem get?_porting {s key : String} (hp : key ≠ portSource.key) (ho : key ≠ "DEVLOOP_OVERRIDES") :
    (porting s).get? key = none := by
  have port : ¬ "DEVLOOP_PRIMARY_PORT" = key := Ne.symm hp
  have place : ¬ "DEVLOOP_OVERRIDES" = key := Ne.symm ho
  simp [porting, pointing, Table.get?_cons, port, place]

theorem basePath_porting (s : String) : basePath (porting s) .top = .top := by
  rw [basePath, get?_porting (by decide) (by decide)]
  rfl

theorem basePath_pointing : basePath pointing .top = .top := rfl

/-- Surroundings that say nothing of any source, and where the overrides are. What is on the desk is
    in range, so the settings load: they are those of the environment, merged with the overrides. -/
theorem effective_desk_of_unset {env : Bindings} {content : String} {entries : Table Value}
    (unset : ∀ src ∈ sources, env.get? src.key = none) (base : basePath env .top = .top)
    (told : env.get? "DEVLOOP_OVERRIDES" = some "/note")
    (read : readOverrides .top (desk content) note = .ok (.entries entries))
    (range : InRange entries) : ∃ plain s,
      ofEnvironment env .top (desk content) = .ok plain ∧
      (effective env .top (desk content)).result = .ok s ∧
      ∀ name, name ≠ moduleName → Table.get? s name = mergedValue plain entries name := by
  have found : (desk content).canonical .top (basePath env .top) = .ok .top := by
    rw [base, canonical_top]
  obtain ⟨plain, plainly⟩ := ofEnvironment_ok found fun src hs => by
    obtain ⟨v, read⟩ := fallback_reads src hs
    refine ⟨v, ?_⟩
    rwa [Source.read, Source.text, unset src hs]
  have stems := stems_ofEnvironment plainly
  have ruled := stems.standard.toGoverned.ruled
  have place := stems.place.symm.trans (overridesPlace_pointing content base told)
  obtain ⟨s, overridden⟩ := (ruled.override_ok_iff place read).2
    fun _ _ he => stems.standard.answerable range he
  refine ⟨plain, s, plainly, effective_result_eq_ok.2 ⟨plain, ?_, overridden⟩,
    fun name hn => ruled.override_settles place read overridden hn⟩
  rw [defaults_result (envFile_desk _ _), environment_empty, plainly]

theorem twins_porting (s content content' : String) :
    Twins portSource.key s .top (environment (porting s) []) (desk content)
      (environment pointing []) (desk content') where
  set := by rw [environment_empty]; rfl
  unset := by rw [environment_empty]; rfl
  other name hn := by
    rw [environment_empty, environment_empty]
    exact (if_neg (Ne.symm hn)).symm
  base := by
    rw [environment_empty, environment_empty, basePath_porting, basePath_pointing, canonical_top,
      canonical_top]

/-- With a port that is a number there are defaults. -/
theorem defaults_porting {s : String} {i : Int} (h : readWhole s = .ok i) (content : String) :
    ∃ module, (defaults (porting s) .top (desk content)).result = .ok module := by
  rw [defaults_result (envFile_desk _ _), environment_empty]
  have found : (desk content).canonical .top (basePath (porting s) .top) = .ok .top := by
    rw [basePath_porting, canonical_top]
  refine ofEnvironment_ok found fun src hs => ?_
  by_cases same : src.key = portSource.key
  · cases key_inj src hs portSource portSource_mem same
    exact ⟨.int i, by change (readWhole s).map Value.int = _; rw [h]; rfl⟩
  · have apart : ∀ src ∈ sources, src.key ≠ "DEVLOOP_OVERRIDES" := by decide
    obtain ⟨v, read⟩ := fallback_reads src hs
    refine ⟨v, ?_⟩
    rwa [Source.read, Source.text, get?_porting same (apart src hs)]

/-- A number written with a blank and an underscore is the same port in both places, and a text that
    is no number is an error in both. -/
theorem variable_agrees_port :
    (∃ u u', (effective (porting " 7_000") .top (desk nothing)).result = .ok u ∧
      (effective pointing .top (desk (portNote " 7_000"))).result = .ok u' ∧
      Table.get? u "PRIMARY_PORT" = some (.int 7000) ∧
      Table.get? u' "PRIMARY_PORT" = some (.int 7000)) ∧
    ∃ f u', (defaults (porting "x") .top (desk nothing)).result = .error f ∧
      (effective pointing .top (desk (portNote "x"))).result = .ok u' ∧
      Table.get? u' "PRIMARY_PORT" = some (.int 6379) := by
  have place (content : String) :
      overridesPlace (environment pointing []) .top (desk content) = .ok note := by
    rw [environment_empty]
    exact overridesPlace_pointing content basePath_pointing rfl
  have blank : readOverrides .top (desk nothing) note = .ok (.entries []) :=
    readOverrides_desk rfl rfl rfl
  have spaced : readOverrides .top (desk (portNote " 7_000")) note =
      .ok (.entries [("PRIMARY_PORT", .text " 7_000")]) := readOverrides_desk rfl rfl rfl
  have word : readOverrides .top (desk (portNote "x")) note =
      .ok (.entries [("PRIMARY_PORT", .text "x")]) := readOverrides_desk rfl rfl rfl
  have range (s : String) : InRange [("PRIMARY_PORT", .text s)] := by
    intro e _ v hv old _ overflows
    cases congrArg Prod.snd (List.mem_singleton.1 hv)
    cases overflows
  have reads : readWhole " 7_000" = .ok 7000 := rfl
  obtain ⟨module, hm⟩ := defaults_porting reads nothing
  have loaded := (defaults_result (envFile_desk _ _)).symm.trans hm
  have twins := twins_porting " 7_000" nothing
  constructor
  · have place' : overridesPlace (environment (porting " 7_000") []) .top (desk nothing) =
        .ok note := by
      rw [environment_empty]
      have told : Table.get? (porting " 7_000") "DEVLOOP_OVERRIDES" = some "/note" := by
        simp [porting, pointing, Table.get?_cons]
      exact overridesPlace_pointing _ (basePath_porting _) told
    have overridden : (override module .top (desk nothing)).result = .ok (opened module) := by
      rw [override_eq ((stems_ofEnvironment loaded).place.symm.trans place') blank]
      rfl
    have hu := effective_result_eq_ok.2 ⟨module, hm, overridden⟩
    obtain ⟨u', v, read, hu', held, held'⟩ :=
      (variable_agrees envFile portSource_mem (envFile_desk _ _) (envFile_desk _ _) (twins _) (place _)
        spaced rfl (range " 7_000")).1 (opened module) note (.entries [])
        hu place' blank (by simp [Reading.table, Table.names])
    cases read
    exact ⟨opened module, u', hu, hu', held, held'⟩
  · have twins' := twins_porting "x" nothing (portNote "x")
    obtain ⟨plain, hp⟩ := (twins (portNote "x")).loads portSource_mem loaded
    have hp' := (defaults_result (envFile_desk _ _)).trans hp
    obtain ⟨f, hf⟩ : ∃ f, (defaults (porting "x") .top (desk nothing)).result = .error f := by
      cases ended : (defaults (porting "x") .top (desk nothing)).result with
      | error f => exact ⟨f, rfl⟩
      | ok module =>
        have stems := stems_ofEnvironment ((defaults_result (envFile_desk _ _)).symm.trans ended)
        obtain ⟨v, read, _⟩ := stems.source portSource portSource_mem
        rw [twins'.read_set] at read
        cases read
    obtain ⟨-, u', hu', kept, -⟩ :=
      (variable_agrees envFile portSource_mem (envFile_desk _ _) (envFile_desk _ _) twins' (place _)
        word rfl (range "x")).2 f plain hf hp'
    obtain ⟨v, read, held⟩ := (stems_ofEnvironment hp).source portSource portSource_mem
    rw [twins'.read_unset] at read
    cases read
    exact ⟨f, u', hf, hu', kept.trans held⟩

end Respawn.Settings
