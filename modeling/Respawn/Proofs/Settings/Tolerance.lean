import Respawn.Proofs.Settings.Entries
import Respawn.Proofs.Settings.Reading

/-!
# What a file of overrides can break

Over the default settings of an environment a file of overrides is read with tolerance: what is no
object of JSON is answered by one record and changes nothing, and an entry whose value does not
convert is answered by one record and keeps the default of its own setting. What is not tolerated is
bytes that are no text, a number with too many digits, too many brackets inside each other, and a
number that leaves the range of the sort of its setting: these end the loading.

* `Fatal`, `Answered`: the contents that end the loading, and what any other comes to;
* `Standard.fatal_iff`: the entries that are fatal;
* **`merged_tolerant`**: a content is fatal, or it is answered.
-/

namespace Respawn.Settings

open EnvFile (Bindings)

/-! ## 1. The file -/

/-- The contents of a file of overrides that end the loading, each with the fault it ends by. -/
inductive Fatal (bytes : List UInt8) : Fault → Prop
  | undecodable {u : Text.Utf8.Undecodable} (h : Text.Utf8.strict bytes = .error u) :
      Fatal bytes (.undecodable u)
  | overlong {text : List Char} {digits : Nat} (ht : fileText bytes = .ok text)
      (hr : Json.read text = .error (.overlong digits))
      (hd : Numeral.digitLimit < text.countP Numeral.isDigit) : Fatal bytes (.overlongInt digits)
  | tooDeep {text : List Char} {isObject : Bool} (ht : fileText bytes = .ok text)
      (hr : Json.read text = .error (.tooDeep isObject))
      (hb : Json.nestingLimit < text.countP Json.isBracket) :
      Fatal bytes (.tooDeep (if isObject then "object" else "array"))
  | infinite {text : List Char} {entries : Table Value} {name : String} {negative : Bool}
      (ht : fileText bytes = .ok text) (hr : Json.read text = .ok (.dict entries))
      (hn : (name, .int) ∈ sorts) (he : (name, .real (.infinite negative)) ∈ entries) :
      Fatal bytes .infiniteWhole
  | huge {text : List Char} {entries : Table Value} {name : String} {i : Int} {negative : Bool}
      (ht : fileText bytes = .ok text) (hr : Json.read text = .ok (.dict entries))
      (hn : (name, .real) ∈ sorts) (he : (name, .int i) ∈ entries)
      (hi : Binary64.ofInt i = .infinite negative) : Fatal bytes .tooLargeReal

/-- The settings as they are while entries are applied. -/
def opened (s : Settings) : Settings := Table.put s moduleName .null

/-- What the loading comes to where a file of overrides at `p` does not end it: one record of an
    error and the defaults, or a record for each entry, each setting settled by its own entry. -/
inductive Answered (s : Settings) (p : Path) (bytes : List UInt8) : Loading Settings → Prop
  | malformed {text rest : List Char} {d : Json.Defect} (ht : fileText bytes = .ok text)
      (hr : Json.read text = .error (.defect d rest)) :
      Answered s p bytes ⟨[unreadableRecord p (Json.locate d text rest).message], .ok s⟩
  | noObject {text : List Char} {v : Value} (ht : fileText bytes = .ok text)
      (hr : Json.read text = .ok v) (hv : v.kind ≠ .dict) :
      Answered s p bytes
        ⟨[errorRecord s!"Overrides file '{p}' must contain a JSON object. Ignoring."], .ok s⟩
  | object {text : List Char} {entries : Table Value} {t : Settings}
      (ht : fileText bytes = .ok text) (hr : Json.read text = .ok (.dict entries))
      (settles : ∀ name, name ≠ moduleName → Table.get? t name = settled s entries name) :
      Answered s p bytes
        ⟨loadingRecord p :: entries.map fun e => reply (opened s) e.1 e.2, .ok t⟩

/-- The defaults of a module, with the place of the overrides where one is given. -/
def pointed (module : Settings) : Option Path → Settings
  | none => ofModule module
  | some p => Table.put (ofModule module) "OVERRIDES_JSON_PATH" (.path p)

theorem merged_eq (module : Settings) (given : Option Path) (cwd : Path) (t : FileTree) :
    merged module (given.map .path) cwd t = override (pointed module given) cwd t := by
  cases given <;> rfl

theorem Standard.pointed {module : Settings} (h : Standard (ofModule module))
    (given : Option Path) : Standard (pointed module given) := by
  cases given with
  | none => exact h
  | some p => exact h.put (by decide) (by decide) (by decide)

/-- The entries that end the loading are those whose value is out of the range of their sort. -/
theorem Standard.fatal_iff {s : Settings} (hs : Standard s) {bytes : List UInt8} {text : List Char}
    {entries : Table Value} (ht : fileText bytes = .ok text)
    (hr : Json.read text = .ok (.dict entries)) (f : Fault) :
    Fatal bytes f ↔ ∃ name v, (name, v) ∈ entries ∧ conversion s name v = some (.error f) ∧
      isConversionFault f = false := by
  constructor
  · intro h
    cases h with
    | undecodable h => simp [fileText, h] at ht
    | overlong ht' hr' _ | tooDeep ht' hr' _ =>
      cases ht.symm.trans ht'
      cases hr.symm.trans hr'
    | @infinite _ _ name negative ht' hr' hn he =>
      cases ht.symm.trans ht'
      cases hr.symm.trans hr'
      obtain ⟨old, hk, hc⟩ := hs.conversion_eq hn
      cases old <;> cases hk
      exact ⟨name, _, he, hc _, rfl⟩
    | @huge _ _ name i negative ht' hr' hn he hi =>
      cases ht.symm.trans ht'
      cases hr.symm.trans hr'
      obtain ⟨old, hk, hc⟩ := hs.conversion_eq hn
      cases old <;> cases hk
      refine ⟨name, _, he, (hc _).trans ?_, rfl⟩
      simp [convert, toReal, hi, Except.map]
  · rintro ⟨name, v, he, hc, hf⟩
    obtain ⟨⟨_, kind⟩, hn, rfl⟩ := List.mem_map.1 (modifiable_eq ▸ mem_of_conversion hc)
    obtain ⟨old, hk, hc'⟩ := hs.conversion_eq hn
    have failed : convert old v = .error f := by simpa [hc'] using hc
    cases (overflows_iff old v).2 ⟨f, failed, hf⟩ with
    | infinite i negative =>
      cases failed
      cases hk
      exact .infinite ht hr hn he
    | huge x hi =>
      simp only [convert, toReal, hi, Except.map] at failed
      cases failed
      cases hk
      exact .huge ht hr hn he hi

/-- A text that is no object of JSON is not fatal. -/
theorem not_fatal {bytes : List UInt8} {text : List Char} (ht : fileText bytes = .ok text)
    (hr : (∃ d rest, Json.read text = .error (.defect d rest)) ∨
      ∃ v, Json.read text = .ok v ∧ v.kind ≠ .dict) (f : Fault) : ¬ Fatal bytes f := by
  intro h
  cases h with
  | undecodable h => simp [fileText, h] at ht
  | overlong ht' hr' _ | tooDeep ht' hr' _ | infinite ht' hr' _ _ | huge ht' hr' _ _ _ =>
    cases ht.symm.trans ht'
    obtain ⟨d, rest, hr⟩ | ⟨v, hr, hv⟩ := hr <;> cases hr.symm.trans hr'
    all_goals exact hv rfl

theorem Standard.opened {s : Settings} (h : Standard s) : Standard (opened s) :=
  h.put (by decide) (by decide) (by decide)

theorem settled_opened (s : Settings) (entries : Table Value) {name : String}
    (hn : name ≠ moduleName) : settled (opened s) entries name = settled s entries name := by
  have kept : Table.get? (opened s) name = Table.get? s name := Table.get?_put_of_ne s hn _
  have hc : conversion (opened s) name = conversion s name :=
    funext fun v => conversion_congr v kept
  simp only [settled, kept, hc]

/-- Overrides that are an object are applied entry by entry. -/
theorem override_eq {s : Settings} {cwd p : Path} {t : FileTree} {entries : Table Value}
    (hp : overridesPath s = .ok p) (hr : readOverrides cwd t p = .ok (.entries entries)) :
    override s cwd t =
      ⟨loadingRecord p :: (applyAll (opened s) entries).records,
        (applyAll (opened s) entries).result⟩ := by
  simp [override, hp, hr, opened]

/-- Overrides that are an object end the loading by an entry, or are answered entry by entry. -/
theorem override_object {s : Settings} (hs : Standard s) {cwd p : Path} {t : FileTree}
    {bytes : List UInt8} {text : List Char} {entries : Table Value} (hp : overridesPath s = .ok p)
    (ht : fileText bytes = .ok text) (hr : Json.read text = .ok (.dict entries))
    (hb : readOverrides cwd t p = .ok (.entries entries)) :
    (∃ f, Fatal bytes f ∧ (override s cwd t).result = .error f) ∨
      ((∀ f, ¬ Fatal bytes f) ∧ Answered s p bytes (override s cwd t)) := by
  have fatal := hs.opened.fatal_iff ht hr
  have loaded := override_eq hp hb
  obtain ⟨name, v, f, he, hc, hf, ended⟩ | ⟨tolerated, u, all, settles⟩ :=
    applyAll_cases hs.opened.toGoverned (Json.read_nodup hr)
  · exact .inl ⟨f, (fatal f).2 ⟨name, v, he, hc, hf⟩, by rw [loaded, ended]⟩
  · refine .inr ⟨fun f h => ?_, ?_⟩
    · obtain ⟨name, v, he, hc, hf⟩ := (fatal f).1 h
      simp [tolerated name v he f hc] at hf
    · rw [loaded, all]
      exact .object ht hr fun name hn => (settles name).trans (settled_opened s entries hn)

theorem override_file {s : Settings} (hs : Standard s) {cwd p : Path} {t : FileTree}
    {bytes : List UInt8} (hp : overridesPath s = .ok p) (ha : p.isAskable = true)
    (hb : t.lookupFrom cwd p = .ok (.file bytes)) :
    (∃ f, Fatal bytes f ∧ (override s cwd t).result = .error f) ∨
      ((∀ f, ¬ Fatal bytes f) ∧ Answered s p bytes (override s cwd t)) := by
  have contents : readOverrides cwd t p = (fileText bytes).bind (readEntries p) := by
    simp [readOverrides, ha, hb]
  cases ht : fileText bytes with
  | error f =>
    have ended : (override s cwd t).result = .error f := by
      simp [override, hp, contents, ht, Except.bind]
    refine .inl ⟨f, ?_, ended⟩
    unfold fileText at ht
    split at ht <;> cases ht
    rename_i u hu
    exact .undecodable hu
  | ok text =>
    rw [ht] at contents
    replace contents : readOverrides cwd t p = readEntries p text := contents
    cases hr : Json.read text with
    | error e =>
      cases e with
      | defect d rest =>
        have told : override s cwd t =
            ⟨[unreadableRecord p (Json.locate d text rest).message], .ok s⟩ := by
          simp [override, hp, contents, readEntries, hr]
        exact .inr ⟨not_fatal ht (.inl ⟨d, rest, hr⟩), told ▸ .malformed ht hr⟩
      | overlong digits =>
        refine .inl ⟨_, .overlong ht hr (Json.read_overlong hr), ?_⟩
        simp [override, hp, contents, readEntries, hr]
      | tooDeep isObject =>
        refine .inl ⟨_, .tooDeep ht hr (Json.read_tooDeep hr), ?_⟩
        simp [override, hp, contents, readEntries, hr]
    | ok v =>
      by_cases hv : v.kind = .dict
      · cases v <;> cases hv
        exact override_object hs hp ht hr (by simp [contents, readEntries, hr])
      · have told : override s cwd t = ⟨[errorRecord
            s!"Overrides file '{p}' must contain a JSON object. Ignoring."], .ok s⟩ := by
          cases v <;> first | exact absurd rfl hv | simp [override, hp, contents, readEntries, hr]
        exact .inr ⟨not_fatal ht (.inr ⟨v, hr, hv⟩), told ▸ .noObject ht hr hv⟩

/-- **A file of overrides over the default settings of an environment.** A content that is fatal
    ends the loading by its fault; any other is answered by records, and every setting has the value
    that its own entry converts to, or its default. -/
theorem merged_tolerant {env : Bindings} {home : Path} {tree : FileTree} {module : Settings}
    (hm : ofEnvironment env home tree = .ok module) (given : Option Path) {cwd p : Path}
    {t : FileTree} {bytes : List UInt8} (hp : overridesPath (pointed module given) = .ok p)
    (ha : p.isAskable = true) (hb : t.lookupFrom cwd p = .ok (.file bytes)) :
    (∃ f, Fatal bytes f ∧ (merged module (given.map .path) cwd t).result = .error f) ∨
      ((∀ f, ¬ Fatal bytes f) ∧
        Answered (pointed module given) p bytes (merged module (given.map .path) cwd t)) := by
  rw [merged_eq]
  exact override_file ((standard_ofEnvironment hm).pointed given) hp ha hb

/-! ## 2. Two files on a desk -/

/-- The bytes of a text of plain characters. -/
def plainBytes (s : List Char) : List UInt8 := s.map fun c => UInt8.ofNat c.toNat

theorem strict_plainBytes {s : List Char} (h : s.all (·.toNat < 128) = true) :
    Text.Utf8.strict (plainBytes s) = .ok s := by
  rw [Text.Utf8.strict_eq_ok_iff]
  induction s with
  | nil => exact Text.Utf8.pieces_nil
  | cons c rest ih =>
    simp only [List.all_cons, Bool.and_eq_true, decide_eq_true_eq] at h
    obtain ⟨hc, hr⟩ := h
    have value : (UInt8.ofNat c.toNat).toNat = c.toNat := by
      rw [UInt8.toNat_ofNat']
      omega
    have small : UInt8.ofNat c.toNat < 0x80 := by
      rw [UInt8.lt_iff_toNat_lt, value]
      exact hc
    have first : Text.Utf8.first (UInt8.ofNat c.toNat) (plainBytes rest) = (.char c, 0) := by
      simp [Text.Utf8.first, small, value, Char.ofNat_toNat]
    change Text.Utf8.pieces (UInt8.ofNat c.toNat :: plainBytes rest) = _
    rw [Text.Utf8.pieces_cons, first, List.drop_zero, ih hr, List.map_cons]

theorem fileText_plainBytes {s : List Char} (h : s.all (·.toNat < 128) = true)
    (hr : s.contains '\r' = false) : fileText (plainBytes s) = .ok s := by
  have absent : '\r' ∉ s := by simpa using hr
  simp only [fileText, strict_plainBytes h, Text.unified_of_not_mem absent]

theorem lookup_top (t : FileTree) : t.lookup .top = .ok t.top := by
  have short : ¬ FileTree.pathLimit < Path.top.text.utf8ByteSize := by decide
  have parts : (Path.top.within Path.top).parts = [] := rfl
  simp only [FileTree.lookup, FileTree.lookupFrom, FileTree.locate, if_neg short, parts,
    FileTree.locateFrom]
  rfl

theorem canonical_top (t : FileTree) : t.canonical .top .top = .ok .top := by
  have start : t.canonicalFrom .top FileTree.depthLimit [] .top [] = .ok ⟨.top, true, []⟩ := by
    rw [FileTree.canonicalFrom]
  have found : Path.top.absolute Path.top = .top := rfl
  unfold FileTree.canonical
  change (t.canonicalFrom .top FileTree.depthLimit [] .top [] >>= _) = _
  simp only [start, bind, Except.bind, found, lookup_top]
  rfl

/-- Without any bindings there are default settings. -/
theorem ofEnvironment_nil (t : FileTree) : ∃ module, ofEnvironment [] .top t = .ok module := by
  cases h : ofEnvironment [] .top t with
  | ok module => exact ⟨module, rfl⟩
  | error f =>
    unfold ofEnvironment at h
    change (t.canonical .top .top >>= _) = _ at h
    rw [canonical_top] at h
    cases h

/-- Where the overrides lie. -/
def note : Path := ⟨.root, ["note"]⟩

/-- A tree with nothing but overrides. -/
def desk (content : String) : FileTree := ⟨.dir [("note", .file (plainBytes content.toList))]⟩

theorem lookup_desk (content : String) :
    (desk content).lookupFrom .top note = .ok (.file (plainBytes content.toList)) := by
  have short : ¬ FileTree.pathLimit < note.text.utf8ByteSize := by decide
  have parts : (Path.top.within note).parts = ["note"] := rfl
  have size : ¬ FileTree.nameLimit < "note".utf8ByteSize := by decide
  simp [FileTree.lookupFrom, FileTree.locate, short, parts, FileTree.locateFrom, FileTree.get?,
    Node.get?, desk, size, Table.get?]

/-- A port that is no number, and another one that is. -/
def misspelt : String := "\x7b\"REPLICA_PORT\": \"x\", \"PRIMARY_PORT\": 7000\x7d"

/-- A port that is infinite, and another one that is not. -/
def endless : String := "\x7b\"REPLICA_PORT\": Infinity, \"PRIMARY_PORT\": 7000\x7d"

theorem read_misspelt : Json.read misspelt.toList =
    .ok (.dict [("REPLICA_PORT", .text "x"), ("PRIMARY_PORT", .int 7000)]) := rfl

theorem read_endless : Json.read endless.toList =
    .ok (.dict [("REPLICA_PORT", .real (.infinite false)), ("PRIMARY_PORT", .int 7000)]) := rfl

theorem fileText_misspelt : fileText (plainBytes misspelt.toList) = .ok misspelt.toList :=
  fileText_plainBytes rfl rfl

theorem fileText_endless : fileText (plainBytes endless.toList) = .ok endless.toList :=
  fileText_plainBytes rfl rfl

/-- In settings with the sorts of the defaults the misspelt port does not convert, and the other one
    does. -/
theorem conversion_misspelt {s : Settings} (hs : Standard s) :
    conversion s "REPLICA_PORT" (.text "x") = some (.error (.malformedInt "x")) ∧
      conversion s "PRIMARY_PORT" (.int 7000) = some (.ok (.int 7000)) := by
  have sort (name : String) (hn : (name, .int) ∈ sorts) (v : Value) :
      ∃ i, conversion s name v = some (convert (.int i) v) := by
    obtain ⟨old, hk, hc⟩ := hs.conversion_eq hn
    cases old <;> cases hk
    exact ⟨_, hc v⟩
  obtain ⟨_, replica⟩ := sort "REPLICA_PORT" (by simp [sorts]) (.text "x")
  obtain ⟨_, primary⟩ := sort "PRIMARY_PORT" (by simp [sorts]) (.int 7000)
  exact ⟨replica.trans rfl, primary.trans rfl⟩

/-- The one port keeps its default and the other one is taken; an infinite port ends the loading. -/
theorem merged_tolerant_ports : ∃ module, ofEnvironment [] .top .empty = .ok module ∧
    (∃ t, (merged module (some (.path note)) .top (desk misspelt)).result = .ok t ∧
      Table.get? t "PRIMARY_PORT" = some (.int 7000) ∧
      Table.get? t "REPLICA_PORT" = Table.get? (ofModule module) "REPLICA_PORT") ∧
    ∃ f, (merged module (some (.path note)) .top (desk endless)).result = .error f := by
  obtain ⟨module, hm⟩ := ofEnvironment_nil .empty
  have hp : overridesPath (pointed module (some note)) = .ok note := by
    simp [overridesPath, get, pointed]
  have ha : note.isAskable = true := by simp [Path.isAskable, note]
  have hs := (standard_ofEnvironment hm).pointed (some note)
  obtain ⟨replica, primary⟩ := conversion_misspelt hs
  refine ⟨module, hm, ?_, ?_⟩
  · obtain ⟨f, fatal, _⟩ | ⟨_, answered⟩ :=
      merged_tolerant hm (some note) hp ha (lookup_desk misspelt)
    · obtain ⟨name, v, he, hc, hf⟩ := (hs.fatal_iff fileText_misspelt read_misspelt f).1 fatal
      simp only [List.mem_cons, List.not_mem_nil, or_false] at he
      obtain he | he := he <;> cases he
      · cases replica.symm.trans hc
        cases hf
      · cases primary.symm.trans hc
    · change Answered _ note _ (merged module (some (.path note)) .top (desk misspelt)) at answered
      generalize merged module (some (.path note)) .top (desk misspelt) = loaded at answered ⊢
      cases answered with
      | malformed ht hr =>
        cases fileText_misspelt.symm.trans ht
        cases read_misspelt.symm.trans hr
      | noObject ht hr hv =>
        cases fileText_misspelt.symm.trans ht
        cases read_misspelt.symm.trans hr
        cases hv rfl
      | object ht hr settles =>
        cases fileText_misspelt.symm.trans ht
        cases read_misspelt.symm.trans hr
        have kept : Table.get? (pointed module (some note)) "REPLICA_PORT" =
            Table.get? (ofModule module) "REPLICA_PORT" := Table.get?_put_of_ne _ (by decide) _
        refine ⟨_, rfl, (settles _ (by decide)).trans ?_, (settles _ (by decide)).trans ?_⟩
        · simp [settled, Table.get?_cons, primary]
        · simp [settled, Table.get?_cons, replica, kept]
  · obtain ⟨f, _, ended⟩ | ⟨tolerated, _⟩ :=
      merged_tolerant hm (some note) hp ha (lookup_desk endless)
    · exact ⟨f, ended⟩
    · have port : ("REPLICA_PORT", Value.Kind.int) ∈ sorts := by simp [sorts]
      exact absurd (.infinite fileText_endless read_endless port List.mem_cons_self) (tolerated _)

end Respawn.Settings
