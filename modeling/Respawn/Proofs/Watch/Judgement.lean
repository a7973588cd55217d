import Mathlib.Logic.Relation
import Respawn.Proofs.FileTree.Texts
import Respawn.Watch.Filter

/-!
# How an event is judged

An event is judged by the paths it is about and by nothing else in it: not by whether they are given as
text or as bytes, nor by how a text spells its path.

* `Watches`, `isWatched_ofPaths`: which paths a filter watches;
* `Reports`, `report_eq_some`: which path an event reports;
* `Respelled`, `Respelled.denotes_eq`: spellings of one path;
* **`judged_ofPaths`**: what an event sets off, and that it does not depend on the spelling.
-/

namespace Respawn.Watch

open Text (Utf8.lossless)

/-! ## 1. What is watched and what is reported -/

/-- The paths that are watched: those of the watch set, and those that match the pattern. An empty
    pattern counts for none. -/
def Watches (cwd : Path) (paths : List Path) (pattern : Option String) (path : String) : Prop :=
  (∃ p ∈ paths, (cwd.absolute p).text = path) ∨
    ∃ glob, pattern = some glob ∧ glob ≠ "" ∧ Glob.Matches (Glob.tokens glob.toList) path.toList

/-- The path that a change reports: its source if that is watched, and otherwise its destination if
    it has one and that is watched. -/
inductive Reports (cwd : Path) (watched : String → Prop) (e : Event) : String → Prop
  | source (change : e.kind ∈ [.modified, .created, .deleted, .moved])
      (there : watched (e.source.denotes cwd).text) :
      Reports cwd watched e (e.source.denotes cwd).text
  | destination {d} (change : e.kind ∈ [.modified, .created, .deleted, .moved])
      (astray : ¬ watched (e.source.denotes cwd).text) (gone : e.goal = some d)
      (there : watched (d.denotes cwd).text) : Reports cwd watched e (d.denotes cwd).text

namespace Filter

theorem matchesPattern_iff {f : Filter} {path : String} : f.matchesPattern path = true ↔
    ∃ glob, f.pattern = some glob ∧ glob ≠ "" ∧
      Glob.Matches (Glob.tokens glob.toList) path.toList := by
  unfold matchesPattern
  cases f.pattern with
  | none => simp
  | some glob => simp [Glob.fits, Glob.accepts_iff]

theorem isWatched_ofPaths {cwd : Path} {paths : List Path} {pattern : Option String}
    {path : String} :
    (ofPaths cwd paths pattern).isWatched path = true ↔ Watches cwd paths pattern path := by
  have listed : path ∈ (ofPaths cwd paths pattern).paths ↔
      ∃ p ∈ paths, (cwd.absolute p).text = path := List.mem_eraseDups.trans List.mem_map
  unfold isWatched
  rw [Bool.or_eq_true_iff, List.contains_iff_mem, listed, matchesPattern_iff]
  rfl

theorem isChange_iff {k : EventKind} :
    k.isChange = true ↔ k ∈ [.modified, .created, .deleted, .moved] := by
  cases k <;> decide

theorem report_eq_some {f : Filter} {cwd : Path} {e : Event} {path : String} :
    f.report cwd e = some path ↔ Reports cwd (fun p => f.isWatched p = true) e path := by
  unfold report
  constructor
  · intro h
    split at h
    · next change =>
      have kind := isChange_iff.1 change
      unfold candidates at h
      by_cases there : f.isWatched (e.source.denotes cwd).text = true
      · rw [List.find?_cons_of_pos there] at h
        cases h
        exact .source kind there
      · rw [List.find?_cons_of_neg there] at h
        cases goal : e.goal with
        | none =>
          rw [goal] at h
          cases h
        | some d =>
          rw [goal] at h
          obtain rfl := List.mem_singleton.1 (List.mem_of_find?_eq_some h)
          exact .destination kind there goal (List.find?_some h)
    · cases h
  · intro h
    unfold candidates
    cases h with
    | source change there => rw [if_pos (isChange_iff.2 change), List.find?_cons_of_pos there]
    | destination change astray gone there =>
      rw [if_pos (isChange_iff.2 change), List.find?_cons_of_neg astray, gone]
      exact List.find?_cons_of_pos there

end Filter

/-! ## 2. Spellings of one path -/

/-- Another spelling of the same path, seen from a directory: as text in place of bytes, as the text
    of the path seen from the directory, or with a slash that is repeated or ends it, a single dot, or
    a name that is taken back at once. What a text starts with stays as it is. -/
inductive Respelled (cwd : Path) : Spelling → Spelling → Prop
  | decoded (bs : List UInt8) : Respelled cwd (.bytes bs) (.text (.ofList (Utf8.lossless bs)))
  | seen (s : String) (absolute : cwd.isAbsolute = true) (written : cwd.Written) :
      Respelled cwd (.text s) (.text (cwd.within (.ofText s)).text)
  | repeated {s : String} (begun : ∃ c ∈ s.toList, c ≠ '/') (t : String) :
      Respelled cwd (.text (s ++ "/" ++ t)) (.text (s ++ "//" ++ t))
  | dotted {s : String} (begun : ∃ c ∈ s.toList, c ≠ '/') (t : String) :
      Respelled cwd (.text (s ++ "/" ++ t)) (.text (s ++ "/./" ++ t))
  | around {s name : String} (begun : ∃ c ∈ s.toList, c ≠ '/') (t : String)
      (down : FileTree.LeadsDown name) (slashless : '/' ∉ name.toList) :
      Respelled cwd (.text (s ++ "/" ++ t)) (.text (s ++ "/" ++ name ++ "/../" ++ t))
  | trailing {s : String} (begun : ∃ c ∈ s.toList, c ≠ '/') :
      Respelled cwd (.text s) (.text (s ++ "/"))

section Respelled

variable {cwd : Path} {s s' : Spelling}

/-- Bytes that are the UTF-8 of a text. -/
theorem Respelled.of_strict {bs : List UInt8} {text : List Char}
    (read : Text.Utf8.strict bs = .ok text) :
    Respelled cwd (.bytes bs) (.text (.ofList text)) :=
  Text.Utf8.lossless_of_strict read ▸ .decoded bs

/-- **Spellings of one path denote the same.** -/
theorem Respelled.denotes_eq (h : Respelled cwd s s') : s.denotes cwd = s'.denotes cwd := by
  cases h with
  | decoded bs => rfl
  | seen s absolute written =>
    have within := Path.within_isAbsolute absolute (Path.ofText s)
    have read := Path.ofText_text within (written.within (Path.written_ofText s))
    show (cwd.within (Path.ofText s)).collapse = (cwd.within (Path.ofText _)).collapse
    rw [Spelling.toText, read, Path.within_of_absolute within]
  | @repeated s begun t =>
    have once : Path.ofText (s ++ "/" ++ t) = (Path.ofText s).below (Path.namesOf t.toList) :=
      Path.ofText_of_toList begun (by simp)
    have twice : Path.ofText (s ++ "//" ++ t) =
        (Path.ofText s).below (Path.namesOf ('/' :: t.toList)) :=
      Path.ofText_of_toList begun (by simp)
    rw [Path.namesOf_slash, ← once] at twice
    exact congrArg cwd.absolute twice.symm
  | @dotted s begun t =>
    have plain : Path.ofText (s ++ "/" ++ t) = (Path.ofText s).below (Path.namesOf t.toList) :=
      Path.ofText_of_toList begun (by simp)
    have dotted : Path.ofText (s ++ "/./" ++ t) =
        (Path.ofText s).below (Path.namesOf ('.' :: '/' :: t.toList)) :=
      Path.ofText_of_toList begun (by simp)
    rw [Path.namesOf_dot_slash, ← plain] at dotted
    exact congrArg cwd.absolute dotted.symm
  | @around s name begun t down slashless =>
    have plain : Path.ofText (s ++ "/" ++ t) = (Path.ofText s).below (Path.namesOf t.toList) :=
      Path.ofText_of_toList begun (by simp)
    have around : Path.ofText (s ++ "/" ++ name ++ "/../" ++ t) = (Path.ofText s).below
        (Path.namesOf (name.toList ++ '/' :: '.' :: '.' :: '/' :: t.toList)) :=
      Path.ofText_of_toList begun (by simp)
    have back : Path.namesOf ('.' :: '.' :: '/' :: t.toList) = ".." :: Path.namesOf t.toList :=
      Path.namesOf_append ['.', '.'] t.toList
    rw [Path.namesOf_append, Path.namesOf_name down.1 slashless, back] at around
    show cwd.absolute _ = cwd.absolute _
    rw [Spelling.toText, Spelling.toText, plain, around]
    exact (Path.absolute_around _ _ _ down.2).symm
  | @trailing s begun =>
    have ended : Path.ofText (s ++ "/") = (Path.ofText s).below (Path.namesOf []) :=
      Path.ofText_of_toList begun (by simp)
    exact congrArg cwd.absolute (ended.trans (Path.below_nil _)).symm

end Respelled

/-! ## 3. Events -/

namespace Filter

/-- Events that report the same and set off the same, whatever is done with what they hand on. -/
structure JudgedAlike (f : Filter) (cwd : Path) (e e' : Event) : Prop where
  report : f.report cwd e = f.report cwd e'
  handle {σ : Type} [Log.Logbook σ] (onChange : String → Action σ Unit) :
    handle onChange f cwd e = handle onChange f cwd e'

variable {cwd : Path} {e e' : Event}

/-- Events of one kind that are about the same paths. -/
theorem judgedAlike_of_candidates (f : Filter) (kind : e.kind = e'.kind)
    (same : candidates cwd e = candidates cwd e') : JudgedAlike f cwd e e' := by
  have report : f.report cwd e = f.report cwd e' := by
    unfold Filter.report
    rw [kind, same]
  refine ⟨report, fun onChange => ?_⟩
  have record (path : String) : eventRecord e path = eventRecord e' path := by
    unfold eventRecord
    rw [kind]
  have told : tell onChange e = tell onChange e' := by
    funext path
    unfold tell
    rw [record]
  rw [handle_eq, handle_eq, report, told]

theorem denotes_eq_of_respelled {s s' : Spelling} (h : Relation.EqvGen (Respelled cwd) s s') :
    s.denotes cwd = s'.denotes cwd := by
  induction h with
  | rel _ _ respelled => exact respelled.denotes_eq
  | refl _ => rfl
  | symm _ _ _ ih => exact ih.symm
  | trans _ _ _ _ _ ih ih' => exact ih.trans ih'

theorem candidates_eq_of_respelled (source : Relation.EqvGen (Respelled cwd) e.source e'.source)
    (goal : Option.Rel (Relation.EqvGen (Respelled cwd)) e.goal e'.goal) :
    candidates cwd e = candidates cwd e' := by
  unfold candidates
  rw [denotes_eq_of_respelled source]
  generalize e.goal = d, e'.goal = d' at goal ⊢
  cases goal with
  | none => rfl
  | some respelled => rw [Option.map_some, Option.map_some, denotes_eq_of_respelled respelled]

/-- **An event is judged by what it is about.** For every watch set and pattern, and for every
    directory that paths are seen from:

    * an event hands on the path that it reports, once, and nothing else;
    * that path is its source if something changed and the source is watched, and else its
      destination if it has one and that is watched;
    * events of one kind are judged alike if their paths, absolute and collapsed, have the same texts;
    * so they are if their paths are spelled differently. -/
theorem judged_ofPaths (cwd : Path) (paths : List Path) (pattern : Option String) (e : Event) :
    (∀ {σ : Type} [Log.Logbook σ] (onChange : String → Action σ Unit),
      handle onChange (ofPaths cwd paths pattern) cwd e =
        ((ofPaths cwd paths pattern).report cwd e).elim (pure ()) (tell onChange e)) ∧
    (∀ path, (ofPaths cwd paths pattern).report cwd e = some path ↔
      Reports cwd (Watches cwd paths pattern) e path) ∧
    (∀ e' : Event, e.kind = e'.kind →
      (e.source.denotes cwd).text = (e'.source.denotes cwd).text →
      (e.goal.map fun d => (d.denotes cwd).text) = e'.goal.map (fun d => (d.denotes cwd).text) →
      JudgedAlike (ofPaths cwd paths pattern) cwd e e') ∧
    ∀ e' : Event, e.kind = e'.kind → Relation.EqvGen (Respelled cwd) e.source e'.source →
      Option.Rel (Relation.EqvGen (Respelled cwd)) e.goal e'.goal →
      JudgedAlike (ofPaths cwd paths pattern) cwd e e' := by
  have watched : (fun p => (ofPaths cwd paths pattern).isWatched p = true) =
      Watches cwd paths pattern := funext fun _ => propext isWatched_ofPaths
  refine ⟨fun onChange => handle_eq onChange _ cwd e, fun path => ?_, fun e' kind source goal => ?_,
    fun e' kind source goal => ?_⟩
  · rw [report_eq_some, watched]
  · refine judgedAlike_of_candidates _ kind ?_
    unfold candidates
    rw [source, goal]
  · exact judgedAlike_of_candidates _ kind (candidates_eq_of_respelled source goal)

/-- A source that is written, once as bytes seen from its directory and by a detour, and once as the
    text of the whole path; and two spellings of what something is moved to. -/
theorem judged_ofPaths_detour :
    let f := ofPaths ⟨.root, ["work"]⟩ [.ofText "src/a.rs"] none
    let detour : Event :=
      ⟨.modified, .bytes (Text.Utf8.encode "src/../src//a.rs/".toList), some (.text "")⟩
    let whole : Event := ⟨.modified, .text "/work/./src/a.rs", none⟩
    let moved (goal : Spelling) : Event := ⟨.moved, .text "notes", some goal⟩
    f.report ⟨.root, ["work"]⟩ detour = some "/work/src/a.rs" ∧
      JudgedAlike f ⟨.root, ["work"]⟩ detour whole ∧
      f.report ⟨.root, ["work"]⟩ (moved (.text "src/./a.rs/")) = some "/work/src/a.rs" ∧
      JudgedAlike f ⟨.root, ["work"]⟩ (moved (.bytes (Text.Utf8.encode "src/a.rs".toList)))
        (moved (.text "src/./a.rs/")) := by
  refine ⟨by decide +kernel, ?_, by decide +kernel, ?_⟩
  · exact (judged_ofPaths _ _ _ _).2.2.1 _ rfl (by decide +kernel) rfl
  · have read : Respelled ⟨.root, ["work"]⟩ (.bytes (Text.Utf8.encode "src/a.rs".toList))
        (.text (.ofList "src/a.rs".toList)) := .of_strict (by decide +kernel)
    have dotted : Respelled ⟨.root, ["work"]⟩ (.text "src/a.rs") (.text "src/./a.rs") :=
      .dotted (s := "src") ⟨'s', by decide, by decide⟩ "a.rs"
    have ended : Respelled ⟨.root, ["work"]⟩ (.text "src/./a.rs") (.text "src/./a.rs/") :=
      .trailing (s := "src/./a.rs") ⟨'s', by decide, by decide⟩
    rw [String.ofList_toList] at read
    refine (judged_ofPaths _ _ _ _).2.2.2 _ rfl (.refl _) (.some ?_)
    exact (Relation.EqvGen.rel _ _ read).trans _ _ _ ((Relation.EqvGen.rel _ _ dotted).trans _ _ _
      (.rel _ _ ended))

end Filter

end Respawn.Watch
