import Mathlib.Data.List.TakeWhile
import Respawn.Proofs.FileTree.Texts
import Respawn.Proofs.Watch.Acceptance

/-!
# Watch sets are canonical

A watch set that was resolved is a list that nothing needs to be done to: its paths are absolute and
collapsed, each is there once, and they come in the order of their texts. So what reads these texts
again keeps the list as it is. A pattern for which the system cannot even be asked is no watch set that
is refused, but a fault of its own.

* `refusal`, `expand_eq_error_iff`: the patterns that cannot be expanded;
* `nodup_expand`, `forall_mem_expand`: what is listed is listed once, and its names are
  those of the pattern and of the tree;
* `Canonical`: lists in canonical form;
* **`resolve_canonical`**: what a pattern comes to, and what a watcher and its filter make of it.
-/

namespace Respawn

open FileTree (LeadsDown Tame)
open Watch (Filter Lookout Watcher resolve_site works)

/-! ## 1. What is listed -/

namespace Glob

variable {t : FileTree} {pattern : Path} {found : List Path}

/-- Why a pattern cannot be expanded: it has names with wildcards, and the path before the first of
    them is one that the system does not take. -/
def refusal (pattern : Path) : Option Fault :=
  let start : Path := ⟨pattern.anchor, pattern.parts.takeWhile fun name => !isMagic name⟩
  if pattern.parts.all fun name => !isMagic name then none
  else if !Text.hasBytes start.text.toList then
    some (.unencodable (Text.unencodable start.text.toList))
  else if !start.isAskable then some .nulInPath
  else none

/-- **Whether a pattern can be expanded** does not depend on the tree. -/
theorem expand_eq_error_iff {f : Fault} :
    expand t pattern = .error f ↔ refusal pattern = some f := by
  have last : (pattern.parts.dropWhile fun name => !isMagic name).isEmpty =
      pattern.parts.all fun name => !isMagic name := by
    rw [Bool.eq_iff_iff, List.isEmpty_iff, List.dropWhile_eq_nil_iff, List.all_eq_true]
  unfold expand refusal
  dsimp only
  rw [last]
  split
  · exact ⟨nofun, nofun⟩
  · split
    · exact ⟨fun h => by cases h; rfl, fun h => by cases h; rfl⟩
    · split
      · exact ⟨fun h => by cases h; rfl, fun h => by cases h; rfl⟩
      · exact ⟨nofun, nofun⟩

/-- The names of a list are those that the pattern leads to. -/
theorem exists_matches (h : expand t pattern = .ok found) : ∃ start rest,
    pattern = Path.below start rest ∧ (found = [] ∨ found = [start] ∧ rest = [] ∨
      found = (matchesBelow t start rest).map start.below) := by
  obtain ⟨start, rest, whole, literal, magic⟩ := exists_start pattern
  refine ⟨start, rest, whole, ?_⟩
  rw [whole, expand_eq literal magic] at h
  split at h
  · next last =>
    cases h
    split
    · exact .inr (.inl ⟨rfl, List.isEmpty_iff.1 last⟩)
    · exact .inl rfl
  · split at h
    · cases h
    · split at h
      · cases h
      · cases h
        exact .inr (.inr (steps_matchesBelow t start rest))

/-- **What a pattern lists, it lists once.** -/
theorem nodup_expand (ht : t.Proper) (h : expand t pattern = .ok found) : found.Nodup := by
  obtain ⟨start, rest, -, rfl | ⟨rfl, -⟩ | rfl⟩ := exists_matches h
  · exact List.nodup_nil
  · exact List.nodup_singleton start
  · exact (nodup_matchesBelow ht rest).map fun _ _ => Path.below_inj

/-- What is true of the pattern's names and of those in the tree is true of all names listed. -/
theorem forall_mem_expand {name : String → Prop} (ht : Tame name t)
    (hp : ∀ n ∈ pattern.parts, name n) (h : expand t pattern = .ok found) :
    ∀ q ∈ found, ∀ n ∈ q.parts, name n := by
  intro q hq n hn
  obtain ⟨start, rest, rfl, rfl | ⟨rfl, -⟩ | rfl⟩ := exists_matches h
  · cases hq
  · rw [List.mem_singleton.1 hq] at hn
    exact hp n (List.mem_append_left _ hn)
  · obtain ⟨names, hm, rfl⟩ := List.mem_map.1 hq
    rcases List.mem_append.1 hn with before | after
    · exact hp n (List.mem_append_left _ before)
    · exact (mem_matchesBelow.1 hm).tame ht (fun n hn => hp n (List.mem_append_right _ hn)) n after

end Glob

/-- A list without repetitions is kept as it is. -/
theorem eraseDups_of_nodup {α : Type} [BEq α] [LawfulBEq α] {l : List α} (h : l.Nodup) :
    l.eraseDups = l := by
  induction l with
  | nil => rfl
  | cons a l ih =>
    obtain ⟨fresh, rest⟩ := List.nodup_cons.1 h
    have kept : l.filter (fun b => !b == a) = l := by
      refine List.filter_eq_self.2 fun b hb => ?_
      have other : b ≠ a := fun same => fresh (same ▸ hb)
      simpa using other
    rw [List.eraseDups_cons, kept, ih rest]

/-! ## 2. Watch sets -/

namespace WatchSet

/-- Lists of paths to which nothing needs to be done. A path is settled if it is what its text names,
    seen from any directory. -/
structure Canonical (t : FileTree) (mayRead : Path → Bool) (found : List Path) : Prop where
  some : found ≠ []
  increasing : found.Pairwise fun p q => Text.codePoints p.text < Text.codePoints q.text
  absolute : ∀ p ∈ found, p.isAbsolute = true
  collapsed : ∀ p ∈ found, p.collapse = p
  settled : ∀ p ∈ found, ∀ base : Path, base.absolute (.ofText p.text) = p
  readable : ∀ p ∈ found, readable t mayRead p = true

/-- What comes of an anchored pattern. -/
inductive Comes (t : FileTree) (mayRead : Path → Bool) (full : Path) :
    Except Fault (List Path) → Prop
  | refused {f} (untaken : Glob.refusal full = some f) : Comes t mayRead full (.error f)
  | absent (listed : Glob.expandSorted t full = .ok []) :
      Comes t mayRead full (.error (.cannotWatch full.text absentReason))
  | unreadable {found p} (listed : Glob.expandSorted t full = .ok found) (entry : p ∈ found)
      (closed : readable t mayRead p = false) :
      Comes t mayRead full (.error (.cannotWatch p.text unreadableReason))
  | resolved {found} (listed : Glob.expandSorted t full = .ok found)
      (form : Canonical t mayRead found) : Comes t mayRead full (.ok found)

section Canonical

variable {t : FileTree} {mayRead : Path → Bool} {cwd base pattern full : Path} {found : List Path}

/-- An absolute path that is written and has no double dot among its names. -/
theorem settled {p : Path} (hp : p.isAbsolute = true) (written : p.Written) (h : ".." ∉ p.parts)
    (base : Path) : base.absolute (.ofText p.text) = p := by
  unfold Path.absolute
  rw [Path.ofText_text hp written, Path.within_of_absolute hp, Path.collapse_of_no_dots h]

/-- A list in order and without repetitions is in strict order. -/
theorem increasing_of_nodup (sorted : found.Pairwise fun p q => Glob.textLe p q = true)
    (distinct : (found.map Path.text).Nodup) :
    found.Pairwise fun p q => Text.codePoints p.text < Text.codePoints q.text := by
  have apart : found.Pairwise fun p q => p.text ≠ q.text := List.pairwise_map.1 distinct
  exact (sorted.and apart).imp fun h => Text.lt_of_precedes h.1 h.2

/-- **What a normal pattern lists is in canonical form.** -/
theorem canonical_of_listed (ht : t.Proper) (slashless : Tame (fun name => '/' ∉ name.toList) t)
    (rooted : full.isAbsolute = true) (written : full.Written) (normal : ".." ∉ full.parts)
    (listed : Glob.expandSorted t full = .ok found) (some : found ≠ [])
    (allowed : ∀ p ∈ found, readable t mayRead p = true) : Canonical t mayRead found := by
  obtain ⟨unsorted, expanded, rfl⟩ := map_eq_ok.1 listed
  have absolute : ∀ p ∈ unsorted.mergeSort Glob.textLe, p.isAbsolute = true := fun p hp => by
    unfold Path.isAbsolute at rooted ⊢
    rwa [Glob.expand_anchor expanded p (List.mem_mergeSort.1 hp)]
  have names : ∀ p ∈ unsorted.mergeSort Glob.textLe, ∀ name ∈ p.parts,
      LeadsDown name ∧ '/' ∉ name.toList := by
    have tame : Tame (fun name => LeadsDown name ∧ '/' ∉ name.toList) t :=
      fun place entries dir name hm =>
        ⟨ht.down place entries dir name hm, slashless place entries dir name hm⟩
    refine fun p hp => Glob.forall_mem_expand tame (fun name hm => ?_) expanded p
      (List.mem_mergeSort.1 hp)
    exact ⟨⟨(written name hm).1, fun dots => normal (dots ▸ hm)⟩, (written name hm).2⟩
  have dotless : ∀ p ∈ unsorted.mergeSort Glob.textLe, ".." ∉ p.parts := fun p hp hm =>
    (names p hp _ hm).1.2 rfl
  have asWritten : ∀ p ∈ unsorted.mergeSort Glob.textLe, p.Written := fun p hp name hm =>
    ⟨(names p hp name hm).1.1, (names p hp name hm).2⟩
  have distinct : ((unsorted.mergeSort Glob.textLe).map Path.text).Nodup := by
    have once := (List.mergeSort_perm unsorted Glob.textLe).nodup_iff.2
      (Glob.nodup_expand ht expanded)
    refine once.map_on fun p hp q hq same => ?_
    exact Path.text_inj (absolute p hp) (absolute q hq) (asWritten p hp) (asWritten q hq) same
  exact {
    some := some
    increasing := increasing_of_nodup (Glob.sorted_expandSorted listed) distinct
    absolute := absolute
    collapsed := fun p hp => Path.collapse_of_no_dots (dotless p hp)
    settled := fun p hp => settled (absolute p hp) (asWritten p hp) (dotless p hp)
    readable := allowed }

/-- A canonical list has no text twice. -/
theorem Canonical.nodup_text (h : Canonical t mayRead found) : (found.map Path.text).Nodup := by
  refine List.pairwise_map.2 (h.increasing.imp fun less same => ?_)
  rw [same] at less
  exact lt_irrefl _ less

/-- Nothing in a canonical list changes when it is made absolute. -/
theorem Canonical.map_absolute (h : Canonical t mayRead found) (cwd : Path) :
    found.map cwd.absolute = found := by
  refine (List.map_congr_left fun p hp => ?_).trans (List.map_id found)
  unfold Path.absolute
  rw [Path.within_of_absolute (h.absolute p hp), h.collapsed p hp]
  rfl

/-- What is anchored is written as its parts are. -/
theorem written_anchored (hc : cwd.Written) (hb : base.Written) (hp : pattern.Written) :
    (anchored cwd base pattern).Written := hc.absolute (hb.within hp)

/-- A pattern comes to a watch set in canonical form, or to a complaint about what it lists, or it
    cannot be expanded. -/
theorem comes_of_resolve (ht : t.Proper) (slashless : Tame (fun name => '/' ∉ name.toList) t)
    (rooted : cwd.isAbsolute = true) (written : (anchored cwd base pattern).Written)
    (mayRead : Path → Bool) :
    Comes t mayRead (anchored cwd base pattern) (resolve cwd t base pattern mayRead) := by
  have absolute := anchored_isAbsolute rooted base pattern
  have normal := anchored_no_dots rooted base pattern
  unfold resolve
  dsimp only
  cases listed : Glob.expandSorted t (anchored cwd base pattern) with
  | error f => exact .refused (Glob.expand_eq_error_iff.1 (map_eq_error.1 listed))
  | ok found =>
    cases found with
    | nil => exact .absent listed
    | cons p rest =>
      dsimp only
      cases closed : (p :: rest).find? fun p => !readable t mayRead p with
      | some q =>
        refine .unreadable listed (List.mem_of_find?_eq_some closed) ?_
        simpa using List.find?_some closed
      | none =>
        have allowed : ∀ q ∈ p :: rest, readable t mayRead q = true := fun q hq => by
          simpa using List.find?_eq_none.1 closed q hq
        exact .resolved listed (canonical_of_listed ht slashless absolute written normal listed
          (List.cons_ne_nil p rest) allowed)

theorem not_listed_of_refusal {f : Fault} (untaken : Glob.refusal full = some f) :
    Glob.expandSorted t full ≠ .ok found := by
  have refused := Glob.expand_eq_error_iff (t := t).2 untaken
  intro listed
  obtain ⟨unsorted, expanded, -⟩ := map_eq_ok.1 listed
  cases expanded.symm.trans refused

section Comes

variable {result : Except Fault (List Path)} (h : Comes t mayRead full result)
include h

/-- A pattern that cannot be expanded comes to the fault of that and to nothing else. -/
theorem Comes.of_refusal {f : Fault} (untaken : Glob.refusal full = some f) : result = .error f := by
  have unlisted {found : List Path} : Glob.expandSorted t full ≠ .ok found :=
    not_listed_of_refusal untaken
  cases h with
  | refused untaken' =>
    cases untaken'.symm.trans untaken
    rfl
  | absent listed => exact absurd listed unlisted
  | unreadable listed entry closed => exact absurd listed unlisted
  | resolved listed form => exact absurd listed unlisted

/-- A pattern that lists one path, which must not be read, comes to the complaint about that path. -/
theorem Comes.of_closed {p : Path} (listed : Glob.expandSorted t full = .ok [p])
    (closed : WatchSet.readable t mayRead p = false) :
    result = .error (.cannotWatch p.text unreadableReason) := by
  cases h with
  | refused untaken => exact absurd listed (not_listed_of_refusal untaken)
  | absent none => cases none.symm.trans listed
  | unreadable again entry _ =>
    cases again.symm.trans listed
    rw [List.mem_singleton.1 entry]
  | resolved again form =>
    cases again.symm.trans listed
    exact absurd (form.readable p List.mem_cons_self) (Bool.not_eq_true _ ▸ closed)

end Comes

/-- A canonical list stays what it is in a watcher and in its filter. -/
theorem Canonical.filter_paths {T O : Type} (h : Canonical t mayRead found) (cwd : Path)
    {w : Watcher T O} (kept : w.paths = found) : (w.filter cwd).paths = found.map Path.text := by
  have texts : (found.map fun p => (cwd.absolute p).text) = found.map Path.text := by
    have same := congrArg (List.map Path.text) (h.map_absolute cwd)
    rwa [List.map_map] at same
  unfold Watcher.filter Filter.ofPaths
  rw [kept, texts]
  exact eraseDups_of_nodup h.nodup_text

/-- **Watch sets are canonical.** A pattern comes to one of these, in every tree and whatever of it
    may be read:

    * a watch set that is not empty, in strict order, of absolute and collapsed paths that can be read
      and that are what their texts name;
    * a complaint, if it lists nothing or something that cannot be read;
    * a fault of another kind, exactly if the system does not take the path before its first name
      with a wildcard.

    A watcher that is made for a watch set keeps it as it is, and its filter keeps the same texts, each
    once. -/
theorem resolve_canonical (ht : t.Proper) (slashless : Tame (fun name => '/' ∉ name.toList) t)
    (rooted : cwd.isAbsolute = true) (hc : cwd.Written) (hb : base.Written) (hp : pattern.Written)
    (mayRead : Path → Bool) :
    Comes t mayRead (anchored cwd base pattern) (resolve cwd t base pattern mayRead) ∧
      ∀ found, resolve cwd t base pattern mayRead = .ok found →
        ∀ {T O σ : Type} [Log.Logbook σ] (v : Value) (debounce : T) (s : σ),
          Settings.toPath v = .ok pattern → ∃ (w : Watcher T O) (s' : σ),
            Watcher.ofPattern cwd t v base debounce mayRead s = (.done w, s') ∧ w.paths = found ∧
              (w.filter cwd).paths = found.map Path.text := by
  have comes := comes_of_resolve ht slashless rooted (written_anchored hc hb hp) mayRead
  refine ⟨comes, ?_⟩
  intro found resolved T O σ _ v debounce s read
  rw [resolved] at comes
  cases comes with
  | resolved listed form =>
    cases found with
    | nil => exact absurd rfl form.some
    | cons p rest =>
      exact ⟨_, _, Watcher.ofPattern_of_resolve read resolved, form.map_absolute cwd,
        form.filter_paths cwd (form.map_absolute cwd)⟩

end Canonical

/-! ## 3. A site -/

/-- The sources of a site are watched as they are found there. If they must not be read, there is a
    complaint about the first of them; and whatever the site is, a pattern that begins with what the
    system does not take is neither a watch set nor a complaint. -/
theorem resolve_canonical_site : (∃ (w : Watcher Nat Nat) (s : Lookout),
    Watcher.ofPattern .top (site ["work"] "main.rs") (.text "src/*") works 0 (fun _ => true)
      (Lookout.waiting []) = (.done w, s) ∧ w.paths = [⟨.root, ["work", "src", "main.rs"]⟩] ∧
      (w.filter .top).paths = ["/work/src/main.rs"]) ∧
    resolve .top (site ["work"] "main.rs") works (.ofText "src/*") (fun _ => false) =
      .error (.cannotWatch "/work/src/main.rs" unreadableReason) ∧
    resolve .top (site ["work"] "main.rs") works (.ofText "src\x00/*") = .error .nulInPath := by
  have resolved := resolve_site "main.rs" (by decide) (by decide) (by decide) (by decide)
  have proper : (site ["work"] "main.rs").Proper := proper_site (by decide)
  have slashless : Tame (fun name => '/' ∉ name.toList) (site ["work"] "main.rs") :=
    FileTree.tame_lane (by decide)
  have topmost : Path.top.Written := fun _ hm => absurd hm List.not_mem_nil
  have written : works.Written := Path.written_ofText "/work"
  have canonical (pattern : String) :=
    resolve_canonical proper slashless rfl topmost written (Path.written_ofText pattern)
  refine ⟨?_, ?_, ?_⟩
  · exact (canonical "src/*" _).2 _ resolved (.text "src/*") 0 (Lookout.waiting []) rfl
  · exact (canonical "src/*" fun _ => false).1.of_closed (resolve_eq_ok resolved).1
      (Bool.and_false _)
  · refine (canonical "src\x00/*" fun _ => true).1.of_refusal ?_
    have whole : anchored .top works (.ofText "src\x00/*") = ⟨.root, ["work", "src\x00", "*"]⟩ := by
      decide
    have plain : ["work", "src\x00", "*"].takeWhile (fun name => !Glob.isMagic name) =
        ["work", "src\x00"] := by decide
    have untaken : Path.isAskable ⟨.root, ["work", "src\x00"]⟩ = false := by
      simp [Path.isAskable, String.contains_char_eq]
    unfold Glob.refusal
    dsimp only
    rw [whole, plain, if_neg (by decide), if_neg (by decide), untaken]
    rfl

end WatchSet

end Respawn
