import Respawn.Proofs.Actions
import Respawn.Proofs.Glob.Whole
import Respawn.Proofs.Watch.Anchoring
import Respawn.Proofs.Watch.Lookout

/-!
# What a watcher accepts

A watcher for a pattern watches the paths that the pattern listed when it was made, and besides every
path that matches the pattern as a whole. So it does not miss what the pattern comes to list later.

* `ofPattern_ends`: what a watcher for a pattern consists of;
* `isWatched_of_mem`: the watch set is watched;
* `listed_isWatched`: so is whatever the pattern lists, in any tree.
-/

namespace Respawn.Watch

open Respawn.Action (Ends)
open WatchSet (anchored resolve)

variable {T O σ : Type} [Log.Logbook σ]

namespace Watcher

/-! ## 1. The watcher for a pattern -/

/-- What a watcher for a pattern is made of. -/
theorem ofPattern_ends (cwd : Path) (t : FileTree) (pattern : Value) (base : Path) (debounce : T)
    (mayRead : Path → Bool) (s : σ) :
    Ends (ofPattern cwd t pattern base debounce mayRead : Action σ (Watcher T O)) s fun o _ =>
      ∀ w, o = .done w → ∃ spelled found, Settings.toPath pattern = .ok spelled ∧
        resolve cwd t base spelled mayRead = .ok found ∧ w.paths = found.map cwd.absolute ∧
        w.pattern = some (anchored cwd base spelled).text := by
  unfold ofPattern
  cases read : Settings.toPath pattern with
  | error f => exact fun _ => nofun
  | ok spelled =>
    refine Ends.of_ok ?_
    cases resolved : resolve cwd t base spelled mayRead with
    | error f => exact fun _ => nofun
    | ok found =>
      refine Ends.of_ok (Ends.of_modify ?_)
      rintro w made
      cases found with
      | nil => exact absurd rfl (WatchSet.resolve_ne_nil resolved)
      | cons p rest =>
        cases made
        exact ⟨spelled, p :: rest, rfl, resolved, rfl, rfl⟩

theorem ofPattern_of_resolve {cwd base spelled p : Path} {rest : List Path} {t : FileTree}
    {pattern : Value} {debounce : T} {mayRead : Path → Bool} {s : σ}
    (read : Settings.toPath pattern = .ok spelled)
    (resolved : resolve cwd t base spelled mayRead = .ok (p :: rest)) :
    (ofPattern cwd t pattern base debounce mayRead : Action σ (Watcher T O)) s =
      (.done ⟨(p :: rest).map cwd.absolute, some (anchored cwd base spelled).text, debounce, none, 0⟩,
        Log.Logbook.note (resolvedRecord (p :: rest).length pattern.shown base) s) := by
  simp [ofPattern, read, resolved, ofPaths, Action.after, Action.ofExcept, Action.answer]

/-! ## 2. What is watched -/

omit [Log.Logbook σ]

variable {cwd : Path} {w : Watcher T O}

theorem isWatched_of_mem {p : Path} (h : p ∈ w.paths) (whole : cwd.absolute p = p) :
    (w.filter cwd).isWatched p.text = true := by
  have listed : p.text ∈ (w.filter cwd).paths := by
    refine List.mem_eraseDups.2 (List.mem_map.2 ⟨p, h, ?_⟩)
    rw [whole]
  unfold Filter.isWatched
  rw [List.contains_iff_mem.2 listed]
  rfl

/-- **What a watcher with a pattern accepts**: its watch set, and what matches the pattern as a
    whole. -/
theorem isWatched_iff {pattern path : String} (h : w.pattern = some pattern) (some : pattern ≠ "") :
    (w.filter cwd).isWatched path = true ↔
      path ∈ (w.filter cwd).paths ∨ Glob.fits pattern path = true := by
  have same : (w.filter cwd).pattern = w.pattern := rfl
  unfold Filter.isWatched Filter.matchesPattern
  rw [same, h, Bool.or_eq_true_iff, List.contains_iff_mem]
  simp [some]

end Watcher

theorem absolute_absolute {cwd : Path} (hc : cwd.isAbsolute = true) (p : Path) :
    cwd.absolute (cwd.absolute p) = cwd.absolute p := by
  have within := Path.within_isAbsolute hc p
  have absolute : (cwd.absolute p).isAbsolute = true := within
  unfold Path.absolute at absolute ⊢
  rw [Path.within_of_absolute absolute, Path.collapse_collapse within]

theorem text_ne_empty {p : Path} (hp : p.isAbsolute = true) : p.text ≠ "" := by
  have rooted : p.anchor ≠ .relative := of_decide_eq_true hp
  intro empty
  unfold Path.text at empty
  rw [if_neg fun h => rooted h.1, String.append_eq_empty_iff] at empty
  cases ha : p.anchor <;> rw [ha] at empty rooted
  · exact rooted rfl
  · exact absurd empty.1 (by decide)
  · exact absurd empty.1 (by decide)

/-- **What a pattern comes to list is accepted.** A watcher that was made for a pattern accepts every
    path of its watch set. Unless a bracket of the whole pattern is read across a slash, it accepts
    whatever the pattern lists in any tree, and reports every change of it. -/
theorem listed_isWatched {cwd base spelled : Path} {t : FileTree} {pattern : Value} {debounce : T}
    {mayRead : Path → Bool} {s s' : σ} {w : Watcher T O} (hc : cwd.isAbsolute = true)
    (read : Settings.toPath pattern = .ok spelled)
    (made : Watcher.ofPattern cwd t pattern base debounce mayRead s = (.done w, s')) :
    (∀ p ∈ w.paths, (w.filter cwd).isWatched p.text = true) ∧
      (Glob.Unspanned (anchored cwd base spelled).text.toList → ∀ t' found,
        Glob.expandSorted t' (anchored cwd base spelled) = .ok found → ∀ q ∈ found,
          (w.filter cwd).isWatched q.text = true ∧
          ∀ e : Event, e.kind.isChange = true → e.source.denotes cwd = q →
            (w.filter cwd).report cwd e = some q.text) := by
  obtain ⟨spelled', first, read', resolved, paths, pattern⟩ :=
    (Watcher.ofPattern_ends cwd t pattern base debounce mayRead s).result made w rfl
  cases read.symm.trans read'
  constructor
  · intro p hp
    refine Watcher.isWatched_of_mem hp ?_
    rw [paths] at hp
    obtain ⟨q, -, rfl⟩ := List.mem_map.1 hp
    exact absolute_absolute hc q
  · intro unspanned t' found expanded q hq
    obtain ⟨unsorted, lists, rfl⟩ := map_eq_ok.1 expanded
    have fits := Glob.fits_of_listed lists unspanned q (List.mem_mergeSort.1 hq)
    have some := text_ne_empty (WatchSet.anchored_isAbsolute hc base spelled)
    have watched : (w.filter cwd).isWatched q.text = true :=
      (Watcher.isWatched_iff pattern some).2 (.inr fits)
    refine ⟨watched, fun e change denotes => ?_⟩
    rw [← denotes] at watched ⊢
    exact Filter.report_eq_source change watched

/-! ## 3. A new source -/

section Sources

open WatchSet (site stands_site proper_site resolve_of_stands)

/-- The directory of the sources, and a new source in it. -/
def works : Path := ⟨.root, ["work"]⟩

def newSource : Path := ⟨.root, ["work", "src", "new.rs"]⟩

theorem resolve_site (source : String)
    (named : ∀ name ∈ ["work", "src", source], name ∈ WatchSet.siteNames)
    (short : ∀ place ∈ ["src", source].inits, FileTree.Reachable (works.below place))
    (shown : Glob.listsName "*" source = true)
    (down : ∀ name ∈ ["src", source], FileTree.LeadsDown name) :
    resolve .top (site ["work"] source) works (.ofText "src/*") =
      .ok [⟨.root, ["work", "src", source]⟩] :=
  resolve_of_stands (stands_site ["work"] [] source (by decide) short) (proper_site named)
    (by decide) shown down

/-- A source that was not there when the watcher was made is listed now, and is accepted. -/
theorem listed_isWatched_new : ∃ (w : Watcher Nat Nat) (s : Lookout),
    Watcher.ofPattern .top (site ["work"] "main.rs") (.text "src/*") works 0 (fun _ => true)
      (Lookout.waiting []) = (.done w, s) ∧ newSource ∉ w.paths ∧
      Glob.expandSorted (site ["work"] "new.rs") (anchored .top works (.ofText "src/*")) =
        .ok [newSource] ∧
      (w.filter .top).isWatched newSource.text = true := by
  have before := resolve_site "main.rs" (by decide) (by decide) (by decide) (by decide)
  have after := resolve_site "new.rs" (by decide) (by decide) (by decide) (by decide)
  obtain ⟨expanded, -, -⟩ := WatchSet.resolve_eq_ok after
  have read : Settings.toPath (.text "src/*") = .ok (.ofText "src/*") := rfl
  obtain ⟨w, s, made, unlisted⟩ : ∃ (w : Watcher Nat Nat) (s : Lookout),
      Watcher.ofPattern .top (site ["work"] "main.rs") (.text "src/*") works 0 (fun _ => true)
        (Lookout.waiting []) = (.done w, s) ∧ newSource ∉ w.paths := by
    refine ⟨_, _, Watcher.ofPattern_of_resolve read before, ?_⟩
    decide
  have accepted := (listed_isWatched rfl read made).2 (by decide +kernel) _ _ expanded newSource
    (List.mem_singleton_self _)
  exact ⟨w, s, made, unlisted, expanded, accepted.1⟩

end Sources

end Respawn.Watch
