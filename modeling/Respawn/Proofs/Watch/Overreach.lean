import Respawn.Proofs.Glob.Namewise
import Respawn.Proofs.Watch.Acceptance

/-!
# What a watcher accepts and its pattern does not list

The pattern of a watcher is matched against a path as a whole, while it lists what is there name by
name. So the watcher accepts more than the pattern comes to list: whatever lies further down, and what
is hidden.

* `denotes_leadsDown`, `denotes_whole`: the names of a path that an event is about;
* `accepted_listed_iff`: what is accepted beside the watch set is listed if it keeps to the pattern,
  and otherwise not;
* `below_listed_isWatched`: where a pattern ends in a star, everything below what it lists is
  accepted.
-/

namespace Respawn.Watch

open FileTree (LeadsDown)
open WatchSet (anchored)

variable {T O σ : Type} [Log.Logbook σ]

/-! ## 1. The paths of events -/

section Spellings

variable {cwd : Path} (hc : cwd.isAbsolute = true) (written : cwd.Written) (e : Spelling)
include written

theorem denotes_written : (e.denotes cwd).Written := written.absolute (Path.written_ofText _)

theorem denotes_whole : ∀ name ∈ (e.denotes cwd).parts, '/' ∉ name.toList := fun name hm =>
  (denotes_written written e name hm).2

include hc

theorem denotes_leadsDown : ∀ name ∈ (e.denotes cwd).parts, LeadsDown name := fun name hm =>
  ⟨(denotes_written written e name hm).1, fun dots =>
    Path.no_dots_collapse (Path.within_isAbsolute hc _) (dots ▸ hm)⟩

end Spellings

/-! ## 2. Beside the watch set -/

/-- **What is accepted beside the watch set is listed if it keeps to the pattern, and otherwise not.**
    A pattern that a watcher was made for can be expanded in any tree. It lists there, of what is
    there, the paths whose names meet its own one by one. As long as no bracket of it is read across
    a slash:

    * of what is there and accepted, though it was not in the watch set, it lists the paths that
      start where it starts, have as many names, and are hidden only where it is. So a file further
      down, or a hidden one, is accepted and not listed;
    * of the paths that start where it starts and have as many names, what is accepted beside the
      watch set are those whose names match, be they hidden or not. -/
theorem accepted_listed_iff {cwd base spelled full : Path} {t : FileTree} {pattern : Value}
    {debounce : T} {mayRead : Path → Bool} {s s' : σ} {w : Watcher T O}
    (hc : cwd.isAbsolute = true) (written : cwd.Written) (read : Settings.toPath pattern = .ok spelled)
    (whole : anchored cwd base spelled = full)
    (made : Watcher.ofPattern cwd t pattern base debounce mayRead s = (.done w, s'))
    (t' : FileTree) :
    ∃ found, Glob.expandSorted t' full = .ok found ∧
      ∀ (e : Spelling) (q : Path), e.denotes cwd = q →
        (t'.holds q = true →
          (q ∈ found ↔ q.anchor = full.anchor ∧ List.Forall₂ Glob.Meets full.parts q.parts)) ∧
        (Glob.Unspanned full.text.toList →
          (t'.holds q = true → q.text ∉ (w.filter cwd).paths →
            (w.filter cwd).isWatched q.text = true → (q ∈ found ↔ Glob.KeepsTo full q)) ∧
          (q.anchor = full.anchor → full.parts.length = q.parts.length →
            ((w.filter cwd).isWatched q.text = true ↔
              q.text ∈ (w.filter cwd).paths ∨ List.Forall₂ Glob.Suits full.parts q.parts))) := by
  subst whole
  obtain ⟨spelled', first, read', resolved, -, matching⟩ :=
    (Watcher.ofPattern_ends cwd t pattern base debounce mayRead s).result made w rfl
  cases read.symm.trans read'
  obtain ⟨before, expanded, -⟩ := map_eq_ok.1 (WatchSet.resolve_eq_ok resolved).1
  obtain ⟨found, now⟩ := Glob.exists_expand expanded t'
  have some := text_ne_empty (WatchSet.anchored_isAbsolute hc base spelled)
  have accepts (path : String) : (w.filter cwd).isWatched path = true ↔
      path ∈ (w.filter cwd).paths ∨ Glob.fits (anchored cwd base spelled).text path = true :=
    Watcher.isWatched_iff matching some
  refine ⟨found.mergeSort Glob.textLe, ?_, ?_⟩
  · unfold Glob.expandSorted
    rw [now]
    rfl
  · rintro e q rfl
    have absolute : (e.denotes cwd).isAbsolute = true := Path.absolute_isAbsolute hc _
    have down := denotes_leadsDown hc written e
    have slashless := denotes_whole written e
    rw [List.mem_mergeSort]
    refine ⟨Glob.mem_expand_iff now absolute down, fun unspanned => ⟨?_, ?_⟩⟩
    · intro there beside watched
      have matched := ((accepts _).1 watched).resolve_left beside
      exact Glob.mem_expand_iff_keepsTo now absolute down slashless there unspanned matched
    · intro anchor same
      rw [accepts]
      refine or_congr_right ?_
      generalize e.denotes cwd = q at anchor same slashless ⊢
      obtain ⟨a, names⟩ := q
      subst anchor
      exact Glob.fits_iff_suits same slashless unspanned

/-! ## 3. Two sources that are not listed -/

section Sources

open WatchSet (site)
open FileTree (lane)

/-- What an editor writes beside a source, and a source one directory further down. -/
def swapFile : Path := ⟨.root, ["work", "src", ".main.rs.swp"]⟩

def deepSource : Path := ⟨.root, ["work", "src", "deep", "new.rs"]⟩

/-- Where it is there, each of them is reported and not listed. -/
theorem accepted_listed_iff_swap : ∃ (w : Watcher Nat Nat) (s : Lookout),
    Watcher.ofPattern .top (site ["work"] "main.rs") (.text "src/*") works 0 (fun _ => true)
      (Lookout.waiting []) = (.done w, s) ∧
    ∀ q ∈ [swapFile, deepSource], FileTree.holds ⟨lane q.parts⟩ q = true ∧
      (w.filter .top).report .top ⟨.modified, .text q.text, none⟩ = some q.text ∧
      ∃ found, Glob.expandSorted ⟨lane q.parts⟩ (anchored .top works (.ofText "src/*")) =
        .ok found ∧ q ∉ found := by
  have before := resolve_site "main.rs" (by decide) (by decide) (by decide) (by decide)
  have read : Settings.toPath (.text "src/*") = .ok (.ofText "src/*") := rfl
  obtain ⟨w, s, made, watched⟩ : ∃ (w : Watcher Nat Nat) (s : Lookout),
      Watcher.ofPattern .top (site ["work"] "main.rs") (.text "src/*") works 0 (fun _ => true)
        (Lookout.waiting []) = (.done w, s) ∧
      ∀ q ∈ [swapFile, deepSource], q.text ∉ (w.filter .top).paths ∧
        (w.filter .top).isWatched q.text = true := by
    refine ⟨_, _, Watcher.ofPattern_of_resolve read before, ?_⟩
    decide +kernel
  have ways : ∀ q ∈ [swapFile, deepSource], q.isAbsolute = true ∧
      (∀ name ∈ q.parts, LeadsDown name) ∧ FileTree.Reachable q := by decide
  have strays : ∀ q ∈ [swapFile, deepSource], (Spelling.text q.text).denotes .top = q ∧
      ¬ Glob.KeepsTo (anchored .top works (.ofText "src/*")) q := by decide +kernel
  have topmost : Path.top.Written := fun _ hm => absurd hm List.not_mem_nil
  refine ⟨w, s, made, fun q hq => ?_⟩
  obtain ⟨absolute, down, short⟩ := ways q hq
  obtain ⟨beside, accepted⟩ := watched q hq
  obtain ⟨spelled, stray⟩ := strays q hq
  have there := FileTree.holds_lane absolute down short
  refine ⟨there, ?_, ?_⟩
  · have source : (Event.mk .modified (.text q.text) none).source.denotes .top = q := spelled
    have reported :=
      @Filter.report_eq_source ⟨.modified, .text q.text, none⟩ (w.filter .top) .top rfl
    rw [source] at reported
    exact reported accepted
  · obtain ⟨found, expanded, listed⟩ :=
      accepted_listed_iff rfl topmost read rfl made ⟨lane q.parts⟩
    obtain ⟨kept, -⟩ := (listed (.text q.text) q spelled).2 (by decide)
    exact ⟨found, expanded, fun hm => stray ((kept there beside accepted).1 hm)⟩

end Sources

/-! ## 4. Below what is listed -/

/-- **Where a pattern ends in a star, whatever lies below what it lists is accepted**, though no tree
    has it listed. -/
theorem below_listed_isWatched {cwd base spelled full q : Path} {t t' : FileTree} {pattern : Value}
    {debounce : T} {mayRead : Path → Bool} {s s' : σ} {w : Watcher T O} {found : List Path}
    (hc : cwd.isAbsolute = true)
    (read : Settings.toPath pattern = .ok spelled) (whole : anchored cwd base spelled = full)
    (made : Watcher.ofPattern cwd t pattern base debounce mayRead s = (.done w, s'))
    (unspanned : Glob.Unspanned full.text.toList) (star : full.text.toList.getLast? = some '*')
    (expanded : Glob.expandSorted t' full = .ok found) (hq : q ∈ found) {names : List String}
    (deeper : names ≠ []) :
    (w.filter cwd).isWatched (q.below names).text = true ∧
      ∀ t' found, Glob.expandSorted t' full = .ok found → q.below names ∉ found := by
  subst whole
  obtain ⟨spelled', first, read', -, -, matching⟩ :=
    (Watcher.ofPattern_ends cwd t pattern base debounce mayRead s).result made w rfl
  cases read.symm.trans read'
  obtain ⟨unsorted, lists, rfl⟩ := map_eq_ok.1 expanded
  rw [List.mem_mergeSort] at hq
  have absolute := WatchSet.anchored_isAbsolute hc base spelled
  constructor
  · have rooted : q.isAbsolute = true := by
      unfold Path.isAbsolute at absolute ⊢
      rwa [Glob.expand_anchor lists q hq]
    obtain ⟨more, text⟩ := FileTree.exists_text_below rooted names
    rw [Watcher.isWatched_iff matching (text_ne_empty absolute), text]
    exact .inr (Glob.fits_append_of_star star (Glob.fits_of_listed lists unspanned q hq) more)
  · rintro t' found again hm
    obtain ⟨unsorted', lists', rfl⟩ := map_eq_ok.1 again
    have longer := Glob.length_of_mem_expand lists' (List.mem_mergeSort.1 hm)
    have same := Glob.length_of_mem_expand lists hq
    unfold Path.below at longer
    rw [List.length_append] at longer
    have some := List.length_pos_iff.2 deeper
    omega

end Respawn.Watch
