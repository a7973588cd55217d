import Mathlib.Data.List.Infix
import Mathlib.Data.String.Basic
import Respawn.Proofs.FileTree.Alike
import Respawn.Proofs.Glob.Listed
import Respawn.Watch.WatchSet

/-!
# Patterns that are anchored at a directory

A relative pattern is put behind the text of its base directory, and what comes of it is expanded as
a whole. So the base is part of the pattern: its names are taken as they are only as long as they
hold no wildcard.

* `resolve_eq_ok_iff`: what a watch set that is resolved consists of;
* `resolve_plain`: a pattern without wildcards lists the path that it spells;
* `Alike.matchesBelow_eq`: directories that look alike have the same matches below them;
* `resolve_anchored`: a base without wildcards counts for the place where it stands alone.
-/

namespace Respawn

/-! ## 1. The order of paths below a directory -/

namespace Path

/-- What the text of every path below another one starts with. -/
def stem (p : Path) : String :=
  p.anchor.text ++ if p.parts = [] then "" else "/".intercalate p.parts ++ "/"

theorem text_below {p : Path} (hp : p.isAbsolute = true) {names : List String} (some : names ≠ []) :
    (p.below names).text = p.stem ++ "/".intercalate names := by
  have rooted : p.anchor ≠ .relative := of_decide_eq_true hp
  unfold text stem below
  rw [if_neg fun h => rooted h.1, String.append_assoc]
  by_cases top : p.parts = []
  · rw [if_pos top, top, List.nil_append, String.empty_append]
  · rw [if_neg top, String.intercalate_append_of_ne_nil top some]

end Path

/-- Paths of as many names are in the same order below every directory. -/
theorem Glob.textLe_below {p p' : Path} (hp : p.isAbsolute = true) (hp' : p'.isAbsolute = true)
    {names more : List String} (same : names.length = more.length) :
    textLe (p.below names) (p.below more) = textLe (p'.below names) (p'.below more) := by
  unfold textLe
  by_cases none : names = []
  · have none' : more = [] := List.eq_nil_of_length_eq_zero (by rw [← same, none]; rfl)
    rw [none, none', Text.precedes_refl, Text.precedes_refl]
  · have some : more ≠ [] := fun e => none (List.eq_nil_of_length_eq_zero (by rw [same, e]; rfl))
    rw [Path.text_below hp none, Path.text_below hp some, Path.text_below hp' none,
      Path.text_below hp' some, Text.precedes_append, Text.precedes_append]

/-! ## 2. Matches below directories that look alike -/

namespace FileTree

variable {t t' : FileTree} {p p' : Path}

theorem Alike.standsFor_eq (h : Alike t p t' p') (ht : t.Proper) {names : List String}
    (hn : ∀ n ∈ names, LeadsDown n) {name : String} (down : LeadsDown name) (isLast : Bool) :
    Glob.standsFor t isLast (p.below names) name =
      Glob.standsFor t' isLast (p'.below names) name := by
  have further {n : String} (leads : LeadsDown n) : ∀ m ∈ names ++ [n], LeadsDown m := fun m hm =>
    (List.mem_append.1 hm).elim (hn m) fun hm => List.mem_singleton.1 hm ▸ leads
  have opened := h.names hn
  unfold Glob.standsFor Glob.choices
  split
  · cases found : t.names (p.below names) with
    | error e =>
      rw [found] at opened
      cases found' : t'.names (p'.below names) with
      | error e' => rfl
      | ok entries => rw [found'] at opened; cases opened
    | ok entries =>
      rw [found] at opened
      cases found' : t'.names (p'.below names) with
      | error e' => rw [found'] at opened; cases opened
      | ok entries' =>
        rw [found'] at opened
        cases opened
        refine List.filter_congr fun n hm => ?_
        have leads := (Glob.entries_of_names ht found).2 n hm
        rw [← Path.below_concat, ← Path.below_concat, h.isDir (further leads)]
  · rw [← Path.below_concat, ← Path.below_concat, h.holds (further down)]

theorem Alike.continued_eq (h : Alike t p t' p') (ht : t.Proper) {pattern : List String}
    (hp : ∀ name ∈ pattern, LeadsDown name) : ∀ {found : List (List String)},
      (∀ names ∈ found, ∀ name ∈ names, LeadsDown name) →
        Glob.continued t p found pattern = Glob.continued t' p' found pattern := by
  induction pattern with
  | nil => exact fun _ => rfl
  | cons name rest ih =>
    intro found hf
    have leads := hp name List.mem_cons_self
    have same : (found.flatMap fun names =>
          (Glob.standsFor t rest.isEmpty (p.below names) name).map fun n => names ++ [n]) =
        found.flatMap fun names =>
          (Glob.standsFor t' rest.isEmpty (p'.below names) name).map fun n => names ++ [n] := by
      refine List.flatMap_congr fun names hm => ?_
      rw [h.standsFor_eq ht (hf names hm) leads]
    rw [Glob.continued, Glob.continued, ← same]
    refine ih (fun n hn => hp n (List.mem_cons_of_mem _ hn)) fun names hm => ?_
    obtain ⟨before, hb, hm⟩ := List.mem_flatMap.1 hm
    obtain ⟨n, hn, rfl⟩ := List.mem_map.1 hm
    intro m hm
    rcases List.mem_append.1 hm with hm | hm
    · exact hf before hb m hm
    · rw [List.mem_singleton.1 hm]
      rcases Glob.mem_standsFor.1 hn with ⟨-, -, rfl⟩ | ⟨-, entries, found, entry, -⟩
      · exact leads
      · exact (Glob.entries_of_names ht found).2 n entry

/-- **Directories that look alike have the same matches below them.** -/
theorem Alike.matchesBelow_eq (h : Alike t p t' p') (ht : t.Proper) {pattern : List String}
    (hp : ∀ name ∈ pattern, LeadsDown name) :
    Glob.matchesBelow t p pattern = Glob.matchesBelow t' p' pattern := by
  refine h.continued_eq ht hp fun names hm name hn => ?_
  rw [List.mem_singleton.1 hm] at hn
  exact absurd hn List.not_mem_nil

end FileTree

/-! ## 3. Watch sets -/

namespace WatchSet

section Resolve

variable {cwd base : Path} {t : FileTree} {pattern : Path} {mayRead : Path → Bool}

/-- **Which watch sets are resolved.** -/
theorem resolve_eq_ok_iff {found : List Path} : resolve cwd t base pattern mayRead = .ok found ↔
    Glob.expandSorted t (anchored cwd base pattern) = .ok found ∧ found ≠ [] ∧
      ∀ p ∈ found, readable t mayRead p = true := by
  refine ⟨resolve_eq_ok, ?_⟩
  rintro ⟨expanded, some, read⟩
  unfold resolve
  simp only [expanded]
  cases found with
  | nil => exact absurd rfl some
  | cons p rest =>
    have all : (p :: rest).find? (fun p => !readable t mayRead p) = none := by
      refine List.find?_eq_none.2 fun q hq => ?_
      rw [read q hq]
      exact Bool.false_ne_true
    simp only [all]

/-- A relative pattern is seen from the base, and no name is lost. -/
theorem anchored_below (hb : base.isAbsolute = true) (normal : ".." ∉ base.parts)
    (hp : pattern.isAbsolute = false) (down : ".." ∉ pattern.parts) :
    anchored cwd base pattern = base.below pattern.parts := by
  have seen : base.within pattern = base.below pattern.parts := by
    unfold Path.within Path.below
    rw [hp, if_neg Bool.false_ne_true]
  unfold anchored Path.absolute
  rw [seen, Path.within_of_absolute (p := base.below pattern.parts) hb]
  exact Path.collapse_of_no_dots fun hm => (List.mem_append.1 hm).elim normal down

/-- A pattern without wildcards lists the path that it spells, if that can be read. -/
theorem resolve_plain (absolute : (anchored cwd base pattern).isAbsolute = true)
    (plain : ∀ name ∈ (anchored cwd base pattern).parts, Glob.isMagic name = false)
    (read : readable t mayRead (anchored cwd base pattern) = true) :
    resolve cwd t base pattern mayRead = .ok [anchored cwd base pattern] := by
  have there : t.holds (anchored cwd base pattern) = true := by
    have reached := (Bool.and_eq_true_iff.1 read).1
    unfold FileTree.reaches at reached
    cases found : t.lookup (anchored cwd base pattern) with
    | ok node => exact FileTree.holds_of_lookup absolute found
    | error e =>
      rw [found] at reached
      cases reached
  have expanded : Glob.expand t ((anchored cwd base pattern).below []) =
      .ok [anchored cwd base pattern] := by
    rw [Glob.expand_eq plain (by simp), there]
    rfl
  rw [Path.below_nil] at expanded
  refine resolve_eq_ok_iff.2 ⟨?_, List.cons_ne_nil _ _, ?_⟩
  · unfold Glob.expandSorted
    rw [expanded]
    exact congrArg Except.ok (List.mergeSort_singleton _)
  · intro p hp
    rw [List.mem_singleton.1 hp]
    exact read

end Resolve

/-! ## 4. Bases -/

open FileTree (LeadsDown Alike)
open Glob (Lists matchesBelow textLe)

/-- A path that a pattern can be anchored at: it is absolute and normal, something stands there, and
    no name of it holds a wildcard. -/
structure Ground (t : FileTree) (p : Path) : Prop where
  absolute : p.isAbsolute = true
  down : ∀ name ∈ p.parts, LeadsDown name
  there : t.holds p = true
  literal : ∀ name ∈ p.parts, Glob.isMagic name = false

theorem not_mem_of_leadsDown {names : List String} (h : ∀ name ∈ names, LeadsDown name) :
    ".." ∉ names := fun hm => (h ".." hm).2 rfl

/-- The names of a path that is read lead down, as long as there is no double dot among them. -/
theorem leadsDown_ofText {s : String} (h : ".." ∉ (Path.ofText s).parts) :
    ∀ name ∈ (Path.ofText s).parts, LeadsDown name := fun name hm =>
  ⟨(Path.written_ofText s name hm).1, fun dots => h (dots ▸ hm)⟩

section Ground

variable {t : FileTree} {p pattern : Path} {names : List String}

/-- What is resolved is what matches, in the order of the texts. -/
theorem resolve_ground (ht : t.Proper) (ground : Ground t p)
    (hn : ∀ name ∈ names, LeadsDown name) (hp : pattern.isAbsolute = false)
    (down : ".." ∉ pattern.parts) (cwd : Path) (mayRead : Path → Bool) (found : List Path) :
    resolve cwd t (p.below names) pattern mayRead = .ok found ↔
      found = ((matchesBelow t p (names ++ pattern.parts)).map p.below).mergeSort textLe ∧
        matchesBelow t p (names ++ pattern.parts) ≠ [] ∧
        ∀ m ∈ matchesBelow t p (names ++ pattern.parts),
          readable t mayRead (p.below m) = true := by
  have normal : ".." ∉ (p.below names).parts := fun hm =>
    (List.mem_append.1 hm).elim (not_mem_of_leadsDown ground.down) (not_mem_of_leadsDown hn)
  have full : anchored cwd (p.below names) pattern = p.below (names ++ pattern.parts) := by
    rw [Path.below_append]
    exact anchored_below ground.absolute normal hp down
  have paths := Glob.steps_matchesBelow t p (names ++ pattern.parts)
  rw [resolve_eq_ok_iff, full]
  unfold Glob.expandSorted
  rcases Glob.expand_below ht ground.absolute ground.there ground.literal (names ++ pattern.parts)
    with expanded | ⟨nothing, f, refused⟩
  · rw [expanded, paths]
    constructor
    · rintro ⟨⟨⟩, some, read⟩
      refine ⟨rfl, fun none => some ?_, fun m hm => read _ ?_⟩
      · rw [none]
        exact List.mergeSort_nil
      · exact List.mem_mergeSort.2 (List.mem_map_of_mem hm)
    · rintro ⟨rfl, some, read⟩
      refine ⟨rfl, fun none => some ?_, fun q hq => ?_⟩
      · have empty := congrArg List.length none
        rw [List.length_mergeSort, List.length_map] at empty
        exact List.eq_nil_of_length_eq_zero empty
      · obtain ⟨m, hm, rfl⟩ := List.mem_map.1 (List.mem_mergeSort.1 hq)
        exact read m hm
  · rw [nothing] at paths
    refine iff_of_false (fun h => ?_) fun h => h.2.1 (List.map_eq_nil_iff.1 paths.symm)
    rw [refused] at h
    cases h.1

/-- The order of the matches below a path. -/
theorem mergeSort_below {p' : Path} (hp : p.isAbsolute = true) (hp' : p'.isAbsolute = true)
    (pattern : List String) :
    ((matchesBelow t p pattern).map p'.below).mergeSort textLe =
      ((matchesBelow t p pattern).mergeSort fun m m' => textLe (p.below m) (p.below m')).map
        p'.below := by
  refine (List.map_mergeSort fun m hm m' hm' => ?_).symm
  have length := (Glob.mem_matchesBelow.1 hm).length_eq
  have length' := (Glob.mem_matchesBelow.1 hm').length_eq
  exact Glob.textLe_below hp hp' (length.trans length'.symm)

end Ground

/-- The names below `base` that match a pattern, or the rest `names` of a longer base and then the
    pattern. -/
def Matching (t : FileTree) (base : Path) (names : List String) (pattern : String) :
    List String → Prop := Lists t base (names ++ (Path.ofText pattern).parts)

/-- **A base counts for the place where it stands, as far as its names hold no wildcard.** A watch
    set is resolved exactly if something matches below the base and all of that can be read, and then
    it is made of the matches, each of them once. Bases that look alike, and below which the same may
    be read, have the same watch set below them. From its first name with a wildcard on, the base is
    matched as if it belonged to the pattern. -/
theorem resolve_anchored {t : FileTree} {base : Path} {names : List String} {pattern : String}
    (ht : t.Proper) (ground : Ground t base) (hn : ∀ name ∈ names, LeadsDown name)
    (relative : (Path.ofText pattern).isAbsolute = false)
    (down : ".." ∉ (Path.ofText pattern).parts) (cwd : Path) (mayRead : Path → Bool) :
    ((∃ found, resolve cwd t (base.below names) (.ofText pattern) mayRead = .ok found) ↔
      (∃ m, Matching t base names pattern m) ∧
        ∀ m, Matching t base names pattern m → readable t mayRead (base.below m) = true) ∧
    (∀ found, resolve cwd t (base.below names) (.ofText pattern) mayRead = .ok found →
      found.Nodup ∧ ∀ q, q ∈ found ↔ ∃ m, Matching t base names pattern m ∧ q = base.below m) ∧
    ∀ {t' : FileTree} {base' : Path}, t'.Proper → Ground t' base' → Alike t base t' base' →
      ∀ {mayRead' : Path → Bool}, (∀ m, mayRead' (base'.below m) = mayRead (base.below m)) →
      ∀ (cwd' : Path) (l : List (List String)),
        resolve cwd t (base.below names) (.ofText pattern) mayRead = .ok (l.map base.below) ↔
          resolve cwd' t' (base'.below names) (.ofText pattern) mayRead' =
            .ok (l.map base'.below) := by
  have leads : ∀ name ∈ names ++ (Path.ofText pattern).parts, LeadsDown name := fun name hm =>
    (List.mem_append.1 hm).elim (hn name) (leadsDown_ofText down name)
  have resolved := resolve_ground ht ground hn relative down cwd mayRead
  have listed {m : List String} : m ∈ matchesBelow t base (names ++ (Path.ofText pattern).parts) ↔
      Matching t base names pattern m := Glob.mem_matchesBelow
  refine ⟨?_, fun found hf => ?_, fun {t' base'} ht' ground' alike mayRead' same cwd' l => ?_⟩
  · constructor
    · rintro ⟨found, hf⟩
      obtain ⟨-, some, read⟩ := (resolved found).1 hf
      obtain ⟨m, hm⟩ := List.exists_mem_of_ne_nil _ some
      exact ⟨⟨m, listed.1 hm⟩, fun m hm => read m (listed.2 hm)⟩
    · rintro ⟨⟨m, hm⟩, read⟩
      exact ⟨_, (resolved _).2 ⟨rfl, List.ne_nil_of_mem (listed.2 hm),
        fun m hm => read m (listed.1 hm)⟩⟩
  · obtain ⟨rfl, -, -⟩ := (resolved found).1 hf
    constructor
    · refine (List.mergeSort_perm _ _).nodup_iff.2 ?_
      exact (Glob.nodup_matchesBelow ht _).map fun _ _ => Path.below_inj
    · intro q
      rw [List.mem_mergeSort, List.mem_map]
      constructor
      · rintro ⟨m, hm, rfl⟩
        exact ⟨m, listed.1 hm, rfl⟩
      · rintro ⟨m, hm, rfl⟩
        exact ⟨m, listed.2 hm, rfl⟩
  · have resolved' := resolve_ground ht' ground' hn relative down cwd' mayRead'
    have below {base : Path} : Function.Injective base.below := fun _ _ => Path.below_inj
    rw [resolved, resolved', ← alike.matchesBelow_eq ht leads,
      mergeSort_below ground.absolute ground.absolute,
      mergeSort_below ground.absolute ground'.absolute,
      (List.map_injective_iff.2 below).eq_iff, (List.map_injective_iff.2 below).eq_iff]
    refine and_congr_right fun _ => and_congr_right fun _ => forall₂_congr fun m hm => ?_
    unfold readable
    rw [alike.reaches ((listed.1 hm).down ht leads), same]

/-! ## 5. One directory in three places -/

section Places

open FileTree (lane proper_lane stands_lane Stands)

/-- A tree in which one source stands below a directory. -/
def site (base : List String) (source : String) : FileTree := ⟨lane (base ++ ["src", source])⟩

/-- The names in the sites. -/
def siteNames : List String := ["work", "old", "annex", "a[b]", "src", "main.rs", "new.rs"]

theorem siteNames_down : ∀ name ∈ siteNames, LeadsDown name := by decide

theorem siteNames_utterable : ∀ name ∈ siteNames, FileTree.Utterable name := by decide

theorem proper_site {base : List String} {source : String}
    (h : ∀ name ∈ base ++ ["src", source], name ∈ siteNames) : (site base source).Proper :=
  proper_lane (fun name hm => siteNames_down name (h name hm)) fun name hm =>
    siteNames_utterable name (h name hm)

/-- A base in a site: nothing else stands there, and no name on the way is too long. -/
theorem stands_site (base names : List String) (source : String)
    (down : ∀ name ∈ base, LeadsDown name)
    (short : ∀ place ∈ (names ++ ["src", source]).inits,
      FileTree.Reachable (Path.below ⟨.root, base⟩ place)) :
    Stands (site (base ++ names) source) ⟨.root, base⟩ (lane (names ++ ["src", source])) := by
  unfold site
  rw [List.append_assoc]
  exact stands_lane (p := ⟨.root, base⟩) rfl down fun place hp =>
    short place ((List.mem_inits _ _).2 hp)

/-- A directory of a site has one entry. -/
theorem names_of_stands {t : FileTree} {p : Path} {name : String} {names rest : List String}
    (h : Stands t p (lane names)) (before : List String) (down : ∀ n ∈ before, LeadsDown n)
    (split : names = before ++ name :: rest) : t.names (p.below before) = .ok [name] := by
  have looked := (h.look _ down).1
  rw [split, FileTree.get?_lane_append] at looked
  unfold FileTree.names
  cases found : t.lookup (p.below before) with
  | error e =>
    rw [found] at looked
    cases looked
  | ok n =>
    rw [found] at looked
    cases looked
    rfl

section Base

variable {t : FileTree} {base : List String} {source : String}
  (h : Stands t ⟨.root, base⟩ (lane ["src", source]))
include h

theorem ground_of_stands (literal : ∀ name ∈ base, Glob.isMagic name = false) :
    Ground t ⟨.root, base⟩ where
  absolute := rfl
  down := h.down
  there := by
    have look := (h.look [] nofun).2
    rwa [Path.below_nil] at look
  literal := literal

/-- The one source, as it is seen from the base. -/
theorem matchesBelow_of_stands (shown : Glob.listsName "*" source = true) :
    matchesBelow t ⟨.root, base⟩ ["src", "*"] = [["src", source]] := by
  have held := (h.look ["src"] (by decide)).2
  have opened := names_of_stands h ["src"] (by decide) rfl
  have first : Glob.standsFor t false ⟨.root, base⟩ "src" = ["src"] := by
    unfold Glob.standsFor
    rw [if_neg (by decide)]
    exact if_pos held
  have second : Glob.standsFor t true (Path.below ⟨.root, base⟩ ["src"]) "*" = [source] := by
    unfold Glob.standsFor Glob.choices
    rw [if_pos (by decide), opened]
    simp [shown]
  simp [matchesBelow, Glob.continued, first, second]

theorem resolve_of_stands (ht : t.Proper) (literal : ∀ name ∈ base, Glob.isMagic name = false)
    (shown : Glob.listsName "*" source = true) (down : ∀ name ∈ ["src", source], LeadsDown name) :
    resolve .top t ⟨.root, base⟩ (.ofText "src/*") =
      .ok ([["src", source]].map (Path.below ⟨.root, base⟩)) := by
  have parts : (Path.ofText "src/*").parts = ["src", "*"] := by decide
  have found := @resolve_ground _ _ (.ofText "src/*") [] ht (ground_of_stands h literal) nofun rfl
    (by decide) .top (fun _ => true) ([["src", source]].map (Path.below ⟨.root, base⟩))
  rw [Path.below_nil, parts, List.nil_append, matchesBelow_of_stands h shown] at found
  refine found.2 ⟨(List.mergeSort_singleton _).symm, List.cons_ne_nil _ _, fun m hm => ?_⟩
  have looked := (h.look _ down).1
  have there : (lane ["src", source]).get? (["src", source] ++ []) = some (lane []) :=
    FileTree.get?_lane_append ["src", source] []
  rw [List.append_nil] at there
  rw [List.mem_singleton.1 hm]
  unfold readable FileTree.reaches
  rw [looked, there]
  rfl

end Base

/-- What is resolved at one base is resolved at another one, but not if it is there and must not be
    read, and a bracket in the base's name leads the pattern astray. -/
theorem resolve_anchored_sites :
    resolve .top (site ["work"] "main.rs") ⟨.root, ["work"]⟩ (.ofText "src/*") =
        .ok [⟨.root, ["work", "src", "main.rs"]⟩] ∧
      (¬ ∃ found, resolve .top (site ["work"] "main.rs") ⟨.root, ["work"]⟩ (.ofText "src/*")
        (fun _ => false) = .ok found) ∧
      resolve .top (site ["old", "annex"] "main.rs") ⟨.root, ["old", "annex"]⟩ (.ofText "src/*") =
        .ok [⟨.root, ["old", "annex", "src", "main.rs"]⟩] ∧
      ¬ ∃ found, resolve .top (site ["a[b]"] "main.rs") ⟨.root, ["a[b]"]⟩ (.ofText "src/*") =
        .ok found := by
  have here := stands_site ["work"] [] "main.rs" (by decide) (by decide)
  have there := stands_site ["old", "annex"] [] "main.rs" (by decide) (by decide)
  have proper : (site ["work"] "main.rs").Proper := proper_site (by decide)
  have proper' : (site ["old", "annex"] "main.rs").Proper := proper_site (by decide)
  have resolved := resolve_of_stands here proper (by decide) (by decide) (by decide)
  have ground := ground_of_stands here (by decide)
  have ground' := ground_of_stands there (by decide)
  have alike := Alike.of_same here there
  refine ⟨resolved, ?_, ?_, ?_⟩
  · have anchored := @resolve_anchored _ _ [] "src/*" proper ground nofun rfl (by decide) .top
      fun _ => false
    intro found
    obtain ⟨⟨m, matching⟩, read⟩ := anchored.1.1 found
    exact absurd (Bool.and_eq_true_iff.1 (read m matching)).2 Bool.false_ne_true
  · have anchored := @resolve_anchored _ _ [] "src/*" proper ground nofun rfl (by decide) .top
      fun _ => true
    exact (anchored.2.2 proper' ground' alike (fun _ => rfl) .top [["src", "main.rs"]]).1 resolved
  · have bracketed : (site ["a[b]"] "main.rs").Proper := proper_site (by decide)
    have top := stands_site [] ["a[b]"] "main.rs" nofun (by decide)
    have root : Ground (site ["a[b]"] "main.rs") .top :=
      ⟨rfl, nofun, Path.below_nil .top ▸ (top.look [] nofun).2, nofun⟩
    have anchored := @resolve_anchored _ _ ["a[b]"] "src/*" bracketed root (by decide) rfl
      (by decide) .top fun _ => true
    intro resolved
    obtain ⟨⟨m, matching⟩, -⟩ := anchored.1.1 resolved
    cases matching with
    | plain literal _ _ => exact absurd literal (by decide)
    | @listed _ _ _ name _ entries _ opened entry fitting _ _ =>
      have only := names_of_stands top [] nofun rfl
      rw [Path.below_nil] at only
      cases opened.symm.trans only
      rw [List.mem_singleton.1 entry] at fitting
      exact absurd fitting (by decide +kernel)

end Places

end WatchSet

end Respawn
