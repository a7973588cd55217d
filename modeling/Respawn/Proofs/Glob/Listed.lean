import Mathlib.Data.List.Induction
import Mathlib.Data.List.Nodup
import Respawn.Proofs.FileTree.Ways
import Respawn.Glob.Listing

/-!
# What a pattern lists, name by name

A pattern that is expanded below a path lists what matches it name by name: a plain name has to be
there, and a name with wildcards stands for those names of the directory that match it.

* `Lists`, `mem_matchesBelow`: the paths that a pattern lists below a path, as a relation;
* `steps_eq`: expanding makes them, each by the names that lead there;
* `nodup_matchesBelow`: each one once, where no directory has a name twice;
* `mem_expand`: what a pattern lists as a whole;
* `expand_below`: a pattern that begins with plain names lists what its other names list below these.
-/

namespace Respawn

/-! ## 1. Below a path -/

namespace FileTree

variable {t : FileTree} {p : Path}

/-- What stands above something that is there is there as well. -/
theorem holds_of_holds_below (hp : p.isAbsolute = true) {names : List String}
    (h : t.holds (p.below names) = true) : t.holds p = true := by
  induction names using List.reverseRecOn with
  | nil => rwa [Path.below_nil] at h
  | append_singleton names name ih =>
    rw [Path.below_concat] at h
    exact ih (holds_of_isDir hp (isDir_of_holds_child (q := p.below names) hp h))

end FileTree

namespace Glob

/-! ## 2. Matches -/

/-- Names that match the names of a pattern one by one below a path: a plain name that is there, and
    for one with wildcards a name of the directory. Only the last one may be no directory. -/
inductive Lists (t : FileTree) : Path → List String → List String → Prop
  | done {p} : Lists t p [] []
  | plain {p name rest names} (literal : isMagic name = false)
      (held : t.holds (p.child name) = true) (more : Lists t (p.child name) rest names) :
      Lists t p (name :: rest) (name :: names)
  | listed {p pattern rest name names entries} (magic : isMagic pattern = true)
      (open_ : t.names p = .ok entries) (entry : name ∈ entries)
      (fitting : listsName pattern name = true)
      (deep : rest = [] ∨ t.isDir (p.child name) = true) (more : Lists t (p.child name) rest names) :
      Lists t p (pattern :: rest) (name :: names)

/-- The names of a directory that a name with wildcards stands for. -/
def choices (t : FileTree) (isLast : Bool) (p : Path) (pattern : String) : List String :=
  match t.names p with
  | .ok entries => entries.filter fun n => listsName pattern n && (isLast || t.isDir (p.child n))
  | .error _ => []

/-- The names that one name of a pattern stands for below a path. -/
def standsFor (t : FileTree) (isLast : Bool) (p : Path) (name : String) : List String :=
  if isMagic name then choices t isLast p name
  else if t.holds (p.child name) then [name] else []

/-- The names that match below a path, continued by the further names of the pattern. -/
def continued (t : FileTree) (p : Path) (found : List (List String)) : List String →
    List (List String)
  | [] => found
  | name :: rest =>
    continued t p (found.flatMap fun names =>
      (standsFor t rest.isEmpty (p.below names) name).map fun n => names ++ [n]) rest

/-- The names that match a pattern below a path. -/
def matchesBelow (t : FileTree) (p : Path) (pattern : List String) : List (List String) :=
  continued t p [[]] pattern

variable {t : FileTree} {p : Path}

/-- One path, and one name of the pattern. -/
theorem step_singleton (isLast : Bool) (q : Path) (name : String) :
    step t isLast [q] name = (standsFor t isLast q name).map q.child := by
  unfold step standsFor choices
  rw [List.flatMap_singleton]
  split
  · cases t.names q <;> rfl
  · split <;> rfl

theorem step_eq (isLast : Bool) (found : List (List String)) (name : String) :
    step t isLast (found.map p.below) name = (found.flatMap fun names =>
      (standsFor t isLast (p.below names) name).map fun n => names ++ [n]).map p.below := by
  induction found with
  | nil => rfl
  | cons names found ih =>
    have first : step t isLast (p.below names :: found.map p.below) name =
        step t isLast [p.below names] name ++ step t isLast (found.map p.below) name := by
      unfold step
      rw [List.flatMap_cons, List.flatMap_singleton]
    have here : (standsFor t isLast (p.below names) name).map (p.below names).child =
        ((standsFor t isLast (p.below names) name).map fun n => names ++ [n]).map p.below := by
      rw [List.map_map]
      exact List.map_congr_left fun n _ => (p.below_concat names n).symm
    rw [List.map_cons, first, ih, step_singleton, here, List.flatMap_cons, List.map_append]

/-- **Expanding a pattern below a path gives the paths of its matches.** -/
theorem steps_eq (found : List (List String)) (pattern : List String) :
    steps t (found.map p.below) pattern = (continued t p found pattern).map p.below := by
  induction pattern generalizing found with
  | nil => rfl
  | cons name rest ih =>
    rw [steps, continued, step_eq]
    exact ih _

/-- Expanding a pattern below one path. -/
theorem steps_matchesBelow (t : FileTree) (p : Path) (pattern : List String) :
    steps t [p] pattern = (matchesBelow t p pattern).map p.below := by
  have start : [p] = [[]].map p.below := by rw [List.map_singleton, Path.below_nil]
  rw [start, steps_eq]
  rfl

theorem mem_standsFor {isLast : Bool} {q : Path} {name n : String} :
    n ∈ standsFor t isLast q name ↔
      (isMagic name = false ∧ t.holds (q.child name) = true ∧ n = name) ∨
        isMagic name = true ∧ ∃ entries, t.names q = .ok entries ∧ n ∈ entries ∧
          listsName name n = true ∧ (isLast = true ∨ t.isDir (q.child n) = true) := by
  unfold standsFor choices
  cases magic : isMagic name with
  | false => by_cases held : t.holds (q.child name) = true <;> simp [held]
  | true =>
    cases found : t.names q with
    | error e => simp
    | ok entries => simp

/-- **What matches below a path.** -/
theorem mem_continued {found : List (List String)} {pattern names : List String} :
    names ∈ continued t p found pattern ↔
      ∃ before ∈ found, ∃ after,
        Lists t (p.below before) pattern after ∧ names = before ++ after := by
  induction pattern generalizing found with
  | nil =>
    constructor
    · exact fun hm => ⟨names, hm, [], .done, (List.append_nil _).symm⟩
    · rintro ⟨before, hm, after, listed, rfl⟩
      cases listed
      rwa [List.append_nil]
  | cons name rest ih =>
    rw [continued, ih]
    constructor
    · rintro ⟨before, hm, after, listed, rfl⟩
      obtain ⟨earlier, he, hm⟩ := List.mem_flatMap.1 hm
      obtain ⟨n, hn, rfl⟩ := List.mem_map.1 hm
      rw [Path.below_concat] at listed
      refine ⟨earlier, he, n :: after, ?_, (List.append_cons ..).symm⟩
      rcases mem_standsFor.1 hn with ⟨literal, held, rfl⟩ | ⟨magic, entries, found, hn, fitting, deep⟩
      · exact .plain literal held listed
      · exact .listed magic found hn fitting (deep.imp List.isEmpty_iff.1 id) listed
    · rintro ⟨before, hm, after, listed, rfl⟩
      cases listed with
      | plain literal held more =>
        refine ⟨before ++ [name], ?_, _, ?_, List.append_cons ..⟩
        · exact List.mem_flatMap.2
            ⟨before, hm, List.mem_map_of_mem (mem_standsFor.2 (.inl ⟨literal, held, rfl⟩))⟩
        · rwa [Path.below_concat]
      | @listed _ _ _ n names entries magic found entry fitting deep more =>
        refine ⟨before ++ [n], ?_, names, ?_, List.append_cons ..⟩
        · refine List.mem_flatMap.2 ⟨before, hm, List.mem_map_of_mem (mem_standsFor.2 (.inr ?_))⟩
          exact ⟨magic, entries, found, entry, fitting, deep.imp List.isEmpty_iff.2 id⟩
        · rwa [Path.below_concat]

theorem mem_matchesBelow {pattern names : List String} :
    names ∈ matchesBelow t p pattern ↔ Lists t p pattern names := by
  unfold matchesBelow
  rw [mem_continued]
  constructor
  · rintro ⟨before, hm, after, listed, rfl⟩
    rw [List.mem_singleton.1 hm, Path.below_nil] at listed
    rwa [List.mem_singleton.1 hm]
  · exact fun listed => ⟨[], List.mem_singleton_self _, names, p.below_nil.symm ▸ listed, rfl⟩

/-- There is a name for every name of the pattern. -/
theorem Lists.length_eq {pattern names : List String} (h : Lists t p pattern names) :
    names.length = pattern.length := by
  induction h with
  | done => rfl
  | plain literal held more ih => rw [List.length_cons, List.length_cons, ih]
  | listed magic found entry fitting deep more ih => rw [List.length_cons, List.length_cons, ih]

variable (ht : t.Proper)
include ht

omit ht in
/-- The names of a directory that was opened are those that stand in the tree. -/
theorem get?_of_names {q : Path} {entries : List String} (found : t.names q = .ok entries) :
    ∃ place table, t.get? place = some (.dir table) ∧ entries = Table.names table := by
  unfold FileTree.names at found
  split at found
  · next table looked =>
    obtain ⟨place, -, dir⟩ := FileTree.lookup_eq_ok.1 looked
    cases found
    exact ⟨place, table, dir, rfl⟩
  · cases found
  · cases found

theorem entries_of_names {q : Path} {entries : List String} (found : t.names q = .ok entries) :
    entries.Nodup ∧ ∀ name ∈ entries, FileTree.LeadsDown name := by
  obtain ⟨place, table, dir, rfl⟩ := get?_of_names found
  exact ⟨ht.distinct place table dir, ht.down place table dir⟩

theorem nodup_standsFor (isLast : Bool) (q : Path) (name : String) :
    (standsFor t isLast q name).Nodup := by
  unfold standsFor choices
  split
  · split
    · next found => exact (entries_of_names ht found).1.filter _
    · exact List.nodup_nil
  · split
    · exact List.nodup_singleton _
    · exact List.nodup_nil

theorem nodup_continued {found : List (List String)} (hf : found.Nodup) (pattern : List String) :
    (continued t p found pattern).Nodup := by
  induction pattern generalizing found with
  | nil => exact hf
  | cons name rest ih =>
    refine ih (List.nodup_flatMap.2 ⟨fun names _ => ?_, ?_⟩)
    · refine (nodup_standsFor ht _ _ _).map fun n n' same => ?_
      exact List.singleton_inj.1 (List.append_inj' same rfl).2
    · refine hf.imp fun differ => List.disjoint_left.2 fun names h h' => differ ?_
      obtain ⟨n, -, rfl⟩ := List.mem_map.1 h
      obtain ⟨n', -, same⟩ := List.mem_map.1 h'
      exact (List.append_inj' same rfl).1.symm

/-- **Every match is listed once.** -/
theorem nodup_matchesBelow (pattern : List String) : (matchesBelow t p pattern).Nodup :=
  nodup_continued ht (List.nodup_singleton _) pattern

omit ht in
/-- What is true of the names of the pattern and of all names in the tree is true of what matches. -/
theorem Lists.tame {held : String → Prop} (ht : FileTree.Tame held t) {pattern names : List String}
    (h : Lists t p pattern names) (hp : ∀ name ∈ pattern, held name) :
    ∀ name ∈ names, held name := by
  induction h with
  | done => exact fun _ hm => absurd hm List.not_mem_nil
  | plain literal there more ih =>
    intro name hm
    rcases List.mem_cons.1 hm with rfl | hm
    · exact hp name List.mem_cons_self
    · exact ih (fun n hn => hp n (List.mem_cons_of_mem _ hn)) name hm
  | listed magic found entry fitting deep more ih =>
    intro name hm
    rcases List.mem_cons.1 hm with rfl | hm
    · obtain ⟨place, table, dir, rfl⟩ := get?_of_names found
      exact ht place table dir name entry
    · exact ih (fun n hn => hp n (List.mem_cons_of_mem _ hn)) name hm

/-- Matches lead down if the names of the pattern do. -/
theorem Lists.down {pattern names : List String} (h : Lists t p pattern names)
    (hp : ∀ name ∈ pattern, FileTree.LeadsDown name) :
    ∀ name ∈ names, FileTree.LeadsDown name := h.tame ht.down hp

omit ht

/-! ## 3. Patterns that begin with plain names -/

theorem steps_nil (pattern : List String) : steps t [] pattern = [] := by
  induction pattern with
  | nil => rfl
  | cons name rest ih => exact ih

/-- Plain names lead to one path if it is there, and otherwise nowhere. -/
theorem steps_plain {plain : List String} (some : plain ≠ [])
    (literal : ∀ name ∈ plain, isMagic name = false) (rest : List String) :
    ∀ {p : Path}, p.isAbsolute = true → steps t [p] (plain ++ rest) =
      steps t (if t.holds (p.below plain) then [p.below plain] else []) rest := by
  induction plain with
  | nil => exact absurd rfl some
  | cons name more ih =>
    intro p hp
    have first : step t (more ++ rest).isEmpty [p] name =
        if t.holds (p.child name) then [p.child name] else [] := by
      rw [step_singleton]
      unfold standsFor
      rw [literal name List.mem_cons_self, if_neg Bool.false_ne_true]
      split <;> rfl
    rw [List.cons_append, steps, first, Path.below_cons]
    by_cases held : t.holds (p.child name) = true
    · rw [if_pos held]
      cases more with
      | nil => rw [Path.below_nil, if_pos held, List.nil_append]
      | cons next more =>
        exact ih (List.cons_ne_nil _ _) (fun n hn => literal n (List.mem_cons_of_mem _ hn)) hp
    · have gone : ¬ t.holds ((p.child name).below more) = true := fun there =>
        held (FileTree.holds_of_holds_below (p := p.child name) hp there)
      rw [if_neg held, if_neg gone, steps_nil, steps_nil]

/-- A name with wildcards lists nothing below a path that is not there. -/
theorem steps_of_not_holds (hp : p.isAbsolute = true) (gone : ¬ t.holds p = true)
    {pattern : String} (magic : isMagic pattern = true) (rest : List String) :
    steps t [p] (pattern :: rest) = [] := by
  have nowhere : step t rest.isEmpty [p] pattern = [] := by
    rw [step_singleton]
    unfold standsFor choices
    rw [if_pos magic]
    cases found : t.names p with
    | error e => rfl
    | ok entries =>
      exact absurd (FileTree.holds_of_isDir hp (FileTree.isDir_of_names found)) gone
  rw [steps, nowhere, steps_nil]

/-- The plain names at the start of a pattern are taken together. -/
theorem expand_eq {start : Path} (literal : ∀ name ∈ start.parts, isMagic name = false)
    {rest : List String} (magic : ∀ name ∈ rest.head?, isMagic name = true) :
    expand t (start.below rest) =
      if rest.isEmpty then .ok (if t.holds start then [start] else [])
      else if !Text.hasBytes start.text.toList then
        .error (.unencodable (Text.unencodable start.text.toList))
      else if !start.isAskable then .error .nulInPath
      else .ok (steps t [start] rest) := by
  have plain : ∀ name ∈ start.parts, (!isMagic name) = true := fun name hm => by
    rw [literal name hm]
    rfl
  have stops : rest.takeWhile (fun name => !isMagic name) = [] ∧
      rest.dropWhile (fun name => !isMagic name) = rest := by
    cases rest with
    | nil => exact ⟨rfl, rfl⟩
    | cons name rest =>
      have head : ¬ (!isMagic name) = true := by
        rw [magic name rfl]
        exact Bool.false_ne_true
      exact ⟨List.takeWhile_cons_of_neg head, List.dropWhile_cons_of_neg head⟩
  have taken : (start.below rest).parts.takeWhile (fun name => !isMagic name) = start.parts := by
    unfold Path.below
    rw [List.takeWhile_append_of_pos plain, stops.1, List.append_nil]
  have dropped : (start.below rest).parts.dropWhile (fun name => !isMagic name) = rest := by
    unfold Path.below
    rw [List.dropWhile_append_of_pos plain, stops.2]
  unfold expand
  rw [taken, dropped]
  rfl

/-- A pattern has plain names up to its first name with wildcards. -/
theorem exists_plain (pattern : List String) : ∃ plain rest, pattern = plain ++ rest ∧
    (∀ name ∈ plain, isMagic name = false) ∧ ∀ name ∈ rest.head?, isMagic name = true := by
  induction pattern with
  | nil => exact ⟨[], [], rfl, nofun, nofun⟩
  | cons name pattern ih =>
    cases magic : isMagic name with
    | true =>
      refine ⟨[], name :: pattern, rfl, nofun, ?_⟩
      rintro _ ⟨⟩
      exact magic
    | false =>
      obtain ⟨plain, rest, rfl, literal, head⟩ := ih
      refine ⟨name :: plain, rest, rfl, ?_, head⟩
      intro other hm
      rcases List.mem_cons.1 hm with rfl | hm
      · exact magic
      · exact literal other hm

theorem exists_start (pattern : Path) : ∃ start rest, pattern = Path.below start rest ∧
    (∀ name ∈ start.parts, isMagic name = false) ∧ ∀ name ∈ rest.head?, isMagic name = true := by
  obtain ⟨plain, rest, parts, literal, head⟩ := exists_plain pattern.parts
  refine ⟨⟨pattern.anchor, plain⟩, rest, ?_, literal, head⟩
  unfold Path.below
  rw [← parts]

/-- **What a pattern lists**: below its plain names what matches its other names, or itself if there
    are no others. -/
theorem mem_expand {start : Path} (literal : ∀ name ∈ start.parts, isMagic name = false)
    {rest : List String} (magic : ∀ name ∈ rest.head?, isMagic name = true) {found : List Path}
    (h : expand t (start.below rest) = .ok found) {q : Path} :
    q ∈ found ↔ ∃ names, Lists t start rest names ∧ q = start.below names ∧
      (rest = [] → t.holds start = true) := by
  rw [expand_eq literal magic] at h
  cases rest with
  | nil =>
    rw [if_pos List.isEmpty_nil] at h
    cases h
    constructor
    · intro hq
      split at hq
      · next held =>
        exact ⟨[], .done, (List.mem_singleton.1 hq).trans (Path.below_nil _).symm, fun _ => held⟩
      · cases hq
    · rintro ⟨names, listed, rfl, held⟩
      cases listed
      rw [if_pos (held rfl), Path.below_nil]
      exact List.mem_singleton_self _
  | cons name rest =>
    rw [if_neg (by simp)] at h
    split at h
    · cases h
    · split at h
      · cases h
      · cases h
        rw [steps_matchesBelow, List.mem_map]
        constructor
        · rintro ⟨names, hm, rfl⟩
          exact ⟨names, mem_matchesBelow.1 hm, rfl, nofun⟩
        · rintro ⟨names, listed, rfl, -⟩
          exact ⟨names, mem_matchesBelow.2 listed, rfl⟩

/-- Whether a pattern can be expanded does not depend on the tree. -/
theorem exists_expand {pattern : Path} {found : List Path} (h : expand t pattern = .ok found)
    (t' : FileTree) : ∃ found', expand t' pattern = .ok found' := by
  unfold expand at h ⊢
  dsimp only at h ⊢
  split at h
  · next last => exact ⟨_, if_pos last⟩
  · next more =>
    split at h
    · cases h
    · next bytes =>
      split at h
      · cases h
      · next askable => exact ⟨_, (if_neg more).trans ((if_neg bytes).trans (if_neg askable))⟩

/-- **A pattern that begins with plain names lists what its other names list below these.** It cannot
    be expanded at all only where nothing matches. -/
theorem expand_below (ht : t.Proper) {base : Path} (hb : base.isAbsolute = true)
    (there : t.holds base = true) (literal : ∀ name ∈ base.parts, isMagic name = false)
    (pattern : List String) :
    expand t (base.below pattern) = .ok (steps t [base] pattern) ∨
      steps t [base] pattern = [] ∧ ∃ f, expand t (base.below pattern) = .error f := by
  obtain ⟨plain, rest, rfl, mild, head⟩ := exists_plain pattern
  have absolute : (base.below plain).isAbsolute = true := hb
  have literals : ∀ name ∈ (base.below plain).parts, isMagic name = false := fun name hm =>
    (List.mem_append.1 hm).elim (literal name) (mild name)
  have led : steps t [base] (plain ++ rest) =
      steps t (if t.holds (base.below plain) then [base.below plain] else []) rest := by
    cases plain with
    | nil => rw [Path.below_nil, if_pos there, List.nil_append]
    | cons name plain => exact steps_plain (List.cons_ne_nil _ _) mild rest hb
  rw [Path.below_append, expand_eq literals head, led]
  cases rest with
  | nil => exact .inl rfl
  | cons pattern rest =>
    rw [if_neg (by simp)]
    by_cases held : t.holds (base.below plain) = true
    · obtain ⟨askable, bytes⟩ := ht.utterable_of_holds absolute held
      rw [bytes, askable, if_pos held]
      exact .inl rfl
    · have nothing := steps_of_not_holds absolute held (head pattern rfl) rest
      rw [if_neg held, steps_nil, nothing]
      split
      · exact .inr ⟨rfl, _, rfl⟩
      · split
        · exact .inr ⟨rfl, _, rfl⟩
        · exact .inl rfl

end Glob

end Respawn
