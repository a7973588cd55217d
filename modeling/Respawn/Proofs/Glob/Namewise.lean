import Respawn.Proofs.Glob.Whole

/-!
# A pattern, name by name

What a pattern lists of the paths that are there depends on their names alone. A pattern that matches
a path as a whole need not list it: read as a whole, a wildcard runs across slashes and takes the dot
of a hidden name. Where a path has as many names as the pattern there is no slash to run across, and
what is left between the two is the hidden names.

* `mem_expand_iff`: what is there is listed if its names meet those of the pattern one by one;
* `Matches.split`: a match with no slash to spare is parted where the pattern is;
* `suits_of_fits`: a path of as many names that matches as a whole matches name by name;
* `meets_iff`: a name that matches is listed unless it is hidden.
-/

namespace Respawn.Glob

open FileTree (LeadsDown)

/-! ## 1. What is there -/

/-- A name that one name of a pattern lists where it is there. -/
def Meets (pattern name : String) : Prop :=
  if isMagic pattern then listsName pattern name = true else name = pattern

instance (pattern name : String) : Decidable (Meets pattern name) := by
  unfold Meets
  infer_instance

theorem meets_of_plain {pattern name : String} (h : isMagic pattern = false) :
    Meets pattern name ↔ name = pattern := by
  unfold Meets
  rw [h, if_neg Bool.false_ne_true]

theorem meets_of_magic {pattern name : String} (h : isMagic pattern = true) :
    Meets pattern name ↔ listsName pattern name = true := by
  unfold Meets
  rw [if_pos h]

variable {t : FileTree} {p : Path} {pattern names : List String}

theorem Lists.meets (h : Lists t p pattern names) : List.Forall₂ Meets pattern names := by
  induction h with
  | done => exact .nil
  | plain literal _ _ ih => exact .cons ((meets_of_plain literal).2 rfl) ih
  | listed magic _ _ fitting _ _ ih => exact .cons ((meets_of_magic magic).2 fitting) ih

/-- What is there below a path is listed if its names meet those of the pattern. -/
theorem lists_of_meets (h : List.Forall₂ Meets pattern names) (hp : p.isAbsolute = true)
    (down : ∀ name ∈ names, LeadsDown name) (there : t.holds (p.below names) = true) :
    Lists t p pattern names := by
  induction h generalizing p with
  | nil => exact .done
  | @cons pattern name patterns names meets more ih =>
    rw [Path.below_cons] at there
    have held : t.holds (p.child name) = true :=
      FileTree.holds_of_holds_below (p := p.child name) hp there
    have rest := ih (p := p.child name) hp (fun n hn => down n (.tail _ hn)) there
    cases magic : isMagic pattern with
    | false =>
      obtain rfl := (meets_of_plain magic).1 meets
      exact .plain magic held rest
    | true =>
      obtain ⟨entries, opened, entry⟩ :=
        FileTree.mem_names_of_holds_child hp (down name (.head _)) held
      refine .listed magic opened entry ((meets_of_magic magic).1 meets) ?_ rest
      cases more with
      | nil => exact .inl rfl
      | @cons _ next _ names _ _ =>
        rw [Path.below_cons] at there
        have further := FileTree.holds_of_holds_below (p := (p.child name).child next) hp there
        exact .inr (FileTree.isDir_of_holds_child (q := p.child name) hp further)

/-- The plain names at the start of a pattern are met by themselves alone. -/
theorem eq_below_of_meets {start q : Path} (literal : ∀ name ∈ start.parts, isMagic name = false)
    {rest : List String} (anchor : q.anchor = start.anchor)
    (h : List.Forall₂ Meets (start.parts ++ rest) q.parts) :
    ∃ names, q = start.below names ∧ List.Forall₂ Meets rest names := by
  have first := List.forall₂_take start.parts.length h
  have last := List.forall₂_drop start.parts.length h
  rw [List.take_left] at first
  rw [List.drop_left] at last
  have same : start.parts = q.parts.take start.parts.length := by
    rw [← List.forall₂_eq_eq_eq]
    refine List.Forall₂.imp ?_ ((List.forall₂_and_left _ _).2 ⟨literal, first⟩)
    exact fun _ _ h => ((meets_of_plain h.1).1 h.2).symm
  refine ⟨_, ?_, last⟩
  have parts := List.take_append_drop start.parts.length q.parts
  rw [← same] at parts
  cases q
  cases anchor
  unfold Path.below
  rw [parts]

/-- **What is there is listed if its names meet those of the pattern one by one.** -/
theorem mem_expand_iff {pattern q : Path} {found : List Path} (h : expand t pattern = .ok found)
    (hq : q.isAbsolute = true) (down : ∀ name ∈ q.parts, LeadsDown name)
    (there : t.holds q = true) :
    q ∈ found ↔ q.anchor = pattern.anchor ∧ List.Forall₂ Meets pattern.parts q.parts := by
  obtain ⟨start, rest, rfl, literal, head⟩ := exists_start pattern
  rw [mem_expand literal head h]
  constructor
  · rintro ⟨names, listed, rfl, -⟩
    have plain : List.Forall₂ Meets start.parts start.parts :=
      List.forall₂_same.2 fun name hm => (meets_of_plain (literal name hm)).2 rfl
    exact ⟨rfl, List.rel_append plain listed.meets⟩
  · rintro ⟨anchor, meets⟩
    obtain ⟨names, rfl, further⟩ := eq_below_of_meets literal anchor meets
    have later : ∀ name ∈ names, LeadsDown name := fun name hm =>
      down name (List.mem_append_right _ hm)
    refine ⟨names, lists_of_meets further hq later there, rfl, fun none => ?_⟩
    rw [none] at further
    cases further
    rwa [Path.below_nil] at there

/-! ## 2. Slashes -/

/-- A match that is cut where the pattern is. -/
theorem Matches.of_append {ts ts' : List Token} {s : List Char} (h : Matches (ts ++ ts') s) :
    ∃ u v, s = u ++ v ∧ Matches ts u ∧ Matches ts' v := by
  generalize whole : ts ++ ts' = all at h
  induction h generalizing ts with
  | nil =>
    obtain ⟨rfl, rfl⟩ := List.append_eq_nil_iff.1 whole
    exact ⟨[], [], rfl, .nil, .nil⟩
  | @one token c _ s taken more ih =>
    cases ts with
    | nil =>
      cases whole
      exact ⟨[], c :: s, rfl, .nil, .one taken more⟩
    | cons first ts =>
      obtain ⟨rfl, rfl⟩ := List.cons.inj whole
      obtain ⟨u, v, rfl, left, right⟩ := ih rfl
      exact ⟨c :: u, v, rfl, .one taken left, right⟩
  | @skip _ s more ih =>
    cases ts with
    | nil =>
      cases whole
      exact ⟨[], s, rfl, .nil, .skip more⟩
    | cons first ts =>
      obtain ⟨rfl, rfl⟩ := List.cons.inj whole
      obtain ⟨u, v, rfl, left, right⟩ := ih rfl
      exact ⟨u, v, rfl, .skip left, right⟩
  | @more _ c s rest ih =>
    cases ts with
    | nil =>
      cases whole
      exact ⟨[], c :: s, rfl, .nil, .more rest⟩
    | cons first ts =>
      obtain ⟨rfl, rfl⟩ := List.cons.inj whole
      obtain ⟨u, v, rfl, left, right⟩ := @ih (.many :: ts) rfl
      exact ⟨c :: u, v, rfl, .more left, right⟩

/-- Every slash of a pattern takes one of the text. -/
theorem Matches.count_le {ts : List Token} {s : List Char} (h : Matches ts s) :
    ts.count (.literal '/') ≤ s.count '/' := by
  induction h with
  | nil => exact Nat.le_refl _
  | @one token c ts s taken _ ih =>
    rw [List.count_cons, List.count_cons]
    by_cases slash : token = .literal '/'
    · subst slash
      obtain rfl : c = '/' := of_decide_eq_true taken
      simpa using ih
    · rw [if_neg (by simpa using slash)]
      omega
  | skip _ ih => simpa using ih
  | more _ ih => exact Nat.le_trans ih List.count_le_count_cons

/-- **A match with no slash to spare is parted where the pattern is**: the slash of the pattern takes
    the first one of the text, if the further ones are no more than the pattern needs. -/
theorem Matches.split {ts ts' : List Token} {s s' : List Char}
    (h : Matches (ts ++ .literal '/' :: ts') (s ++ '/' :: s')) (whole : '/' ∉ s)
    (needed : s'.count '/' ≤ ts'.count (.literal '/')) : Matches ts s ∧ Matches ts' s' := by
  obtain ⟨u, v, cut, left, right⟩ := h.of_append
  obtain ⟨rest, rfl, further⟩ : ∃ rest, v = '/' :: rest ∧ Matches ts' rest := by
    cases right with
    | @one _ c _ rest taken more =>
      obtain rfl : c = '/' := of_decide_eq_true taken
      exact ⟨rest, rfl, more⟩
  have enough := further.count_le
  rcases List.append_eq_append_iff.1 cut with ⟨more, rfl, after⟩ | ⟨more, rfl, after⟩
  · cases more with
    | nil =>
      obtain ⟨-, rfl⟩ := List.cons.inj after
      exact ⟨List.append_nil s ▸ left, further⟩
    | cons c more =>
      -- the wildcards would have taken a slash that the rest of the pattern needs
      rw [List.cons_append] at after
      rw [(List.cons.inj after).2, List.count_append, List.count_cons_self] at needed
      omega
  · cases more with
    | nil =>
      obtain ⟨-, rfl⟩ := List.cons.inj after
      exact ⟨(List.append_nil u).symm ▸ left, further⟩
    | cons c more =>
      obtain ⟨rfl, -⟩ := List.cons.inj after
      exact absurd (List.mem_append_right _ (.head _)) whole

/-! ## 3. The names of a path that matches as a whole -/

/-- A pattern has a slash between any two of its names. -/
theorem length_le_slashes {name : String} {names : List String}
    (unspanned : Unspanned ("/".intercalate (name :: names)).toList) :
    names.length ≤ (tokens ("/".intercalate (name :: names)).toList).count (.literal '/') := by
  induction names generalizing name with
  | nil => exact Nat.zero_le _
  | cons next names ih =>
    rw [toList_intercalate] at unspanned ⊢
    obtain ⟨parted, later⟩ := tokens_slash unspanned
    have further := ih later
    rw [parted, List.count_append, List.count_cons_self, List.length_cons]
    omega

/-- A path has no slash but those between its names. -/
theorem slashes_eq_length {name : String} {names : List String}
    (whole : ∀ n ∈ name :: names, '/' ∉ n.toList) :
    ("/".intercalate (name :: names)).toList.count '/' = names.length := by
  have none := List.count_eq_zero_of_not_mem (whole name (.head _))
  induction names generalizing name with
  | nil => rwa [String.intercalate_singleton]
  | cons next names ih =>
    have later := fun n hn => whole n (.tail _ hn)
    rw [toList_intercalate, List.count_append, List.count_cons_self, none,
      ih later (List.count_eq_zero_of_not_mem (later next (.head _))), Nat.zero_add]
    rfl

/-- As many names as the pattern has match one by one if they match as they stand in a path. -/
theorem suits_of_matches (same : pattern.length = names.length)
    (whole : ∀ name ∈ names, '/' ∉ name.toList)
    (unspanned : Unspanned ("/".intercalate pattern).toList)
    (h : Matches (tokens ("/".intercalate pattern).toList) ("/".intercalate names).toList) :
    List.Forall₂ Suits pattern names := by
  induction pattern generalizing names with
  | nil =>
    obtain rfl := List.eq_nil_of_length_eq_zero same.symm
    exact .nil
  | cons first pattern ih =>
    cases names with
    | nil => cases same
    | cons name names =>
      have fewer := Nat.succ.inj same
      cases pattern with
      | nil =>
        obtain rfl := List.eq_nil_of_length_eq_zero fewer.symm
        rw [String.intercalate_singleton, String.intercalate_singleton] at h
        exact .cons h .nil
      | cons second pattern =>
        cases names with
        | nil => cases fewer
        | cons next names =>
          rw [toList_intercalate] at unspanned h
          rw [toList_intercalate] at h
          obtain ⟨parted, later⟩ := tokens_slash unspanned
          have rest : ∀ n ∈ next :: names, '/' ∉ n.toList := fun n hn => whole n (.tail _ hn)
          have needed := length_le_slashes later
          rw [← Nat.succ.inj fewer.symm, ← slashes_eq_length rest] at needed
          rw [parted] at h
          obtain ⟨here, further⟩ := h.split (whole name (.head _)) needed
          exact .cons here (ih fewer rest later further)

theorem of_matches_root {b s : List Char} (unspanned : Unspanned ('/' :: b))
    (h : Matches (tokens ('/' :: b)) ('/' :: s)) : Unspanned b ∧ Matches (tokens b) s := by
  obtain ⟨parted, later⟩ := tokens_slash (a := []) unspanned
  rw [List.nil_append] at parted
  rw [parted] at h
  cases h with
  | one _ more => exact ⟨later, more⟩

/-- **A path of as many names that matches as a whole matches name by name.** -/
theorem suits_of_fits {a : Anchor} (same : pattern.length = names.length)
    (whole : ∀ name ∈ names, '/' ∉ name.toList)
    (unspanned : Unspanned (Path.text ⟨a, pattern⟩).toList)
    (h : fits (Path.text ⟨a, pattern⟩) (Path.text ⟨a, names⟩) = true) :
    List.Forall₂ Suits pattern names := by
  have matched := matches_of_accepts h
  cases pattern with
  | nil =>
    obtain rfl := List.eq_nil_of_length_eq_zero same.symm
    exact .nil
  | cons first pattern =>
    have some : names ≠ [] := fun none => by rw [none] at same; cases same
    rw [toList_text a (List.cons_ne_nil _ _)] at unspanned matched
    rw [toList_text a some] at matched
    cases a with
    | relative => exact suits_of_matches same whole unspanned matched
    | root =>
      rw [toList_root] at unspanned matched
      obtain ⟨later, rest⟩ := of_matches_root unspanned matched
      exact suits_of_matches same whole later rest
    | doubleRoot =>
      rw [toList_doubleRoot] at unspanned matched
      obtain ⟨later, rest⟩ := of_matches_root unspanned matched
      obtain ⟨later, rest⟩ := of_matches_root later rest
      exact suits_of_matches same whole later rest

/-- For paths of as many names, the whole and the names say the same. -/
theorem fits_iff_suits {a : Anchor} (same : pattern.length = names.length)
    (whole : ∀ name ∈ names, '/' ∉ name.toList)
    (unspanned : Unspanned (Path.text ⟨a, pattern⟩).toList) :
    fits (Path.text ⟨a, pattern⟩) (Path.text ⟨a, names⟩) = true ↔
      List.Forall₂ Suits pattern names :=
  ⟨suits_of_fits same whole unspanned, fun suits => fits_of_suits suits unspanned⟩

/-! ## 4. Hidden names -/

/-- **A name that matches is listed unless it is hidden** and the name of the pattern is not. -/
theorem meets_iff {pattern name : String} :
    Meets pattern name ↔
      Suits pattern name ∧ (isHidden name = true → isHidden pattern = true) := by
  cases magic : isMagic pattern with
  | false =>
    rw [meets_of_plain magic, suits_plain_iff magic]
    constructor
    · rintro rfl
      exact ⟨rfl, id⟩
    · exact And.left
  | true =>
    rw [meets_of_magic magic]
    unfold listsName fits Suits
    rw [Bool.and_eq_true, accepts_iff, and_comm]
    refine and_congr_right fun _ => ?_
    cases isHidden pattern <;> cases isHidden name <;> simp

/-- A path that keeps to a pattern: it starts where the pattern starts, has as many names, and is
    hidden only where the pattern is. -/
structure KeepsTo (pattern q : Path) : Prop where
  anchor : q.anchor = pattern.anchor
  shown : List.Forall₂ (fun name n => isHidden n = true → isHidden name = true) pattern.parts q.parts

instance (pattern q : Path) : Decidable (KeepsTo pattern q) :=
  decidable_of_iff (q.anchor = pattern.anchor ∧ List.Forall₂ _ pattern.parts q.parts)
    ⟨fun h => ⟨h.1, h.2⟩, fun h => ⟨h.anchor, h.shown⟩⟩

/-- **What matches as a whole and is there is listed if it keeps to the pattern**, unless a bracket
    of the pattern is read across a slash. -/
theorem mem_expand_iff_keepsTo {pattern q : Path} {found : List Path}
    (h : expand t pattern = .ok found) (hq : q.isAbsolute = true)
    (down : ∀ name ∈ q.parts, LeadsDown name) (whole : ∀ name ∈ q.parts, '/' ∉ name.toList)
    (there : t.holds q = true) (unspanned : Unspanned pattern.text.toList)
    (matched : fits pattern.text q.text = true) : q ∈ found ↔ KeepsTo pattern q := by
  rw [mem_expand_iff h hq down there]
  constructor
  · rintro ⟨anchor, meets⟩
    exact ⟨anchor, meets.imp fun _ _ m => (meets_iff.1 m).2⟩
  · rintro ⟨anchor, shown⟩
    refine ⟨anchor, ?_⟩
    obtain ⟨a, names⟩ := q
    subst anchor
    have suits := suits_of_fits shown.length_eq whole unspanned matched
    exact List.Forall₂.mp (fun _ _ s kept => meets_iff.2 ⟨s, kept⟩) suits shown

/-! ## 5. A star at the end -/

/-- A bracket ends before a star at the end of the pattern. -/
theorem bracket?_star {s body rest : List Char} (h : bracket? (s ++ ['*']) = some (body, rest)) :
    ∃ before, rest = before ++ ['*'] := by
  obtain ⟨whole, -⟩ := bracket?_eq_some.1 h
  rcases List.append_eq_append_iff.1 whole with ⟨more, -, last⟩ | ⟨more, -, last⟩
  · cases more with
    | nil => exact absurd (List.cons.inj last).1 (by decide)
    | cons c more => exact absurd (List.cons.inj last).2 (by simp)
  · cases more with
    | nil => exact absurd (List.cons.inj last).1 (by decide)
    | cons c more => exact ⟨more, (List.cons.inj last).2⟩

/-- A star at the end of a pattern is in no bracket. -/
theorem Reads.star {s : List Char} {ts : List Token} {bs : List (List Char)}
    (h : Reads (s ++ ['*']) ts bs) : ∃ before, ts = before ++ [.many] := by
  generalize hs : s ++ ['*'] = whole at h
  induction h generalizing s with
  | nil => exact absurd hs (by simp)
  | many more ih =>
    cases s with
    | nil =>
      obtain ⟨-, rfl⟩ := List.cons.inj hs
      cases more
      exact ⟨[], rfl⟩
    | cons c s =>
      obtain ⟨before, rfl⟩ := ih (List.cons.inj hs).2
      exact ⟨.many :: before, rfl⟩
  | any more ih =>
    cases s with
    | nil => exact absurd (List.cons.inj hs).1 (by decide)
    | cons c s =>
      obtain ⟨before, rfl⟩ := ih (List.cons.inj hs).2
      exact ⟨.any :: before, rfl⟩
  | @bracket _ body rest _ _ closed more ih =>
    cases s with
    | nil => exact absurd (List.cons.inj hs).1 (by decide)
    | cons c s =>
      rw [← (List.cons.inj hs).2] at closed
      obtain ⟨after, rfl⟩ := bracket?_star closed
      obtain ⟨before, rfl⟩ := ih rfl
      exact ⟨_ :: before, rfl⟩
  | unclosed open_ more ih =>
    cases s with
    | nil => exact absurd (List.cons.inj hs).1 (by decide)
    | cons c s =>
      obtain ⟨before, rfl⟩ := ih (List.cons.inj hs).2
      exact ⟨_ :: before, rfl⟩
  | @plain c s' ts bs plain more ih =>
    cases s with
    | nil =>
      obtain ⟨rfl, -⟩ := List.cons.inj hs
      cases plain
    | cons d s =>
      obtain ⟨before, rfl⟩ := ih (List.cons.inj hs).2
      exact ⟨_ :: before, rfl⟩

/-- **A star at the end of a pattern takes all that follows.** -/
theorem fits_append_of_star {pattern path : String} (star : pattern.toList.getLast? = some '*')
    (h : fits pattern path = true) (more : String) : fits pattern (path ++ more) = true := by
  obtain ⟨s, hs⟩ := List.getLast?_eq_some_iff.1 star
  obtain ⟨before, read⟩ : ∃ before, tokens pattern.toList = before ++ [.many] := by
    rw [hs]
    exact (reads_tokens _).star
  have matched := matches_of_accepts h
  rw [read] at matched
  obtain ⟨u, v, cut, left, -⟩ := matched.of_append
  have rest : ∀ s, Matches [.many] s := fun s => by
    induction s with
    | nil => exact .skip .nil
    | cons c s ih => exact .more ih
  refine accepts_of_matches ?_
  rw [read, String.toList_append, cut, List.append_assoc]
  exact left.append (rest _)

/-- A pattern lists paths of as many names as it has. -/
theorem length_of_mem_expand {pattern q : Path} {found : List Path}
    (h : expand t pattern = .ok found) (hq : q ∈ found) :
    q.parts.length = pattern.parts.length := by
  obtain ⟨start, rest, rfl, literal, head⟩ := exists_start pattern
  obtain ⟨names, listed, rfl, -⟩ := (mem_expand literal head h).1 hq
  unfold Path.below
  rw [List.length_append, List.length_append, listed.length_eq]

end Respawn.Glob
