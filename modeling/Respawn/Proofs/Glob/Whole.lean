import Respawn.Proofs.Glob.Listed

/-!
# A pattern as a whole

A pattern lists paths name by name, and it is also matched against the text of a path as a whole. The
two agree in one direction: what is listed also matches as a whole, unless a bracket of the whole
pattern is read across a slash.

* `bracket?_eq_some`: what a bracket is;
* `Reads`, `reads_tokens`: how a pattern is read, with the bodies of its brackets;
* `Reads.split`: without a bracket across it, a slash parts a pattern;
* `fits_of_listed`: what a pattern lists, it matches as a whole.
-/

namespace Respawn.Glob

/-! ## 1. Brackets -/

/-- The body of a bracket: after an exclamation mark at the start, if there is one, at least one
    character, and only the first of these can be a closing bracket. -/
inductive IsBody : List Char → Prop
  | plain {c tail} (positive : c ≠ '!') (closed : ']' ∉ tail) : IsBody (c :: tail)
  | negated {c tail} (closed : ']' ∉ tail) : IsBody ('!' :: c :: tail)

section Brackets

variable {s body rest : List Char}

theorem dropWhile_closed {tail : List Char} (h : ']' ∉ tail) (rest : List Char) :
    (tail ++ ']' :: rest).dropWhile (· ≠ ']') = ']' :: rest := by
  have all : ∀ c ∈ tail, decide (c ≠ ']') = true := fun c hc =>
    decide_eq_true fun e => h (e ▸ hc)
  rw [List.dropWhile_append_of_pos all]
  exact List.dropWhile_cons_of_neg (by simp)

theorem takeWhile_closed {tail : List Char} (h : ']' ∉ tail) (rest : List Char) :
    (tail ++ ']' :: rest).takeWhile (· ≠ ']') = tail := by
  have all : ∀ c ∈ tail, decide (c ≠ ']') = true := fun c hc =>
    decide_eq_true fun e => h (e ▸ hc)
  rw [List.takeWhile_append_of_pos all, List.takeWhile_cons_of_neg (by simp), List.append_nil]

/-- What stands before the first closing bracket, and the rest. -/
theorem closed_of_dropWhile {c : Char} (h : s.dropWhile (· ≠ ']') = c :: rest) :
    s = s.takeWhile (· ≠ ']') ++ ']' :: rest ∧ ']' ∉ s.takeWhile (· ≠ ']') := by
  have whole := List.takeWhile_append_dropWhile (p := fun c : Char => decide (c ≠ ']')) (l := s)
  have stop : c = ']' := by
    have head := List.head?_dropWhile_not (fun c : Char => decide (c ≠ ']')) s
    rw [h] at head
    exact Decidable.not_not.1 (of_decide_eq_false head)
  rw [h, stop] at whole
  refine ⟨whole.symm, fun hm => ?_⟩
  have open_ := List.all_eq_true.1 (List.all_takeWhile (l := s)) ']' hm
  exact absurd rfl (of_decide_eq_true open_)

/-- How many characters at the start of a text cannot close a bracket. -/
def opening (s : List Char) : Nat :=
  let mark := if s.head? = some '!' then 1 else 0
  if (s.drop mark).head? = some ']' then mark + 1 else mark

theorem bracket?_def (s : List Char) : bracket? s =
    match (s.drop (opening s)).dropWhile (· ≠ ']') with
    | _ :: rest => some (s.take (opening s) ++ (s.drop (opening s)).takeWhile (· ≠ ']'), rest)
    | [] => none := rfl

theorem opening_plain {c : Char} (h : c ≠ '!') (s : List Char) :
    opening (c :: s) = if c = ']' then 1 else 0 := by
  simp [opening, h]

theorem opening_negated (c : Char) (s : List Char) :
    opening ('!' :: c :: s) = if c = ']' then 2 else 1 := by
  simp [opening]

/-- What cannot close a bracket and what runs up to the first closing bracket is a body. -/
theorem isBody_of_closed {tail : List Char} (h : s.drop (opening s) = tail ++ ']' :: rest)
    (closed : ']' ∉ tail) : IsBody (s.take (opening s) ++ tail) := by
  have first {c : Char} {r : List Char} (hc : c ≠ ']') (h : c :: r = tail ++ ']' :: rest) :
      ∃ tail', tail = c :: tail' ∧ ']' ∉ tail' := by
    cases tail with
    | nil => exact absurd (List.cons.inj h).1 hc
    | cons d tail' =>
      obtain ⟨rfl, -⟩ := List.cons.inj h
      exact ⟨tail', rfl, fun hm => closed (List.mem_cons_of_mem _ hm)⟩
  cases s with
  | nil => exact absurd h (by simp)
  | cons c s =>
    by_cases negative : c = '!'
    · subst negative
      cases s with
      | nil => exact absurd h (by simp [opening])
      | cons d s =>
        rw [opening_negated] at h ⊢
        by_cases hd : d = ']'
        · rw [if_pos hd]
          exact .negated closed
        · rw [if_neg hd] at h ⊢
          obtain ⟨tail', rfl, closed'⟩ := first hd h
          exact .negated closed'
    · rw [opening_plain negative] at h ⊢
      by_cases hc : c = ']'
      · rw [if_pos hc]
        exact .plain negative closed
      · rw [if_neg hc] at h ⊢
        obtain ⟨tail', rfl, closed'⟩ := first hc h
        exact .plain negative closed'

theorem bracket?_of_opening (lead : List Char) {tail : List Char} (closed : ']' ∉ tail)
    (opens : opening (lead ++ (tail ++ ']' :: rest)) = lead.length) :
    bracket? (lead ++ (tail ++ ']' :: rest)) = some (lead ++ tail, rest) := by
  rw [bracket?_def, opens, List.drop_left, List.take_left, dropWhile_closed closed,
    takeWhile_closed closed]

/-- **What a bracket is**: a body, and then the first bracket that closes it. -/
theorem bracket?_eq_some :
    bracket? s = some (body, rest) ↔ s = body ++ ']' :: rest ∧ IsBody body := by
  rw [bracket?_def]
  constructor
  · intro h
    split at h
    · next c rest found =>
      cases h
      obtain ⟨split, closed⟩ := closed_of_dropWhile found
      refine ⟨?_, isBody_of_closed split closed⟩
      rw [List.append_assoc, ← split, List.take_append_drop]
    · cases h
  · rintro ⟨rfl, isBody⟩
    cases isBody with
    | @plain c tail positive closed =>
      by_cases hc : c = ']'
      · exact bracket?_of_opening [c] closed ((opening_plain positive _).trans (if_pos hc))
      · have closed' : ']' ∉ c :: tail := fun hm =>
          (List.mem_cons.1 hm).elim (fun e => hc e.symm) closed
        exact bracket?_of_opening [] closed' ((opening_plain positive _).trans (if_neg hc))
    | @negated c tail closed =>
      by_cases hc : c = ']'
      · exact bracket?_of_opening ['!', c] closed ((opening_negated c _).trans (if_pos hc))
      · have closed' : ']' ∉ c :: tail := fun hm =>
          (List.mem_cons.1 hm).elim (fun e => hc e.symm) closed
        exact bracket?_of_opening ['!'] closed' ((opening_negated c _).trans (if_neg hc))

/-- What follows a bracket does not count for it. -/
theorem bracket?_append (h : bracket? s = some (body, rest)) (t : List Char) :
    bracket? (s ++ t) = some (body, rest ++ t) := by
  obtain ⟨rfl, isBody⟩ := bracket?_eq_some.1 h
  exact bracket?_eq_some.2 ⟨List.append_assoc .., isBody⟩

/-- A bracket without a slash in it ends before any slash that follows its start. -/
theorem bracket?_of_append {t : List Char} (h : bracket? (s ++ '/' :: t) = some (body, rest))
    (unspanned : '/' ∉ body) :
    ∃ rest', bracket? s = some (body, rest') ∧ rest = rest' ++ '/' :: t := by
  obtain ⟨whole, isBody⟩ := bracket?_eq_some.1 h
  rcases List.append_eq_append_iff.1 whole with ⟨more, rfl, after⟩ | ⟨more, rfl, after⟩
  · cases more with
    | nil => exact absurd (List.cons.inj after).1 (by decide)
    | cons c more =>
      refine absurd (List.mem_append_right _ ?_) unspanned
      rw [(List.cons.inj after).1]
      exact List.mem_cons_self
  · cases more with
    | nil => exact absurd (List.cons.inj after).1 (by decide)
    | cons c more =>
      obtain ⟨rfl, rfl⟩ := List.cons.inj after
      exact ⟨more, bracket?_eq_some.2 ⟨rfl, isBody⟩, rfl⟩

end Brackets

/-! ## 2. Reading a pattern -/

/-- A character that stands for itself wherever it is read. -/
def isPlain (c : Char) : Bool := c ≠ '*' && c ≠ '?' && c ≠ '['

/-- How a pattern is read: its tokens, and the bodies of its brackets. -/
inductive Reads : List Char → List Token → List (List Char) → Prop
  | nil : Reads [] [] []
  | many {s ts bs} (more : Reads s ts bs) : Reads ('*' :: s) (.many :: ts) bs
  | any {s ts bs} (more : Reads s ts bs) : Reads ('?' :: s) (.any :: ts) bs
  | bracket {s body rest ts bs} (closed : bracket? s = some (body, rest))
      (more : Reads rest ts bs) : Reads ('[' :: s) (.oneOf (classOf body) :: ts) (body :: bs)
  | unclosed {s ts bs} (open_ : bracket? s = none) (more : Reads s ts bs) :
      Reads ('[' :: s) (.literal '[' :: ts) bs
  | plain {c s ts bs} (plain : isPlain c = true) (more : Reads s ts bs) :
      Reads (c :: s) (.literal c :: ts) bs

/-- The bodies of the brackets of a pattern. Every token takes at least one character, so `bound` is
    the length of the pattern. -/
def bodiesFrom : Nat → List Char → List (List Char)
  | 0, _ => []
  | _ + 1, [] => []
  | bound + 1, '[' :: rest =>
    match bracket? rest with
    | some (body, after) => body :: bodiesFrom bound after
    | none => bodiesFrom bound rest
  | bound + 1, _ :: rest => bodiesFrom bound rest

def bodies (pattern : List Char) : List (List Char) := bodiesFrom pattern.length pattern

/-- No bracket of a pattern is read across a slash. -/
def Unspanned (pattern : List Char) : Prop := ∀ body ∈ bodies pattern, '/' ∉ body

instance (pattern : List Char) : Decidable (Unspanned pattern) := List.decidableBAll _ _

theorem reads_from (bound : Nat) : ∀ {s : List Char}, s.length ≤ bound →
    Reads s (tokensFrom bound s) (bodiesFrom bound s) := by
  induction bound with
  | zero =>
    intro s h
    obtain rfl := List.eq_nil_of_length_eq_zero (Nat.le_zero.1 h)
    exact .nil
  | succ bound ih =>
    intro s h
    cases s with
    | nil => exact .nil
    | cons c s =>
      have shorter : s.length ≤ bound := Nat.le_of_succ_le_succ h
      by_cases many : c = '*'
      · subst many
        exact .many (ih shorter)
      by_cases any : c = '?'
      · subst any
        exact .any (ih shorter)
      by_cases opens : c = '['
      · subst opens
        cases closed : bracket? s with
        | none =>
          simp only [tokensFrom, bodiesFrom, closed]
          exact .unclosed closed (ih shorter)
        | some found =>
          obtain ⟨body, rest⟩ := found
          have after : rest.length ≤ bound := by
            obtain ⟨rfl, -⟩ := bracket?_eq_some.1 closed
            rw [List.length_append, List.length_cons] at shorter
            omega
          simp only [tokensFrom, bodiesFrom, closed]
          exact .bracket closed (ih after)
      · have plain : isPlain c = true := by simp [isPlain, many, any, opens]
        have tokens : tokensFrom (bound + 1) (c :: s) = .literal c :: tokensFrom bound s := by
          rw [tokensFrom] <;> simp [many, any, opens]
        have bodies : bodiesFrom (bound + 1) (c :: s) = bodiesFrom bound s := by
          rw [bodiesFrom]
          simp [opens]
        rw [tokens, bodies]
        exact .plain plain (ih shorter)

/-- **A pattern is read as its tokens.** -/
theorem reads_tokens (s : List Char) : Reads s (tokens s) (bodies s) := reads_from _ (Nat.le_refl _)

theorem Reads.unique {s : List Char} {ts : List Token} {bs : List (List Char)}
    (h : Reads s ts bs) : ∀ {ts' bs'}, Reads s ts' bs' → ts' = ts ∧ bs' = bs := by
  induction h with
  | nil =>
    intro ts' bs' h'
    cases h'
    exact ⟨rfl, rfl⟩
  | many more ih =>
    intro ts' bs' h'
    cases h' with
    | many more' => exact ⟨congrArg _ (ih more').1, (ih more').2⟩
    | plain plain _ => cases plain
  | any more ih =>
    intro ts' bs' h'
    cases h' with
    | any more' => exact ⟨congrArg _ (ih more').1, (ih more').2⟩
    | plain plain _ => cases plain
  | bracket closed more ih =>
    intro ts' bs' h'
    cases h' with
    | bracket closed' more' =>
      cases closed.symm.trans closed'
      exact ⟨congrArg _ (ih more').1, congrArg _ (ih more').2⟩
    | unclosed open_ _ => cases closed.symm.trans open_
    | plain plain _ => cases plain
  | unclosed open_ more ih =>
    intro ts' bs' h'
    cases h' with
    | bracket closed _ => cases open_.symm.trans closed
    | unclosed _ more' => exact ⟨congrArg _ (ih more').1, (ih more').2⟩
    | plain plain _ => cases plain
  | plain plain more ih =>
    intro ts' bs' h'
    cases h' with
    | many _ | any _ | bracket _ _ | unclosed _ _ => cases plain
    | plain _ more' => exact ⟨congrArg _ (ih more').1, (ih more').2⟩

/-- **Without a bracket across it, a slash parts a pattern.** -/
theorem Reads.split {a b : List Char} {ts : List Token} {bs : List (List Char)}
    (h : Reads (a ++ '/' :: b) ts bs) (unspanned : ∀ body ∈ bs, '/' ∉ body) :
    ∃ ts₁ ts₂ bs₁ bs₂, Reads a ts₁ bs₁ ∧ Reads b ts₂ bs₂ ∧
      ts = ts₁ ++ .literal '/' :: ts₂ ∧ bs = bs₁ ++ bs₂ := by
  generalize hs : a ++ '/' :: b = s at h
  induction h generalizing a with
  | nil => exact absurd hs (by simp)
  | many more ih =>
    cases a with
    | nil => exact absurd (List.cons.inj hs).1 (by decide)
    | cons c a =>
      obtain ⟨rfl, rfl⟩ := List.cons.inj hs
      obtain ⟨ts₁, ts₂, bs₁, bs₂, left, right, rfl, rfl⟩ := ih unspanned rfl
      exact ⟨_, ts₂, bs₁, bs₂, .many left, right, rfl, rfl⟩
  | any more ih =>
    cases a with
    | nil => exact absurd (List.cons.inj hs).1 (by decide)
    | cons c a =>
      obtain ⟨rfl, rfl⟩ := List.cons.inj hs
      obtain ⟨ts₁, ts₂, bs₁, bs₂, left, right, rfl, rfl⟩ := ih unspanned rfl
      exact ⟨_, ts₂, bs₁, bs₂, .any left, right, rfl, rfl⟩
  | @bracket s body rest ts bs closed more ih =>
    cases a with
    | nil => exact absurd (List.cons.inj hs).1 (by decide)
    | cons c a =>
      obtain ⟨rfl, rfl⟩ := List.cons.inj hs
      obtain ⟨rest', closed', rfl⟩ := bracket?_of_append closed (unspanned body List.mem_cons_self)
      have later : ∀ other ∈ bs, '/' ∉ other := fun other hm =>
        unspanned other (List.mem_cons_of_mem _ hm)
      obtain ⟨ts₁, ts₂, bs₁, bs₂, left, right, rfl, rfl⟩ := ih later rfl
      exact ⟨_, ts₂, _, bs₂, .bracket closed' left, right, rfl, rfl⟩
  | unclosed open_ more ih =>
    cases a with
    | nil => exact absurd (List.cons.inj hs).1 (by decide)
    | cons c a =>
      obtain ⟨rfl, rfl⟩ := List.cons.inj hs
      have still : bracket? a = none := by
        cases closed : bracket? a with
        | none => rfl
        | some found => cases open_.symm.trans (bracket?_append closed ('/' :: b))
      obtain ⟨ts₁, ts₂, bs₁, bs₂, left, right, rfl, rfl⟩ := ih unspanned rfl
      exact ⟨_, ts₂, bs₁, bs₂, .unclosed still left, right, rfl, rfl⟩
  | @plain c s ts bs plain more ih =>
    cases a with
    | nil =>
      obtain ⟨rfl, rfl⟩ := List.cons.inj hs
      exact ⟨[], ts, [], bs, .nil, more, rfl, rfl⟩
    | cons d a =>
      obtain ⟨rfl, rfl⟩ := List.cons.inj hs
      obtain ⟨ts₁, ts₂, bs₁, bs₂, left, right, rfl, rfl⟩ := ih unspanned rfl
      exact ⟨_, ts₂, bs₁, bs₂, .plain plain left, right, rfl, rfl⟩

/-- Plain characters are read as they are. -/
theorem reads_plain {s : List Char} (h : ∀ c ∈ s, isPlain c = true) :
    Reads s (s.map .literal) [] := by
  induction s with
  | nil => exact .nil
  | cons c s ih =>
    exact .plain (h c List.mem_cons_self) (ih fun d hd => h d (List.mem_cons_of_mem _ hd))

/-! ## 3. Names and whole paths -/

theorem Matches.append {ts ts' : List Token} {s s' : List Char} (h : Matches ts s)
    (h' : Matches ts' s') : Matches (ts ++ ts') (s ++ s') := by
  induction h with
  | nil => exact h'
  | one taken _ ih => exact .one taken ih
  | skip _ ih => exact .skip ih
  | more _ ih => exact .more ih

/-- The tokens of a pattern that can be parted at a slash. -/
theorem tokens_slash {a b : List Char} (unspanned : Unspanned (a ++ '/' :: b)) :
    tokens (a ++ '/' :: b) = tokens a ++ .literal '/' :: tokens b ∧ Unspanned b := by
  obtain ⟨ts₁, ts₂, bs₁, bs₂, hl, hr, whole, bodies⟩ := (reads_tokens _).split unspanned
  obtain ⟨rfl, -⟩ := (reads_tokens a).unique hl
  obtain ⟨rfl, rfl⟩ := (reads_tokens b).unique hr
  exact ⟨whole, fun body hm => unspanned body (bodies ▸ List.mem_append_right _ hm)⟩

/-- A pattern that can be parted at a slash matches what its parts match. -/
theorem matches_slash {a b s s' : List Char} (unspanned : Unspanned (a ++ '/' :: b))
    (left : Matches (tokens a) s) (right : Unspanned b → Matches (tokens b) s') :
    Matches (tokens (a ++ '/' :: b)) (s ++ '/' :: s') := by
  obtain ⟨parted, later⟩ := tokens_slash unspanned
  rw [parted]
  exact left.append (.one (by decide) (right later))

theorem matches_root {b s : List Char} (unspanned : Unspanned ('/' :: b))
    (right : Unspanned b → Matches (tokens b) s) : Matches (tokens ('/' :: b)) ('/' :: s) :=
  matches_slash (a := []) (s := []) unspanned .nil right

/-- A name matches a name of a pattern, as characters. -/
def Suits (pattern name : String) : Prop := Matches (tokens pattern.toList) name.toList

/-- A plain name matches itself alone. -/
theorem suits_plain_iff {pattern name : String} (h : isMagic pattern = false) :
    Suits pattern name ↔ name = pattern := by
  have plain : ∀ c ∈ pattern.toList, isPlain c = true := by
    intro c hc
    have still := List.any_eq_false.1 h c hc
    simpa [isPlain, not_or] using still
  unfold Suits
  rw [((reads_tokens _).unique (reads_plain plain)).1.symm, matches_literal, String.toList_inj]

theorem suits_of_plain {name : String} (h : isMagic name = false) : Suits name name :=
  (suits_plain_iff h).2 rfl

theorem suits_of_listsName {pattern name : String} (h : listsName pattern name = true) :
    Suits pattern name :=
  matches_of_accepts (Bool.and_eq_true_iff.1 h).2

theorem Lists.suits {t : FileTree} {p : Path} {pattern names : List String}
    (h : Lists t p pattern names) : List.Forall₂ Suits pattern names := by
  induction h with
  | done => exact .nil
  | plain literal _ _ ih => exact .cons (suits_of_plain literal) ih
  | listed _ _ _ fitting _ _ ih => exact .cons (suits_of_listsName fitting) ih

/-- The text of several names in a path. -/
theorem toList_intercalate (name next : String) (names : List String) :
    ("/".intercalate (name :: next :: names)).toList =
      name.toList ++ '/' :: ("/".intercalate (next :: names)).toList := by
  have slash : (name ++ "/").toList = name.toList ++ ['/'] := String.toList_append
  rw [String.intercalate_cons_cons, String.toList_append, slash, List.append_assoc]
  rfl

/-- The text of a path that has names. -/
theorem toList_text (a : Anchor) {names : List String} (some : names ≠ []) :
    (Path.text ⟨a, names⟩).toList = a.text.toList ++ ("/".intercalate names).toList := by
  unfold Path.text
  rw [if_neg fun h => some h.2, String.toList_append]

theorem toList_root : (Anchor.text .root).toList = ['/'] := by decide

theorem toList_doubleRoot : (Anchor.text .doubleRoot).toList = ['/', '/'] := by decide

/-- Names that match one by one match as they stand in a path. -/
theorem matches_intercalate {pattern names : List String} (h : List.Forall₂ Suits pattern names)
    (unspanned : Unspanned ("/".intercalate pattern).toList) :
    Matches (tokens ("/".intercalate pattern).toList) ("/".intercalate names).toList := by
  induction h with
  | nil => exact .nil
  | @cons pattern name patterns names suits more ih =>
    cases more with
    | nil =>
      rw [String.intercalate_singleton, String.intercalate_singleton]
      exact suits
    | cons next more =>
      rw [toList_intercalate] at unspanned ⊢
      rw [toList_intercalate]
      exact matches_slash unspanned suits ih

/-- **Names that match one by one match as a whole path.** -/
theorem fits_of_suits {a : Anchor} {pattern names : List String}
    (h : List.Forall₂ Suits pattern names)
    (unspanned : Unspanned (Path.text ⟨a, pattern⟩).toList) :
    fits (Path.text ⟨a, pattern⟩) (Path.text ⟨a, names⟩) = true := by
  refine accepts_of_matches ?_
  cases h with
  | nil =>
    refine matches_of_accepts ?_
    cases a <;> decide
  | @cons pattern name patterns names suits more =>
    have body := matches_intercalate (.cons suits more)
    rw [toList_text a (List.cons_ne_nil _ _)] at unspanned ⊢
    rw [toList_text a (List.cons_ne_nil _ _)]
    cases a with
    | relative => exact body unspanned
    | root =>
      rw [toList_root] at unspanned ⊢
      exact matches_root unspanned body
    | doubleRoot =>
      rw [toList_doubleRoot] at unspanned ⊢
      exact matches_root unspanned fun unspanned => matches_root unspanned body

/-- **What a pattern lists, it matches as a whole**, as long as none of its brackets is read across a
    slash. -/
theorem fits_of_listed {t : FileTree} {pattern : Path} {found : List Path}
    (h : expand t pattern = .ok found) (unspanned : Unspanned pattern.text.toList) :
    ∀ q ∈ found, fits pattern.text q.text = true := by
  obtain ⟨start, rest, rfl, literal, head⟩ := exists_start pattern
  have plain : List.Forall₂ Suits start.parts start.parts :=
    List.forall₂_same.2 fun name hm => suits_of_plain (literal name hm)
  intro q hq
  obtain ⟨names, listed, rfl, -⟩ := (mem_expand literal head h).1 hq
  exact fits_of_suits (List.rel_append plain listed.suits) unspanned

end Respawn.Glob
