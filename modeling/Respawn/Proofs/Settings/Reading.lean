import Mathlib.Data.List.Basic
import Respawn.Fault
import Respawn.Json

/-!
# What the reading of a text comes to

Every reader leaves an end of the text it was given. It fails over anything else than the grammar
for two reasons only, and both of them can be seen in the text: it holds more digits than one number
may have, or it opens more brackets than are followed.

* `Sound`: what a reader may do with a text, with one lemma for each reader;
* `read_overlong`, `read_tooDeep`: the two failures that are not about the grammar;
* `read_nodup`: no name stands twice in an object that was read.
-/

namespace Respawn

theorem Table.nodup_put {α : Type} {t : Table α} (h : t.names.Nodup) (name : String) (a : α) :
    (Table.put t name a).names.Nodup := by
  induction t with
  | nil => simp [Table.put, Table.names]
  | cons e rest ih =>
    obtain ⟨key, b⟩ := e
    have hr : (Table.names rest).Nodup := (List.nodup_cons.1 h).2
    have hk : key ∉ Table.names rest := (List.nodup_cons.1 h).1
    by_cases same : key = name
    · simpa [Table.put, same, Table.names] using h
    · have kept : key ∉ (Table.put rest name a).names := by
        rw [← Table.has_iff_mem_names] at hk ⊢
        simpa [Table.has, Table.get?_put, same] using hk
      simpa [Table.put, same, Table.names] using ⟨by simpa [Table.names] using kept, ih hr⟩

namespace Json

open Numeral (isDigit)

/-- Whether a character opens a list or an object. -/
def isBracket (c : Char) : Bool := c = '[' || c = '\x7b'

/-! ## 1. Sound readers -/

/-- What a reader may make of a text, if at most `depth` brackets may still stand inside each other:
    it leaves an end of it, and what it cannot read is in the text. -/
def Sound {α : Type} (depth : Nat) (s : List Char) : Except Failure (α × List Char) → Prop
  | .ok (_, rest) => rest <:+ s
  | .error (.defect _ _) => True
  | .error (.overlong _) => Numeral.digitLimit < s.countP isDigit
  | .error (.tooDeep _) => depth < s.countP isBracket

section Sound

variable {α β : Type} {depth : Nat} {s t : List Char} {x : Except Failure (α × List Char)}

theorem Sound.mono (h : Sound depth t x) (hs : t <:+ s) : Sound depth s x := by
  match x, h with
  | .ok (_, _), h => exact h.trans hs
  | .error (.defect _ _), _ => trivial
  | .error (.overlong _), h => exact Nat.lt_of_lt_of_le h (hs.sublist.countP_le)
  | .error (.tooDeep _), h => exact Nat.lt_of_lt_of_le h (hs.sublist.countP_le)

theorem Sound.left (a : α) (s : List Char) : Sound depth s (pure (a, s)) := List.suffix_refl s

/-- What goes on with what a sound reader left is sound on the whole text. -/
theorem Sound.bind {k : α × List Char → Except Failure (β × List Char)} (h : Sound depth s x)
    (hk : ∀ a rest, Sound depth rest (k (a, rest))) : Sound depth s (x >>= k) := by
  match x, h with
  | .ok (a, rest), h => exact (hk a rest).mono h
  | .error (.defect _ _), _ => trivial
  | .error (.overlong _), h => exact h
  | .error (.tooDeep _), h => exact h

/-- Within a bracket one less may stand inside each other. -/
theorem Sound.within {c : Char} (hc : isBracket c = true) (h : Sound depth t x) :
    Sound (depth + 1) (c :: t) x := by
  match x, h with
  | .ok (_, _), h => exact h.trans (List.suffix_cons c t)
  | .error (.defect _ _), _ => trivial
  | .error (.overlong _), h =>
    exact Nat.lt_of_lt_of_le h ((List.suffix_cons c t).sublist.countP_le)
  | .error (.tooDeep _), h => simpa [Sound, List.countP_cons, hc] using h

theorem skipGap_suffix (s : List Char) : skipGap s <:+ s := List.dropWhile_suffix _

theorem Sound.skip (h : Sound depth (skipGap s) x) : Sound depth s x := h.mono (skipGap_suffix s)

end Sound

/-! ## 2. Texts, numbers and words -/

theorem codeUnit?_suffix {s rest : List Char} {unit : Nat} (h : codeUnit? s = some (unit, rest)) :
    rest <:+ s := by
  unfold codeUnit? at h
  split at h
  · rename_i a b c d next more
    obtain ⟨_, _, h⟩ := Option.bind_eq_some_iff.1 h
    obtain ⟨_, _, h⟩ := Option.bind_eq_some_iff.1 h
    obtain ⟨_, _, h⟩ := Option.bind_eq_some_iff.1 h
    obtain ⟨_, _, h⟩ := Option.bind_eq_some_iff.1 h
    simp only [pure, Option.some.injEq, Prod.mk.injEq] at h
    exact ⟨[a, b, c, d], by simp [← h.2]⟩
  · cases h

theorem longEscape_sound (depth : Nat) (here digits : List Char) :
    Sound depth digits (longEscape here digits) := by
  unfold longEscape
  split
  · trivial
  · rename_i unit rest hu
    have left : rest <:+ digits := codeUnit?_suffix hu
    split
    · rename_i more
      split
      · split
        · trivial
        · rename_i second after hs
          have tail : after <:+ '\\' :: 'u' :: more :=
            (codeUnit?_suffix hs).trans ⟨['\\', 'u'], rfl⟩
          split
          · exact tail.trans left
          · exact left
      · exact left
    · exact left

theorem textFrom_sound (depth : Nat) (start : List Char) (bound : Nat) (s : List Char) :
    Sound depth s (textFrom start bound s) := by
  induction bound generalizing s with
  | zero => trivial
  | succ bound ih =>
    unfold textFrom
    split
    · trivial
    · exact List.suffix_cons ..
    · trivial
    · rename_i digits
      have left : digits <:+ '\\' :: 'u' :: digits := ⟨['\\', 'u'], rfl⟩
      refine Sound.mono (Sound.bind (longEscape_sound depth _ digits) fun c rest => ?_) left
      exact Sound.bind (ih rest) fun text after => Sound.left (c :: text) after
    · rename_i c rest _
      have left : rest <:+ '\\' :: c :: rest := ⟨['\\', c], rfl⟩
      split
      · trivial
      · rename_i d _
        exact Sound.mono (Sound.bind (ih rest) fun text after => Sound.left (d :: text) after) left
    · rename_i c rest _ _ _ _
      split
      · trivial
      · refine Sound.mono ?_ (List.suffix_cons c rest)
        exact Sound.bind (ih rest) fun text after => Sound.left (c :: text) after

theorem wholeDigits_eq (s : List Char) : (wholeDigits s).1 ++ (wholeDigits s).2 = s := by
  unfold wholeDigits
  split
  · rfl
  · exact List.takeWhile_append_dropWhile

theorem wholeDigits_isDigit (s : List Char) : ∀ c ∈ (wholeDigits s).1, isDigit c = true := by
  unfold wholeDigits
  split
  · simp [isDigit]
  · exact fun c hc => List.all_eq_true.1 List.all_takeWhile c hc

theorem fraction_suffix (s : List Char) : (fraction s).2 <:+ s := by
  unfold fraction
  split
  · split
    · exact List.suffix_refl _
    · exact (List.dropWhile_suffix _).trans (List.suffix_cons ..)
  · exact List.suffix_refl _

theorem exponent_suffix (s : List Char) : (exponent s).2 <:+ s := by
  unfold exponent
  split
  · rename_i e rest
    split
    · -- the digits start after a sign, if there is one
      have tail : ∀ t : List Char, t <:+ rest → t.dropWhile isDigit <:+ e :: rest := fun t ht =>
        (List.dropWhile_suffix _).trans (ht.trans (List.suffix_cons e rest))
      split
      · rename_i mark digits hm
        have inside : digits <:+ rest := by
          split at hm <;> cases hm
          · exact List.suffix_cons ..
          · exact List.suffix_cons ..
          · exact List.suffix_refl _
        split
        · exact List.suffix_refl _
        · exact tail digits inside
    · exact List.suffix_refl _
  · exact List.suffix_refl _

theorem trim_sublist (p : Char → Bool) (s : List Char) : (Text.trim p s).Sublist s := by
  have back : ((s.dropWhile p).reverse.dropWhile p).Sublist (s.dropWhile p).reverse :=
    List.dropWhile_sublist _
  have front : (s.dropWhile p).Sublist s := List.dropWhile_sublist _
  refine List.Sublist.trans ?_ front
  simpa [Text.trim, Text.trimEnd] using back.reverse

theorem sign_sublist (s : List Char) : (Numeral.sign s).2.Sublist s := by
  unfold Numeral.sign
  split
  · exact List.sublist_cons_self ..
  · exact List.sublist_cons_self ..
  · exact List.Sublist.refl _

/-- A whole number is refused for its length only if that many digits stand in it. -/
theorem readInt_tooLong {s : List Char} {digits : Nat} (hs : s.all (·.toNat < 128) = true)
    (h : Numeral.readInt s = .error (.tooLong digits)) :
    Numeral.digitLimit < s.countP isDigit := by
  unfold Numeral.readInt at h
  rw [Numeral.plain_of_ascii hs] at h
  generalize hb : Numeral.sign (Text.trim Text.isSpace s) = parts at h
  obtain ⟨negative, body⟩ := parts
  have inside : body.Sublist s := by
    have signed := sign_sublist (Text.trim Text.isSpace s)
    rw [hb] at signed
    exact signed.trans (trim_sublist _ s)
  dsimp only at h
  split at h
  · cases h
  · generalize hr : body.takeWhile (fun c => isDigit c || c = '_') = run at h
    have part : run.Sublist s := (hr ▸ List.takeWhile_sublist _).trans inside
    unfold Numeral.limited at h
    by_cases long : Numeral.digitLimit < (run.filter isDigit).length
    · rw [← List.countP_eq_length_filter] at long
      exact Nat.lt_of_lt_of_le long part.countP_le
    · rw [if_neg long] at h
      dsimp only at h
      split at h <;> cases h

theorem word?_suffix {s rest : List Char} {v : Value} (h : word? s = some (v, rest)) :
    rest <:+ s := by
  obtain ⟨⟨word, w⟩, _, h⟩ := List.exists_of_findSome?_eq_some h
  dsimp only at h
  split at h
  · cases h
    exact List.drop_suffix _ _
  · cases h

theorem isDigit_ascii {c : Char} (h : isDigit c = true) : c.toNat < 128 := by
  simp only [isDigit, Bool.and_eq_true, decide_eq_true_eq] at h
  have : c.toNat ≤ '9'.toNat := h.2
  exact Nat.lt_of_le_of_lt this (by decide)

theorem number_rest (sign unsigned : List Char) :
    (exponent (fraction (wholeDigits unsigned).2).2).2 <:+ sign ++ unsigned := by
  have whole : (wholeDigits unsigned).2 <:+ sign ++ unsigned :=
    ⟨sign ++ (wholeDigits unsigned).1, by rw [List.append_assoc, wholeDigits_eq]⟩
  exact (exponent_suffix _).trans ((fraction_suffix _).trans whole)

theorem number_tooLong {sign unsigned fractional scale : List Char} {digits : Nat}
    (hs : ∀ c ∈ sign, c.toNat < 128) (hw : (fractional.isEmpty && scale.isEmpty) = true)
    (h : Numeral.readInt (sign ++ (wholeDigits unsigned).1 ++ fractional ++ scale) =
      .error (.tooLong digits)) :
    Numeral.digitLimit < (sign ++ unsigned).countP isDigit := by
  obtain ⟨rfl, rfl⟩ : fractional = [] ∧ scale = [] := by simpa using hw
  have plain : (sign ++ (wholeDigits unsigned).1).all (·.toNat < 128) = true := by
    simp only [List.all_append, Bool.and_eq_true, List.all_eq_true, decide_eq_true_eq]
    exact ⟨hs, fun c hc => isDigit_ascii (wholeDigits_isDigit unsigned c hc)⟩
  have front : sign ++ (wholeDigits unsigned).1 <+: sign ++ unsigned :=
    ⟨(wholeDigits unsigned).2, by rw [List.append_assoc, wholeDigits_eq]⟩
  have long := readInt_tooLong plain (by simpa using h)
  exact Nat.lt_of_lt_of_le long front.sublist.countP_le

theorem number_sound (depth : Nat) (s : List Char) : Sound depth s (number s) := by
  unfold number
  split
  rename_i sign unsigned hu
  obtain ⟨joined, plain⟩ : sign ++ unsigned = s ∧ ∀ c ∈ sign, c.toNat < 128 := by
    split at hu <;> cases hu <;> exact ⟨rfl, by simp⟩
  have ends := number_rest sign unsigned
  rw [joined] at ends
  dsimp only
  split
  · trivial
  · split
    · rename_i hw
      split
      · exact ends
      · rename_i digits hr
        exact joined ▸ number_tooLong plain hw hr
      · trivial
    · split
      · exact ends
      · trivial

/-! ## 3. Lists, objects and values -/

section Values

variable {value : List Char → Except Failure (Value × List Char)} {depth : Nat}

theorem items_sound (hv : ∀ s, Sound depth s (value s)) (bound : Nat) (s : List Char) :
    Sound depth s (items value bound s) := by
  induction bound generalizing s with
  | zero => trivial
  | succ bound ih =>
    unfold items
    refine Sound.bind (hv s) fun v rest => ?_
    refine Sound.skip ?_
    dsimp only
    generalize skipGap rest = left
    split
    · exact List.suffix_cons ..
    · rename_i after
      refine Sound.mono (Sound.skip ?_) (List.suffix_cons ',' after)
      exact Sound.bind (ih _) fun vs after => Sound.left (v :: vs) after
    · trivial

theorem members_sound (hv : ∀ s, Sound depth s (value s)) (bound : Nat) (before : Table Value)
    (s : List Char) : Sound depth s (members value bound before s) := by
  induction bound generalizing before s with
  | zero => trivial
  | succ bound ih =>
    unfold members
    split
    · rename_i rest
      refine Sound.mono ?_ (List.suffix_cons '"' rest)
      refine Sound.bind (textFrom_sound depth _ _ rest) fun name rest => ?_
      refine Sound.skip ?_
      dsimp only
      generalize skipGap rest = left
      split
      · rename_i rest
        refine Sound.mono (Sound.skip ?_) (List.suffix_cons ':' rest)
        refine Sound.bind (hv _) fun v rest => ?_
        refine Sound.skip ?_
        dsimp only
        generalize skipGap rest = left
        split
        · exact List.suffix_cons ..
        · rename_i after
          exact Sound.mono (Sound.skip (ih _ _)) (List.suffix_cons ',' after)
        · trivial
      · trivial
    · trivial

end Values

/-- What stands for a value without brackets is sound, however many may be opened. -/
theorem leaf_sound (depth : Nat) (s : List Char) :
    Sound depth s (match word? s with | some found => .ok found | none => number s) := by
  split
  · rename_i found hw
    exact word?_suffix hw
  · exact number_sound depth s

theorem quoted_sound (depth : Nat) (rest : List Char) :
    Sound depth ('"' :: rest) (do
      let (text, after) ← textFrom ('"' :: rest) rest.length.succ rest
      pure (Value.text (String.ofList text), after)) := by
  refine Sound.mono ?_ (List.suffix_cons '"' rest)
  exact Sound.bind (textFrom_sound depth _ _ rest) fun text after => Sound.left _ after

/-- **The reading of a value is sound.** -/
theorem value_sound (depth : Nat) (s : List Char) : Sound depth s (value depth s) := by
  induction depth generalizing s with
  | zero =>
    unfold value
    split
    · exact quoted_sound 0 _
    · simp [Sound, isBracket]
    · simp [Sound, isBracket]
    · trivial
    · exact leaf_sound 0 s
  | succ depth ih =>
    unfold value
    split
    · exact quoted_sound _ _
    · rename_i rest
      refine Sound.within rfl (Sound.skip ?_)
      dsimp only
      generalize skipGap rest = left
      split
      · exact List.suffix_cons ..
      · exact Sound.bind (items_sound ih _ _) fun vs after => Sound.left (Value.list vs) after
    · rename_i rest
      refine Sound.within rfl (Sound.skip ?_)
      dsimp only
      generalize skipGap rest = left
      split
      · exact List.suffix_cons ..
      · exact Sound.bind (members_sound ih _ _ _) fun entries after =>
          Sound.left (Value.dict entries) after
    · trivial
    · exact leaf_sound _ s

/-! ## 4. Whole texts -/

theorem read_sound {s : List Char} {e : Failure} (h : read s = .error e) :
    Sound nestingLimit s (.error e : Except Failure (Value × List Char)) := by
  unfold read at h
  split at h
  · cases h
    trivial
  · have sound := Sound.skip (value_sound nestingLimit (skipGap s))
    split at h
    · rename_i he
      cases h
      exact he ▸ sound
    · split at h <;> cases h
      trivial

/-- A text fails over the length of a number only if it holds more digits than a number may have. -/
theorem read_overlong {s : List Char} {digits : Nat} (h : read s = .error (.overlong digits)) :
    Numeral.digitLimit < s.countP isDigit := read_sound h

/-- A text fails over its brackets only if it opens more of them than are followed. -/
theorem read_tooDeep {s : List Char} {isObject : Bool} (h : read s = .error (.tooDeep isObject)) :
    nestingLimit < s.countP isBracket := read_sound h

theorem members_nodup {value : List Char → Except Failure (Value × List Char)} {bound : Nat}
    {before entries : Table Value} {s rest : List Char} (hb : before.names.Nodup)
    (h : members value bound before s = .ok (entries, rest)) : entries.names.Nodup := by
  induction bound generalizing before s with
  | zero => cases h
  | succ bound ih =>
    unfold members at h
    split at h
    · obtain ⟨⟨name, _⟩, _, h⟩ := bind_eq_ok.1 h
      dsimp only at h
      split at h
      · obtain ⟨⟨v, _⟩, _, h⟩ := bind_eq_ok.1 h
        have found := Table.nodup_put hb (String.ofList name) v
        dsimp only at h
        split at h
        · cases h
          exact found
        · exact ih found h
        · cases h
      · cases h
    · cases h

theorem word?_ne_dict {s rest : List Char} {v : Value} (h : word? s = some (v, rest)) :
    v.kind ≠ .dict := by
  obtain ⟨⟨word, w⟩, hm, h⟩ := List.exists_of_findSome?_eq_some h
  have plain : ∀ e ∈ words, e.2.kind ≠ .dict := by decide
  dsimp only at h
  split at h
  · cases h
    exact plain _ hm
  · cases h

theorem number_ne_dict {s rest : List Char} {v : Value} (h : number s = .ok (v, rest)) :
    v.kind ≠ .dict := by
  unfold number at h
  split at h
  dsimp only at h
  split at h
  · cases h
  · split at h
    · split at h <;> cases h
      exact Value.Kind.noConfusion
    · split at h <;> cases h
      exact Value.Kind.noConfusion

theorem value_nodup {depth : Nat} {entries : Table Value} {s rest : List Char}
    (h : value depth s = .ok (.dict entries, rest)) : entries.names.Nodup := by
  unfold value at h
  split at h
  · obtain ⟨_, _, h⟩ := bind_eq_ok.1 h
    cases h
  · split at h
    · cases h
    · split at h
      · cases h
      · obtain ⟨_, _, h⟩ := bind_eq_ok.1 h
        cases h
  · split at h
    · cases h
    · split at h
      · cases h
        exact List.nodup_nil
      · obtain ⟨_, hm, h⟩ := bind_eq_ok.1 h
        cases h
        have fresh : (Table.names ([] : Table Value)).Nodup := List.nodup_nil
        exact members_nodup fresh hm
  · cases h
  · split at h
    · rename_i hw
      cases h
      exact absurd rfl (word?_ne_dict hw)
    · exact absurd rfl (number_ne_dict h)

/-- **No name stands twice in an object that was read.** -/
theorem read_nodup {s : List Char} {entries : Table Value} (h : read s = .ok (.dict entries)) :
    entries.names.Nodup := by
  unfold read at h
  split at h
  · cases h
  · split at h
    · cases h
    · rename_i hv
      split at h <;> cases h
      exact value_nodup hv

end Json

end Respawn
