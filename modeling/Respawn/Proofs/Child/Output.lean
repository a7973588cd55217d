import Mathlib
import Respawn.Child.Output
import Respawn.Log.Layout
import Respawn.Proofs.Actions
import Respawn.Proofs.Text.Newlines

/-!
# What is logged of a program's output

A stream is decoded line by line, and the lines are those of the text that the whole stream decodes
to. What is logged of them is shown as it is, and however the reading ends, the pipe is closed once
after that.

* `kept_of_lines`: the lines of the bytes have the texts of the lines of the text;
* `linesOf_taken`: what was read before a fault is a stream of its own;
* `output_passes`: what a pipe logs and shows, and how its reading ends.
-/

namespace Respawn.Child

open Text (isBlank splitOn splitOn_append splitOn_of_not_mem trimEnd)
open Text.Utf8 (lenient lenient_cut newline newline_not_mem_lenient)

/-! ## 1. Lines of bytes -/

/-- A stream is either cut nowhere, or first of all somewhere. -/
@[elab_as_elim]
theorem byLines {P : List UInt8 → Prop} (uncut : ∀ xs, newline ∉ xs → P xs)
    (cut : ∀ xs ys, newline ∉ xs → P ys → P (xs ++ newline :: ys)) (bs : List UInt8) : P bs := by
  induction h : bs.length using Nat.strongRecOn generalizing bs with
  | ind n ih =>
    by_cases hm : newline ∈ bs
    · obtain ⟨xs, ys, rfl, hx⟩ := List.eq_append_cons_of_mem hm
      have shorter : ys.length < n := by
        rw [← h, List.length_append, List.length_cons]
        omega
      exact cut xs ys hx (ih ys.length shorter ys rfl)
    · exact uncut bs hm

theorem linesOf_cut {xs : List UInt8} (h : newline ∉ xs) (ys : List UInt8) :
    linesOf (xs ++ newline :: ys) = (xs ++ [newline]) :: linesOf ys := by
  induction xs with
  | nil => rw [List.nil_append, linesOf, if_pos rfl, List.nil_append]
  | cons x xs ih =>
    have other : x ≠ newline := fun same => h (same ▸ List.mem_cons_self)
    have later : newline ∉ xs := fun hm => h (List.mem_cons_of_mem x hm)
    rw [List.cons_append, linesOf, if_neg other, ih later, List.cons_append]

theorem linesOf_uncut {xs : List UInt8} (h : newline ∉ xs) (some : xs ≠ []) :
    linesOf xs = [xs] := by
  induction xs with
  | nil => exact absurd rfl some
  | cons x xs ih =>
    have other : x ≠ newline := fun same => h (same ▸ List.mem_cons_self)
    have later : newline ∉ xs := fun hm => h (List.mem_cons_of_mem x hm)
    rw [linesOf, if_neg other]
    by_cases hx : xs = []
    · rw [hx, linesOf]
    · rw [ih later hx]

/-- **The lines before a fault are those of what was read before it.** -/
theorem linesOf_taken (n : Nat) (bs : List UInt8) :
    linesOf ((linesOf bs).take n).flatten = (linesOf bs).take n := by
  induction bs using byLines generalizing n with
  | uncut xs h =>
    by_cases hx : xs = []
    · rw [hx, linesOf, List.take_nil, List.flatten_nil, linesOf]
    · rw [linesOf_uncut h hx]
      cases n with
      | zero => rw [List.take_zero, List.flatten_nil, linesOf]
      | succ n => rw [List.take_succ_cons, List.take_nil, List.flatten_singleton, linesOf_uncut h hx]
  | cut xs ys h ih =>
    rw [linesOf_cut h]
    cases n with
    | zero => rw [List.take_zero, List.flatten_nil, linesOf]
    | succ n =>
      rw [List.take_succ_cons, List.flatten_cons, List.append_assoc, List.singleton_append,
        linesOf_cut h, ih]

/-! ## 2. Lines of text -/

/-- The lines of a text that are kept: without the blanks at the end, and without blank lines. -/
def keptLines (text : List Char) : List (List Char) :=
  ((splitOn '\n' text).map (trimEnd isBlank)).filter (· ≠ [])

theorem trimEnd_append_of_blank {p : Char → Bool} (s : List Char) {c : Char} (h : p c = true) :
    trimEnd p (s ++ [c]) = trimEnd p s := by
  rw [trimEnd, trimEnd, List.reverse_append, List.reverse_singleton, List.singleton_append,
    List.dropWhile_cons_of_pos h]

/-- The newline that ends a line is a blank. -/
theorem lineText_cut (xs : List UInt8) :
    lineText (xs ++ [newline]) = trimEnd isBlank (lenient xs) := by
  have ended : lenient (xs ++ [newline]) = lenient xs ++ ['\n'] := by
    rw [lenient_cut, lenient, lenient, Text.Utf8.pieces_nil, List.map_nil]
  rw [lineText, ended, trimEnd_append_of_blank _ (by decide)]

/-- **Line by line or as a whole, a stream has the same text.** -/
theorem kept_of_lines (bs : List UInt8) :
    ((linesOf bs).map lineText).filter (· ≠ []) = keptLines (lenient bs) := by
  induction bs using byLines with
  | uncut xs h =>
    have whole : splitOn '\n' (lenient xs) = [lenient xs] :=
      splitOn_of_not_mem (newline_not_mem_lenient h)
    rw [keptLines, whole]
    by_cases hx : xs = []
    · rw [hx, linesOf, lenient, Text.Utf8.pieces_nil]
      rfl
    · rw [linesOf_uncut h hx, List.map_singleton, List.map_singleton, lineText]
  | cut xs ys h ih =>
    have pieces : splitOn '\n' (lenient (xs ++ newline :: ys)) =
        lenient xs :: splitOn '\n' (lenient ys) := by
      rw [lenient_cut, splitOn_append, splitOn_of_not_mem (newline_not_mem_lenient h),
        List.singleton_append]
    rw [keptLines] at ih ⊢
    rw [linesOf_cut h, pieces, List.map_cons, List.map_cons, lineText_cut, List.filter_cons,
      List.filter_cons, ih]

/-! ## 3. Records -/

/-- The records for what the program of the given name prints. -/
def outputRecords (name : String) (level : Log.Level) (text : List Char) : List Log.Record :=
  (keptLines text).map fun line => ⟨level, outputLogger name, String.ofList line⟩

theorem lineRecords_eq (name : String) {level : Log.Level} (h : 0 < level.number)
    (bs : List UInt8) :
    (linesOf bs).flatMap (lineRecords name level) = outputRecords name level (lenient bs) := by
  rw [outputRecords, ← kept_of_lines]
  induction linesOf bs with
  | nil => rfl
  | cons line lines ih =>
    rw [List.flatMap_cons, ih, List.map_cons, List.filter_cons]
    by_cases blank : lineText line = []
    · rw [lineRecords_nil blank, List.nil_append, blank]
      rfl
    · rw [lineRecords_single blank name h, if_pos (decide_eq_true blank), List.map_cons,
        List.singleton_append]

/-- What the supervised program prints is shown as it was written. -/
theorem outputRecords_shown (name : String) (level : Log.Level) (text : List Char)
    (time : Log.Stamp) (trace : Log.Trace) :
    (outputRecords name level text).map (Log.Layout.regular.write time · trace) =
      (keptLines text).map fun line => .ok (String.ofList line) := by
  rw [outputRecords, List.map_map]
  refine List.map_congr_left fun line _ => Log.write_output ?_ time trace
  rw [Log.isOutput, outputLogger, String.toList_append]
  exact List.isPrefixOf_iff_prefix.2 (List.prefix_append _ _)

/-! ## 4. The reading -/

variable {σ : Type} [Log.Logbook σ]

/-- The state with some records more. -/
def logged (rs : List Log.Record) (s : σ) : σ := rs.foldl (fun s r => Log.Logbook.note r s) s

/-- How a reading ends once its pipe is closed: a fault of the closing comes first. -/
def closing (close : Action σ Unit) (o : Outcome Unit) (s : σ) : Outcome Unit × σ :=
  match close s with
  | (.done _, t) => (o, t)
  | other => other

theorem noteAll_eq (rs : List Log.Record) (s : σ) : noteAll rs s = (.done (), logged rs s) := by
  induction rs generalizing s with
  | nil => rfl
  | cons r rs ih => exact ih (Log.Logbook.note r s)

omit [Log.Logbook σ] in
theorem ensuring_closing {x : Action σ Unit} {close : Action σ Unit} {s t : σ} {o : Outcome Unit}
    (h : x s = (o, t)) (ended : o ≠ .unfinished) : x.ensuring close s = closing close o t := by
  rw [closing]
  rcases hc : close t with ⟨o', u⟩
  cases o' with
  | done _ => exact Action.ensuring_of_clean h ended hc
  | raised f => exact Action.ensuring_of_fault h ended hc
  | unfinished => cases o <;> simp_all [Action.ensuring]

theorem readPipe_whole (close : Action σ Unit) (name : String) (level : Log.Level)
    (lines : List (List UInt8)) (s : σ) :
    readPipe close name level ⟨lines, none⟩ s =
      closing close (.done ()) (logged (lines.flatMap (lineRecords name level)) s) :=
  ensuring_closing (Action.bind_done (noteAll_eq _ s) _) nofun

theorem readPipe_broken (close : Action σ Unit) (name : String) (level : Log.Level)
    (lines : List (List UInt8)) (f : Fault) (s : σ) :
    readPipe close name level ⟨lines, some f⟩ s =
      if endsReading f then
        closing close (.done ())
          (logged (lines.flatMap (lineRecords name level) ++ [endedRecord name f]) s)
      else closing close (.raised f) (logged (lines.flatMap (lineRecords name level)) s) := by
  by_cases hf : endsReading f = true
  · rw [if_pos hf, logged, List.foldl_append]
    refine ensuring_closing (Action.bind_done (noteAll_eq _ s) _ |>.trans ?_) nofun
    simp only [hf, if_true, noteAll_eq]
    rfl
  · rw [if_neg hf]
    refine ensuring_closing (Action.bind_done (noteAll_eq _ s) _ |>.trans ?_) nofun
    simp only [hf]
    rfl

/-- **Output passes through unchanged.** What a pipe logs and what is shown of it are the lines of
    the text that its bytes decode to. If the reading fails after some lines, these are the lines of
    what was read until then, and a fault of the kind that ends a reading makes one more record. The
    pipe is closed once, after that. -/
theorem output_passes (close : Action σ Unit) (name : String) {level : Log.Level}
    (h : 0 < level.number) (bs : List UInt8) (s : σ) :
    (∀ time trace, (outputRecords name level (lenient bs)).map
        (Log.Layout.regular.write time · trace) =
      (keptLines (lenient bs)).map fun line => .ok (String.ofList line)) ∧
    readPipe close name level (.ofBytes bs none) s =
      closing close (.done ()) (logged (outputRecords name level (lenient bs)) s) ∧
    ∀ n f, n ≤ (linesOf bs).length → ∃ read unread, bs = read ++ unread ∧
      linesOf read = (linesOf bs).take n ∧
      readPipe close name level (.ofBytes bs (some (n, f))) s =
        if endsReading f then
          closing close (.done ())
            (logged (outputRecords name level (lenient read) ++ [endedRecord name f]) s)
        else closing close (.raised f) (logged (outputRecords name level (lenient read)) s) := by
  refine ⟨outputRecords_shown name level _, ?_, fun n f hn => ?_⟩
  · rw [Pipe.ofBytes, readPipe_whole, lineRecords_eq name h]
  · have parts : bs = ((linesOf bs).take n).flatten ++ ((linesOf bs).drop n).flatten := by
      rw [← List.flatten_append, List.take_append_drop, linesOf_flatten]
    refine ⟨_, _, parts, linesOf_taken n bs, ?_⟩
    have records := lineRecords_eq name h ((linesOf bs).take n).flatten
    rw [linesOf_taken] at records
    rw [Pipe.ofBytes, if_pos hn, readPipe_broken, records]

/-- A line with a percent sign and a carriage return, a blank one, one that breaks off within a
    character, and one that is no text. -/
def garbled : List UInt8 := [0x35, 0x25, 0x73, 0x0d, 0x0a, 0x0a, 0xe2, 0x82, 0x0a, 0xff]

/-- A closing that counts. -/
def counted : Action (Nat × List Log.Record) Unit := .modify fun s => (s.1 + 1, s.2)

theorem garbled_passes :
    0 < Log.Level.info.number ∧
    readPipe counted "srv" .info (.ofBytes garbled none) (0, []) =
      (.done (), 1, [⟨.info, "proc.srv", "5%s"⟩, ⟨.info, "proc.srv", "\ufffd"⟩,
        ⟨.info, "proc.srv", "\ufffd"⟩]) ∧
    readPipe counted "srv" .info
        (.ofBytes garbled (some (3, .os ⟨some 5, "Input/output error", none⟩))) (0, []) =
      (.done (), 1, [⟨.info, "proc.srv", "5%s"⟩, ⟨.info, "proc.srv", "\ufffd"⟩,
        ⟨.debug, "proc.srv",
          "Pipe reader for srv stream exited: [Errno 5] Input/output error"⟩]) := by
  obtain ⟨-, whole, broken⟩ := output_passes counted "srv"
    (show 0 < Log.Level.info.number by decide) garbled (0, [])
  obtain ⟨read, unread, -, lines, ended⟩ := broken 3 (.os ⟨some 5, "Input/output error", none⟩)
    (by decide)
  have taken : read = ((linesOf garbled).take 3).flatten := by rw [← lines, linesOf_flatten]
  have all : outputRecords "srv" .info (lenient garbled) = [⟨.info, "proc.srv", "5%s"⟩,
      ⟨.info, "proc.srv", "\ufffd"⟩, ⟨.info, "proc.srv", "\ufffd"⟩] := by cbv
  have before : outputRecords "srv" .info (lenient ((linesOf garbled).take 3).flatten) =
      [⟨.info, "proc.srv", "5%s"⟩, ⟨.info, "proc.srv", "\ufffd"⟩] := by cbv
  refine ⟨by decide, ?_, ?_⟩
  · rw [whole, all]
    rfl
  · rw [ended, taken, before]
    rfl

end Respawn.Child
