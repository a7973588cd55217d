import Mathlib.Data.List.Chain
import Respawn.Proofs.Watch.Booth

/-!
# Triggers are numbered, and each is there for a change

A run of a watcher is any sequence of requests of its one consumer, with others at work all the time:
starts and stops, waits, and steps of iterators. An iterator has nothing of its own but how often it
looks and whether it has ended, so that several of them, asked one at a time, ask as one.

* `take_found`, `fire_given`: the two places where the mailbox is emptied;
* `wait_answered`, `perform_answered`: how a request ends;
* `triggers_justified`: what the triggers of a run are, and for which changes they stand.
-/

namespace Respawn.Watch

open Respawn.Action (Drifts Ends)
open Relation (ReflTransGen)

variable {T O σ : Type}

/-! ## 1. Accounts -/

/-- How a trigger came about: a change was taken, the earliest since the mailbox was last emptied;
    a burst landed; with that the mailbox was emptied once more, and the change was logged. -/
structure Account (t : Trigger) (marks before burst after : List Mark) (path : String) : Prop where
  marks : marks = before ++ .emptied :: burst ++ .emptied :: after ++
    [.said (Watcher.triggerRecord path t.seq)]
  earliest : (unanswered before).head? = some path
  landed : .emptied ∉ burst
  finished : .emptied ∉ after

/-- A trigger, and what the chronicle told when it was handed out. -/
abbrev Handout := Trigger × List Mark

/-- A change has come after the mailbox was emptied for the last time that the first chronicle tells
    of. -/
def Renewed (marks marks' : List Mark) : Prop :=
  ∃ kept since since' path, marks = kept ++ .emptied :: since ∧ .emptied ∉ since ∧
    marks' = kept ++ .emptied :: since' ∧ .came path ∈ since'

/-- A change was taken, and a burst lands. -/
structure Taken (x : Watcher T O × Desk) (path : String) (y : Watcher T O × Desk) : Prop where
  same : x.1.AsBefore y.1
  account : ∃ before burst, x.2.marks <+: before ∧ (unanswered before).head? = some path ∧
    .emptied ∉ burst ∧ y.2.marks = before ++ .emptied :: burst

/-- The next trigger was handed out. -/
structure Given (x : Watcher T O × Desk) (t : Trigger) (y : Watcher T O × Desk) : Prop where
  number : t.seq = x.1.seq + 1
  same : Watcher.AsBefore { x.1 with seq := t.seq } y.1
  account : ∃ before burst after path, x.2.marks <+: before ∧
    Account t y.2.marks before burst after path

/-- Nothing was handed out. What was taken, if anything, is told of. -/
structure Withheld (x y : Watcher T O × Desk) : Prop where
  same : x.1.AsBefore y.1
  grown : x.2.marks <+: y.2.marks

/-- How looking for a change ends. -/
def Found (x : Watcher T O × Desk) (r : Outcome (Option String)) (y : Watcher T O × Desk) : Prop :=
  match r with
  | .done (some path) => Taken x path y
  | .done none | .raised _ | .unfinished => Withheld x y

/-- How a request ends. -/
def Answered (x : Watcher T O × Desk) (r : Outcome (Option Trigger)) (y : Watcher T O × Desk) :
    Prop :=
  match r with
  | .done (some t) => Given x t y
  | .done none | .raised _ | .unfinished => Withheld x y

section Accounts

variable {x y z : Watcher T O × Desk}

theorem Watcher.AsBefore.count {w w' : Watcher T O} (h : w.AsBefore w') (n : Nat) :
    AsBefore { w with seq := n } { w' with seq := n } := by
  rw [h]
  rfl

theorem Untaken.withheld (h : Untaken x y) : Withheld x y := by
  obtain ⟨new, -, grown⟩ := h.grown
  exact ⟨h.same, grown ▸ List.prefix_append _ _⟩

theorem Withheld.trans (h : Withheld x y) (h' : Withheld y z) : Withheld x z :=
  ⟨h.same.trans h'.same, h.grown.trans h'.grown⟩

theorem Taken.of_untaken {path : String} (h : Taken x path y) (h' : Untaken y z) :
    Taken x path z := by
  obtain ⟨before, burst, grown, earliest, landed, marks⟩ := h.account
  obtain ⟨new, kept, more⟩ := h'.grown
  refine ⟨h.same.trans h'.same, before, burst ++ new, grown, earliest, ?_, ?_⟩
  · rw [List.mem_append, not_or]
    exact ⟨landed, kept⟩
  · rw [more, marks, List.append_assoc, List.cons_append]

theorem Taken.withheld {path : String} (h : Taken x path y) : Withheld x y := by
  obtain ⟨before, burst, grown, -, -, marks⟩ := h.account
  exact ⟨h.same, marks ▸ grown.trans (List.prefix_append _ _)⟩

/-- A trigger after a wait that gave none. -/
theorem Given.after {t : Trigger} (h : Given y t z) (h' : Withheld x y) : Given x t z := by
  obtain ⟨before, burst, after, path, grown, account⟩ := h.account
  exact ⟨h.number.trans (congrArg (· + 1) h'.same.seq), (h'.same.count t.seq).trans h.same,
    before, burst, after, path, h'.grown.trans grown, account⟩

theorem Taken.after {path : String} (h : Taken y path z) (h' : Withheld x y) : Taken x path z := by
  obtain ⟨before, burst, grown, rest⟩ := h.account
  exact ⟨h'.same.trans h.same, before, burst, h'.grown.trans grown, rest⟩

theorem Found.after {r : Outcome (Option String)} (h : Found y r z) (h' : Withheld x y) :
    Found x r z := by
  rcases r with (_ | path) | e | _
  · exact h'.trans h
  · exact Taken.after h h'
  · exact h'.trans h
  · exact h'.trans h

theorem Answered.after {r : Outcome (Option Trigger)} (h : Answered y r z) (h' : Withheld x y) :
    Answered x r z := by
  rcases r with (_ | t) | e | _
  · exact h'.trans h
  · exact Given.after h h'
  · exact h'.trans h
  · exact h'.trans h

theorem withheld_of_stirs {cwd : Path} {f : Filter} (o : Orderly cwd f x)
    (stirs : ReflTransGen (Stirs cwd f) x y) : Orderly cwd f y ∧ Withheld x y :=
  ⟨orderly_of_stirs stirs o, (untaken_of_stirs stirs).withheld⟩

/-- A trigger stands for a change that came after the mailbox was emptied, whenever that was. -/
theorem Given.came {t : Trigger} (h : Given x t y) {kept since : List Mark}
    (emptied : x.2.marks = kept ++ .emptied :: since) :
    ∃ since' path, y.2.marks = kept ++ .emptied :: since' ∧ .came path ∈ since' := by
  obtain ⟨before, burst, after, path, ⟨more, grown⟩, marks, earliest, -, -⟩ := h.account
  have before_eq : before = kept ++ .emptied :: (since ++ more) := by
    rw [← grown, emptied, List.append_assoc, List.cons_append]
  -- the change that the trigger is there for was unanswered when it was taken
  have came : .came path ∈ since ++ more := by
    rw [before_eq] at earliest
    exact came_of_unanswered (List.mem_of_mem_head? earliest)
  refine ⟨since ++ more ++ .emptied :: burst ++ .emptied :: after ++
    [.said (Watcher.triggerRecord path t.seq)], path, ?_, ?_⟩
  · rw [marks, before_eq]
    simp only [List.append_assoc, List.cons_append]
  · simp only [List.append_assoc, List.mem_append]
    exact (List.mem_append.1 came).imp_right .inl

/-- What the account of the last trigger tells is over before a change comes for the next. -/
theorem Given.renewed {t t' : Trigger} {marks before burst after : List Mark} {path : String}
    (h : Given x t' y) (account : Account t marks before burst after path)
    (grown : marks <+: x.2.marks) : Renewed marks y.2.marks := by
  obtain ⟨more, grown⟩ := grown
  have closed : marks = (before ++ .emptied :: burst) ++ .emptied ::
      (after ++ [.said (Watcher.triggerRecord path t.seq)]) := by
    rw [account.marks, List.append_assoc, List.cons_append]
  have emptied : x.2.marks = (before ++ .emptied :: burst) ++ .emptied ::
      (after ++ [.said (Watcher.triggerRecord path t.seq)] ++ more) := by
    rw [← grown, closed, List.append_assoc _ _ more, List.cons_append]
  obtain ⟨since', path', marks', came⟩ := h.came emptied
  refine ⟨_, _, since', path', closed, ?_, marks', came⟩
  rw [List.mem_append, List.mem_singleton, not_or]
  exact ⟨account.finished, nofun⟩

end Accounts

/-! ## 2. Waits -/

namespace Watcher

variable [Mailboxed σ] [Log.Logbook σ] {h : Host T O σ} {cwd : Path} {f : Filter} {view : σ → Desk}
  (sole : SoleTaker h cwd f view)

section Steps

include sole

theorem seen_update (g : Mailbox → Mailbox) (y : Watcher T O × σ) :
    seen view (Mailboxed.update g y) = (y.1, (view y.2).mail g) := by
  show (y.1, view (Mailboxed.update g y.2)) = _
  rw [sole.update]

theorem seen_note (r : Log.Record) (y : Watcher T O × σ) :
    seen view (Log.Logbook.note r y) = (y.1, (view y.2).say r) := by
  show (y.1, view (Log.Logbook.note r y.2)) = _
  rw [sole.note]

/-- What others do once the mailbox was emptied. -/
theorem stirs_others (y : Watcher T O × σ) : ReflTransGen (Stirs cwd f)
    (y.1, (view y.2).mail .drain) (seen view (h.others (Mailboxed.update .drain y)).2) := by
  rw [← seen_update sole]
  exact sole.others _

theorem pending_eq {y : Watcher T O × σ} (o : Orderly cwd f (seen view y)) :
    (Mailboxed.mailbox y).pending = (unanswered (view y.2).marks).head? := by
  have pending : (view y.2).mailbox.pending = (unanswered (view y.2).marks).head? := o.pending
  rwa [sole.mailbox] at pending

theorem others_eq (y : Watcher T O × σ) : h.others y = (.done (), (h.others y).2) :=
  Prod.ext (sole.others_done y) rfl

theorem take_apply (y : Watcher T O × σ) : take h y =
    (.done (Mailboxed.mailbox y).pending, (h.others (Mailboxed.update .drain y)).2) :=
  Action.bind_done (others_eq sole _) fun _ => pure (Mailboxed.mailbox y).pending

/-- What is left to be done once the mailbox was emptied for a trigger. -/
theorem fire_apply {y z : Watcher T O × σ} (path : String)
    (others : (h.others (Mailboxed.update .drain y)).2 = z) : fire h path y =
      (.done (some ⟨z.1.seq + 1⟩), Log.Logbook.note (triggerRecord path (z.1.seq + 1))
        ({ z.1 with seq := z.1.seq + 1 }, z.2)) := by
  subst others
  have rest := Action.bind_done (others_eq sole (Mailboxed.update .drain y)) fun _ => (do
    change fun w => { w with seq := w.seq + 1 }
    let w ← own
    .modify (Log.Logbook.note (triggerRecord path w.seq))
    pure (some ⟨w.seq⟩) : Action (Watcher T O × σ) (Option Trigger))
  exact rest

/-- The first place where the mailbox is emptied: what was pending is taken, and it was the earliest
    change since the mailbox was emptied before. -/
theorem take_found {y : Watcher T O × σ} (o : Orderly cwd f (seen view y)) :
    Ends (take h) y fun r z => Orderly cwd f (seen view z) ∧ Found (seen view y) r (seen view z) := by
  have stirs := stirs_others sole y
  refine Ends.of_result (take_apply sole y) ⟨orderly_of_stirs stirs o.drain, ?_⟩
  obtain ⟨same, burst, landed, grown⟩ := untaken_of_stirs stirs
  rw [Desk.marks_drain, List.append_assoc, List.singleton_append] at grown
  cases found : (Mailboxed.mailbox y).pending with
  | none => exact ⟨same, grown ▸ List.prefix_append _ _⟩
  | some path =>
    have earliest := (pending_eq sole o).symm.trans found
    exact ⟨same, _, burst, List.prefix_rfl, earliest, landed, grown⟩

/-- The second place where the mailbox is emptied: the trigger stands for all that has landed. -/
theorem fire_given {x : Watcher T O × Desk} {path : String} {y : Watcher T O × σ}
    (o : Orderly cwd f (seen view y)) (taken : Taken x path (seen view y)) :
    Ends (fire h path) y fun r z => r = .done (some ⟨x.1.seq + 1⟩) ∧
      Orderly cwd f (seen view z) ∧ Given x ⟨x.1.seq + 1⟩ (seen view z) ∧
      ∃ after, (seen view z).2.marks = (seen view y).2.marks ++ .emptied :: after ++
        [.said (triggerRecord path (x.1.seq + 1))] := by
  have stirs := stirs_others sole y
  generalize others : (h.others (Mailboxed.update .drain y)).2 = z at stirs
  have orderly : Orderly cwd f (z.1, view z.2) := orderly_of_stirs stirs o.drain
  obtain ⟨same, after, finished, grown⟩ := untaken_of_stirs stirs
  rw [Desk.marks_drain, List.append_assoc, List.singleton_append] at grown
  obtain ⟨before, burst, kept, earliest, landed, marks⟩ := taken.account
  have watcher : x.1.AsBefore z.1 := taken.same.trans same
  have number : z.1.seq + 1 = x.1.seq + 1 := congrArg (· + 1) watcher.seq
  -- since the change was taken nobody has counted
  have left : fire h path y = (.done (some ⟨x.1.seq + 1⟩),
      Log.Logbook.note (triggerRecord path (x.1.seq + 1)) ({ z.1 with seq := x.1.seq + 1 }, z.2)) := by
    rw [fire_apply sole path others, number]
  refine Ends.of_result left ⟨rfl, ?_⟩
  rw [seen_note sole]
  have said := orderly.say (triggerRecord path (x.1.seq + 1))
  have told : (view z.2).marks ++ [.said (triggerRecord path (x.1.seq + 1))] =
      (view y.2).marks ++ .emptied :: after ++ [.said (triggerRecord path (x.1.seq + 1))] :=
    congrArg (· ++ _) grown
  have account : (view y.2).marks = before ++ .emptied :: burst := marks
  exact ⟨⟨said.pending, said.recorded⟩, ⟨rfl, watcher.count _, before, burst, after, path, kept,
    account ▸ told, earliest, landed, finished⟩, after, told⟩

variable [LT T] [DecidableLT T] [Zero T]

/-- Nothing is taken before the mailbox is looked into. -/
theorem collect_found (timeout : Option T) {y : Watcher T O × σ} (o : Orderly cwd f (seen view y)) :
    Ends (collect h cwd timeout) y fun r z =>
      Orderly cwd f (seen view z) ∧ Found (seen view y) r (seen view z) := by
  have halted (z : Watcher T O × σ) := withheld_of_stirs (y := seen view z) o
  refine ((ensureAlive_drifts sole).ends y).bind (fun _ z stirs => ?_) (fun _ => halted) halted
  split
  · exact halted z stirs
  · have awaited := ((sole.await timeout).ends z).mono fun _ _ more => stirs.trans more
    refine awaited.bind (fun _ z stirs => ?_) (fun _ => halted) halted
    obtain ⟨orderly, withheld⟩ := halted z stirs
    exact (take_found sole orderly).mono fun _ _ found => ⟨found.1, found.2.after withheld⟩

/-- **How a wait ends.** -/
theorem wait_answered (timeout : Option T) {y : Watcher T O × σ} (o : Orderly cwd f (seen view y)) :
    Ends (wait h cwd timeout) y fun r z =>
      Orderly cwd f (seen view z) ∧ Answered (seen view y) r (seen view z) := by
  refine (collect_found sole timeout o).bind ?_ (fun _ _ ended => ended) fun _ ended => ended
  intro found z ended
  obtain ⟨orderly, taken⟩ := ended
  cases found with
  | none => exact ⟨orderly, taken⟩
  | some path =>
    have landed (u : Watcher T O × σ)
        (stirs : ReflTransGen (Stirs cwd f) (seen view z) (seen view u)) :
        Orderly cwd f (seen view u) ∧ Taken (seen view y) path (seen view u) :=
      ⟨orderly_of_stirs stirs orderly, Taken.of_untaken taken (untaken_of_stirs stirs)⟩
    have halted (u : Watcher T O × σ)
        (stirs : ReflTransGen (Stirs cwd f) (seen view z) (seen view u)) :
        Orderly cwd f (seen view u) ∧ Withheld (seen view y) (seen view u) :=
      ⟨(landed u stirs).1, (landed u stirs).2.withheld⟩
    refine ((settle_drifts sole).ends z).bind (fun stopped u stirs => ?_) (fun _ => halted) halted
    cases stopped with
    | true => exact halted u stirs
    | false =>
      refine (fire_given sole (landed u stirs).1 (landed u stirs).2).mono ?_
      rintro _ v ⟨rfl, orderly, given, -⟩
      exact ⟨orderly, given⟩

/-- An iterator waits until a wait gives a trigger. -/
theorem next_answered (poll : T) (patience : Nat) {y : Watcher T O × σ}
    (o : Orderly cwd f (seen view y)) :
    Ends (next h cwd poll patience) y fun r z =>
      Orderly cwd f (seen view z) ∧ Answered (seen view y) r (seen view z) := by
  have idle : Withheld (seen view y) (seen view y) := (Untaken.refl _).withheld
  induction patience generalizing y with
  | zero => exact ⟨o, idle⟩
  | succ patience ih =>
    refine Ends.of_read ?_
    split
    · exact ⟨o, idle⟩
    · refine (wait_answered sole (some poll) o).bind ?_ (fun _ _ ended => ended) fun _ ended => ended
      intro answer z ended
      obtain ⟨orderly, answered⟩ := ended
      cases answer with
      | some t => exact ⟨orderly, answered⟩
      | none =>
        refine (ih orderly (Untaken.refl _).withheld).mono fun _ _ ended => ?_
        exact ⟨ended.1, ended.2.after answered⟩

end Steps

/-! ## 3. Runs -/

/-- What the consumer can ask for. -/
inductive Request (T : Type) where
  | start
  | stop
  | wait (timeout : Option T)
  | next (poll : T) (patience : Nat)
  deriving DecidableEq, Repr

section Requests

variable [LT T] [DecidableLT T] [Zero T]

/-- What a request does. -/
def perform (h : Host T O σ) (cwd : Path) :
    Request T → Action (Watcher T O × σ) (Option Trigger)
  | .start => do
    start h cwd
    pure none
  | .stop => do
    stop h
    pure none
  | .wait timeout => wait h cwd timeout
  | .next poll patience => next h cwd poll patience

/-- The trigger that a request has handed out, if any. -/
def handed (view : σ → Desk) : Outcome (Option Trigger) × Watcher T O × σ → List Handout
  | (.done (some t), y) => [(t, (view y.2).marks)]
  | _ => []

/-- A run from a state on: the consumer asks for one thing after the other, and others act in between.
    What has been handed out is told with it. -/
inductive Run (h : Host T O σ) (cwd : Path) (f : Filter) (view : σ → Desk) (x : Watcher T O × σ) :
    List Handout → Watcher T O × σ → Prop
  | begun : Run h cwd f view x [] x
  | meanwhile {given y z} (run : Run h cwd f view x given y)
      (stirs : ReflTransGen (Stirs cwd f) (seen view y) (seen view z)) : Run h cwd f view x given z
  | asked {given y} (run : Run h cwd f view x given y) (r : Request T) :
      Run h cwd f view x (given ++ handed view (perform h cwd r y)) (perform h cwd r y).2

include sole in
/-- **How a request ends.** -/
theorem perform_answered (r : Request T) {y : Watcher T O × σ} (o : Orderly cwd f (seen view y)) :
    Ends (perform h cwd r) y fun r z =>
      Orderly cwd f (seen view z) ∧ Answered (seen view y) r (seen view z) := by
  have nothing {x : Action (Watcher T O × σ) Unit} (hx : Drifts (Stirs cwd f) (seen view) x) :
      Ends (x >>= fun _ => pure none) y fun r z =>
        Orderly cwd f (seen view z) ∧ Answered (seen view y) r (seen view z) := by
    have halted (z : Watcher T O × σ) := withheld_of_stirs (y := seen view z) o
    exact (hx.ends y).bind (fun _ => halted) (fun _ => halted) halted
  cases r with
  | start => exact nothing (start_drifts sole)
  | stop => exact nothing (stop_drifts sole)
  | wait timeout => exact wait_answered sole timeout o
  | next poll patience => exact next_answered sole poll patience o

end Requests
/-! ## 4. The guarantee -/

/-- What is true of a run from a state to another. -/
structure Tally (cwd : Path) (f : Filter) (x : Watcher T O × Desk) (given : List Handout)
    (y : Watcher T O × Desk) : Prop where
  orderly : Orderly cwd f y
  same : AsBefore { x.1 with seq := y.1.seq } y.1
  counted : y.1.seq = x.1.seq + given.length
  numbered : given.map (fun g => g.1.seq) = List.range' (x.1.seq + 1) given.length
  accounts : ∀ g ∈ given, ∃ before burst after path, Account g.1 g.2 before burst after path
  renewed : given.IsChain fun g g' => Renewed g.2 g'.2
  grown : x.2.marks <+: y.2.marks
  within : ∀ g ∈ given, g.2 <+: y.2.marks
  came : ∀ g ∈ given, ∀ kept since, x.2.marks = kept ++ .emptied :: since →
    ∃ since' path, g.2 = kept ++ .emptied :: since' ∧ .came path ∈ since'

namespace Tally

variable {x y z : Watcher T O × Desk} {given : List Handout}

theorem begun (o : Orderly cwd f x) : Tally cwd f x [] x where
  orderly := o
  same := rfl
  counted := rfl
  numbered := rfl
  accounts _ hg := nomatch hg
  renewed := .nil
  grown := List.prefix_rfl
  within _ hg := nomatch hg
  came _ hg := nomatch hg

theorem withheld (h : Tally cwd f x given y) (o : Orderly cwd f z) (hz : Withheld y z) :
    Tally cwd f x given z where
  orderly := o
  same := by
    rw [hz.same.seq]
    exact h.same.trans hz.same
  counted := hz.same.seq.trans h.counted
  numbered := h.numbered
  accounts := h.accounts
  renewed := h.renewed
  grown := h.grown.trans hz.grown
  within g hg := (h.within g hg).trans hz.grown
  came := h.came

theorem handedOut {t : Trigger} (h : Tally cwd f x given y) (o : Orderly cwd f z)
    (hz : Given y t z) : Tally cwd f x (given ++ [(t, z.2.marks)]) z := by
  have seq : z.1.seq = t.seq := hz.same.seq
  have number : t.seq = x.1.seq + 1 + given.length := by
    rw [hz.number, h.counted]
    omega
  obtain ⟨before, burst, after, path, kept, account⟩ := hz.account
  have grown : y.2.marks <+: z.2.marks := by
    rw [account.marks, List.append_assoc, List.append_assoc]
    exact kept.trans (List.prefix_append _ _)
  refine ⟨o, ?_, ?_, ?_, ?_, ?_, h.grown.trans grown, ?_, ?_⟩
  · rw [seq]
    exact (h.same.count t.seq).trans hz.same
  · rw [seq, number, List.length_append, List.length_singleton]
    omega
  · rw [List.map_append, h.numbered, List.length_append, List.length_singleton, List.range'_concat,
      Nat.one_mul]
    exact congrArg (_ ++ [·]) number
  · intro g hg
    rcases List.mem_append.1 hg with hg | hg
    · exact h.accounts g hg
    · obtain rfl := List.mem_singleton.1 hg
      exact ⟨before, burst, after, path, account⟩
  · rw [List.isChain_append]
    refine ⟨h.renewed, .singleton _, fun g last g' next => ?_⟩
    -- only the last one so far has the new one behind it
    obtain rfl : (t, z.2.marks) = g' := Option.some.inj next
    have hg : g ∈ given := List.mem_of_getLast? last
    obtain ⟨_, _, _, _, earlier⟩ := h.accounts g hg
    exact hz.renewed earlier (h.within g hg)
  · intro g hg
    rcases List.mem_append.1 hg with hg | hg
    · exact (h.within g hg).trans grown
    · obtain rfl := List.mem_singleton.1 hg
      exact List.prefix_rfl
  · intro g hg kept since emptied
    rcases List.mem_append.1 hg with hg | hg
    · exact h.came g hg kept since emptied
    · obtain rfl := List.mem_singleton.1 hg
      obtain ⟨more, more_eq⟩ := h.grown
      rw [emptied, List.append_assoc, List.cons_append] at more_eq
      exact hz.came more_eq.symm

end Tally

section Guarantee

variable [LT T] [DecidableLT T] [Zero T]

include sole in
theorem tally_of_run {x y : Watcher T O × σ} {given : List Handout} (o : Orderly cwd f (seen view x))
    (run : Run h cwd f view x given y) : Tally cwd f (seen view x) given (seen view y) := by
  induction run with
  | begun => exact .begun o
  | meanwhile run stirs ih =>
    obtain ⟨orderly, withheld⟩ := withheld_of_stirs ih.orderly stirs
    exact ih.withheld orderly withheld
  | @asked given y run r ih =>
    have ended := perform_answered sole r ih.orderly
    unfold Ends at ended
    revert ended
    rcases perform h cwd r y with ⟨(_ | t) | e | _, z⟩
    · exact fun ended => (List.append_nil given).symm ▸ ih.withheld ended.1 ended.2
    · exact fun ended => ih.handedOut ended.1 ended.2
    · exact fun ended => (List.append_nil given).symm ▸ ih.withheld ended.1 ended.2
    · exact fun ended => (List.append_nil given).symm ▸ ih.withheld ended.1 ended.2

/-- A wait in which a change came in time, and in which the burst has landed with no stop. -/
structure Landed (h : Host T O σ) (cwd : Path) (view : σ → Desk) (timeout : Option T)
    (x : Watcher T O × σ) (path : String) (z : Watcher T O × σ) : Prop where
  timely : timeout.any (· < 0) = false
  came : ∃ y u, ensureAlive h cwd x = (.done (), y) ∧ h.await timeout y = (.done (), u) ∧
    (unanswered (view u.2).marks).head? = some path ∧ settle h (take h u).2 = (.done false, z)

include sole in
/-- Such a wait takes the change and hands out a trigger for it. -/
theorem Landed.fired {x z : Watcher T O × σ} {timeout : Option T} {path : String}
    (o : Orderly cwd f (seen view x)) (landed : Landed h cwd view timeout x path z) :
    Orderly cwd f (seen view z) ∧ Taken (seen view x) path (seen view z) ∧
      wait h cwd timeout x = fire h path z := by
  obtain ⟨timely, y, u, looked, waited, came, settled⟩ := landed
  have stirs : ReflTransGen (Stirs cwd f) (seen view x) (seen view u) :=
    (((ensureAlive_drifts sole).ends x).result looked).trans
      (((sole.await timeout).ends y).result waited)
  have found : (take h u).1 = .done (some path) := by
    rw [take_apply sole, pending_eq sole (orderly_of_stirs stirs o), came]
  rcases taken : take h u with ⟨r, v⟩
  rw [taken] at found settled
  obtain rfl : r = .done (some path) := found
  have collected : collect h cwd timeout x = (.done (some path), v) := by
    simp [collect, Action.after, looked, timely, waited, taken]
  obtain ⟨orderly, taken⟩ := (collect_found sole timeout o).result collected
  have burst : ReflTransGen (Stirs cwd f) (seen view v) (seen view z) :=
    ((settle_drifts sole).ends v).result settled
  refine ⟨orderly_of_stirs burst orderly, Taken.of_untaken taken (untaken_of_stirs burst), ?_⟩
  simp [wait, Action.after, collected, settled]

include sole in
/-- A burst makes one trigger, and there is no other one before something comes after it. -/
theorem wait_of_landed {x z : Watcher T O × σ} (o : Orderly cwd f (seen view x))
    {timeout : Option T} {path : String} (landed : Landed h cwd view timeout x path z) :
    (wait h cwd timeout x).1 = .done (some ⟨x.1.seq + 1⟩) ∧
      (view (wait h cwd timeout x).2.2).marks.getLast? =
        some (.said (triggerRecord path (x.1.seq + 1))) ∧
      ∀ later x', Run h cwd f view (wait h cwd timeout x).2 later x' →
        (∀ p, .came p ∉ (view x'.2).marks.drop (view z.2).marks.length) → later = [] := by
  obtain ⟨orderly, taken, fired⟩ := landed.fired sole o
  obtain ⟨answer, orderly, -, after, told⟩ := fire_given sole orderly taken
  rw [← fired] at answer orderly told
  refine ⟨answer, ?_, fun later x' run quiet => List.eq_nil_iff_forall_not_mem.2 fun g hg => ?_⟩
  · show (seen view (wait h cwd timeout x).2).2.marks.getLast? = _
    rw [told, List.getLast?_concat]
    rfl
  · have tally := tally_of_run sole orderly run
    rw [List.append_assoc, List.cons_append] at told
    obtain ⟨since, path', marks, came⟩ := tally.came g hg _ _ told
    obtain ⟨more, grown⟩ := tally.within g hg
    have grown : (view z.2).marks ++ .emptied :: since ++ more = (view x'.2).marks := marks ▸ grown
    refine quiet path' ?_
    rw [← grown, List.append_assoc, List.drop_left]
    exact List.mem_append_left _ (List.mem_cons_of_mem _ came)

/-- **Triggers are numbered, and each is there for a change.** In every run of a watcher that nobody
    has used before, with whatever the consumer asks for and whatever others do:

    * the triggers carry the numbers 1, 2, 3, ...;
    * each of them is there for the earliest change since the mailbox was last emptied, and that is
      the one that the log names;
    * between two of them a change has come, after the mailbox was emptied for the first one;
    * a change is a reported event or an observer that was replaced;
    * a wait in which a change came, and in which the burst has landed, hands out one trigger and
      names the earliest change, and there is no other trigger before something comes. -/
theorem triggers_justified {x₀ x : Watcher T O × σ} {given : List Handout}
    (sole : SoleTaker h cwd (x₀.1.filter cwd) view) (fresh : x₀.1.seq = 0)
    (blank : view x₀.2 = ⟨.empty, []⟩) (run : Run h cwd (x₀.1.filter cwd) view x₀ given x) :
    given.map (fun g => g.1.seq) = List.range' 1 given.length ∧
    (∀ g ∈ given, ∃ before burst after path, Account g.1 g.2 before burst after path) ∧
    (given.IsChain fun g g' => Renewed g.2 g'.2) ∧
    (∀ p, .came p ∈ (view x.2).marks → Recorded cwd (x₀.1.filter cwd) x₀.1 p) ∧
    (∀ timeout path z, Landed h cwd view timeout x path z →
      (wait h cwd timeout x).1 = .done (some ⟨given.length + 1⟩) ∧
        (view (wait h cwd timeout x).2.2).marks.getLast? =
          some (.said (triggerRecord path (given.length + 1))) ∧
        ∀ later x', Run h cwd (x₀.1.filter cwd) view (wait h cwd timeout x).2 later x' →
          (∀ p, .came p ∉ (view x'.2).marks.drop (view z.2).marks.length) → later = []) := by
  have o : Orderly cwd (x₀.1.filter cwd) (seen view x₀) := by
    have desk : seen view x₀ = (x₀.1, ⟨.empty, []⟩) := by rw [seen, blank]
    rw [desk]
    exact ⟨rfl, fun _ hp => absurd hp List.not_mem_nil⟩
  have tally := tally_of_run sole o run
  have counted : x.1.seq = given.length := by
    have counted : x.1.seq = x₀.1.seq + given.length := tally.counted
    rw [counted, fresh, Nat.zero_add]
  have numbered : given.map (fun g => g.1.seq) = List.range' (x₀.1.seq + 1) given.length :=
    tally.numbered
  rw [fresh] at numbered
  refine ⟨numbered, tally.accounts, tally.renewed, fun p hp => ?_, ?_⟩
  · have texts : x.1.directoryTexts = x₀.1.directoryTexts := tally.same.directoryTexts
    refine (tally.orderly.recorded p hp).imp_right fun first => ?_
    rw [← texts]
    exact first
  · intro timeout path z landed
    rw [← counted]
    exact wait_of_landed sole tally.orderly landed

end Guarantee

/-! ## 5. A run in a booth -/

section Course

variable [LT T] [DecidableLT T] [Zero T]

/-- What one request after the other hands out, and where it ends. -/
def course (h : Host T O σ) (cwd : Path) (view : σ → Desk) (rs : List (Request T))
    (x : Watcher T O × σ) : List Handout × Watcher T O × σ :=
  rs.foldl (fun a r => (a.1 ++ handed view (perform h cwd r a.2), (perform h cwd r a.2).2)) ([], x)

theorem run_course (h : Host T O σ) (cwd : Path) (f : Filter) (view : σ → Desk)
    (rs : List (Request T)) (x : Watcher T O × σ) :
    Run h cwd f view x (course h cwd view rs x).1 (course h cwd view rs x).2 := by
  unfold course
  induction rs using List.reverseRecOn with
  | nil => exact .begun
  | append_singleton rs r ih =>
    rw [List.foldl_append]
    exact .asked ih r

end Course

/-- What is asked for on a day in a booth. -/
def visits : List (Request Seconds) :=
  [.start, .wait (some (.whole 1)), .wait (some (.whole 1)), .start, .wait none, .next (.whole 1) 3]

open Booth (root sentry day opened host) in
/-- What is handed out on that day. -/
def dayHandouts : List Handout :=
  (course (host root (sentry.filter root)) root Booth.desk visits (sentry, opened day)).1

open Booth (root sentry day opened host) in
/-- A burst makes one trigger, a change that was given up makes none and takes no number, and the
    replacement of the observer makes the next. -/
theorem triggers_justified_day :
    (dayHandouts.map fun g => g.2.getLast?) =
      [some (.said (triggerRecord "/a/b" 1)), some (.said (triggerRecord "/a" 2))] ∧
    dayHandouts.map (fun g => g.1.seq) = [1, 2] ∧
    (∀ g ∈ dayHandouts, ∃ before burst after path, Account g.1 g.2 before burst after path) ∧
    dayHandouts.IsChain fun g g' => Renewed g.2 g'.2 := by
  have lasts : (dayHandouts.map fun g => g.2.getLast?) =
      [some (.said (triggerRecord "/a/b" 1)), some (.said (triggerRecord "/a" 2))] := by
    decide +kernel
  have length : dayHandouts.length = 2 := by
    have two := congrArg List.length lasts
    rwa [List.length_map] at two
  have run := run_course (host root (sentry.filter root)) root (sentry.filter root) Booth.desk
    visits (sentry, opened day)
  have fresh : (sentry, opened day).1.seq = 0 := rfl
  have sole : SoleTaker (host root (sentry.filter root)) root
      ((sentry, opened day).1.filter root) Booth.desk := Booth.soleTaker_host root _
  obtain ⟨numbered, accounts, renewed, -⟩ := triggers_justified sole fresh rfl run
  refine ⟨lasts, ?_, accounts, renewed⟩
  exact numbered.trans (congrArg (List.range' 1) length)

end Watcher
end Respawn.Watch
