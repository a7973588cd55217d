import Respawn.Proofs.Watch.Numbering

/-!
# What a stop shuts

A stop marks the watcher as stopped, and leaves what is pending in the mailbox. The mark is looked at
in two places: an iterator sees it before every wait, and a wait sees it when a burst has landed. So a
watcher that gives a burst no time does not see it in a wait, and hands out a trigger for what is
pending.

* `Sign`, `Stopped`: the calls of a watcher, and that the last of them was a stop;
* `Gated`: a host that leaves the emptying of the mailbox to the watcher;
* `wait_heeds`: when a wait that gives a burst some time hands out a trigger;
* **`stop_shuts`**: what a stopped watcher hands out.
-/

namespace Respawn.Watch

open Respawn.Action (Drifts Ends)
open Relation (ReflTransGen)

variable {T O σ : Type}

/-! ## 1. Calls -/

/-- That a watcher is stopped or resumes, and that its mailbox is emptied. -/
inductive Sign where
  | stopped
  | resumed
  | emptied
  deriving DecidableEq, Repr

/-- The last call was a stop. -/
def Stopped (signs : List Sign) : Prop :=
  (signs.filter (· ≠ .emptied)).getLast? = some .stopped

instance (signs : List Sign) : Decidable (Stopped signs) := inferInstanceAs (Decidable (_ = _))

section Signs

variable {signs more : List Sign}

theorem stopped_stopped : Stopped (signs ++ [.stopped]) := by simp [Stopped]

theorem not_stopped_resumed : ¬ Stopped (signs ++ [.resumed]) := by simp [Stopped]

theorem stopped_emptied : Stopped (signs ++ [.emptied]) ↔ Stopped signs := by simp [Stopped]

/-- Unless it resumes, a watcher stays stopped. -/
theorem Stopped.append (h : Stopped signs) (still : .resumed ∉ more) : Stopped (signs ++ more) := by
  induction more using List.reverseRecOn with
  | nil => rwa [List.append_nil]
  | append_singleton more sign ih =>
    rw [List.mem_append, List.mem_singleton, not_or] at still
    rw [← List.append_assoc]
    cases sign with
    | stopped => exact stopped_stopped
    | resumed => exact absurd rfl still.2
    | emptied => exact stopped_emptied.2 (ih still.1)

end Signs

/-! ## 2. Gates -/

/-- A mailbox, and what is told of it. -/
structure Gate where
  mailbox : Mailbox
  signs : List Sign
  deriving DecidableEq, Repr

/-- What is told of an update of the mailbox: that it sets the mark or takes it away, or else that it
    leaves nothing pending. -/
def heard (f : Mailbox → Mailbox) : List Sign :=
  -- an update is a function, so it is told by what it makes of an empty, a stopped and a full mailbox
  if (f .empty).stopped then [.stopped]
  else if (f (.stop .empty)).stopped then
    if (f (.post "" .empty)).pending = none then [.emptied] else []
  else [.resumed]

namespace Gate

def mail (f : Mailbox → Mailbox) (g : Gate) : Gate := ⟨f g.mailbox, g.signs ++ heard f⟩

variable (g : Gate)

@[simp] theorem signs_post (p : String) : (g.mail (.post p)).signs = g.signs := List.append_nil _

@[simp] theorem signs_drain : (g.mail .drain).signs = g.signs ++ [.emptied] := rfl

@[simp] theorem signs_stop : (g.mail .stop).signs = g.signs ++ [.stopped] := rfl

@[simp] theorem signs_resume : (g.mail .resume).signs = g.signs ++ [.resumed] := rfl

/-- The mark is set exactly if the last call was a stop. -/
def Honest : Prop := g.mailbox.stopped = true ↔ Stopped g.signs

end Gate

/-- What others do: they record a change, they stop the watcher or start it. -/
inductive Nearby : Gate → Gate → Prop
  | posted {g} (path : String) : Nearby g (g.mail (.post path))
  | stopped {g} : Nearby g (g.mail .stop)
  | resumed {g} : Nearby g (g.mail .resume)

/-- What happens to a watcher and its gate: others act, another observer is held, the mailbox is
    emptied, or a trigger is counted. -/
inductive Turns : Watcher T O × Gate → Watcher T O × Gate → Prop
  | sways {x y} (h : Sways Nearby x y) : Turns x y
  | emptied {w g} : Turns (w, g) (w, g.mail .drain)
  | counted {w g} (n : Nat) : Turns (w, g) ({ w with seq := n }, g)

section Turning

variable {x y z : Watcher T O × Gate}

theorem Nearby.honest {g g' : Gate} (h : Nearby g g') (honest : g.Honest) : g'.Honest := by
  unfold Gate.Honest at honest ⊢
  cases h with
  | posted path =>
    rw [Gate.signs_post]
    exact honest
  | stopped => exact iff_of_true rfl stopped_stopped
  | resumed => exact iff_of_false Bool.false_ne_true not_stopped_resumed

/-- What turning keeps: the time that a burst is given, and that the mark is honest. What was told
    stays told. -/
structure Goes (x y : Watcher T O × Gate) : Prop where
  debounce : y.1.debounce = x.1.debounce
  honest : x.2.Honest → y.2.Honest
  grown : x.2.signs <+: y.2.signs

theorem Goes.refl (x : Watcher T O × Gate) : Goes x x := ⟨rfl, id, List.prefix_rfl⟩

theorem Goes.trans (h : Goes x y) (h' : Goes y z) : Goes x z :=
  ⟨h'.debounce.trans h.debounce, fun honest => h'.honest (h.honest honest), h.grown.trans h'.grown⟩

/-- Where others act the mailbox is not emptied. -/
theorem grown_of_sways (h : Sways Nearby x y) :
    ∃ new, .emptied ∉ new ∧ y.2.signs = x.2.signs ++ new := by
  cases h with
  | near h =>
    cases h with
    | posted path => exact ⟨[], List.not_mem_nil, by simp⟩
    | stopped => exact ⟨[.stopped], by simp, by simp⟩
    | resumed => exact ⟨[.resumed], by simp, by simp⟩
  | held o => exact ⟨[], List.not_mem_nil, by simp⟩

theorem Turns.goes (h : Turns x y) : Goes x y := by
  cases h with
  | sways h =>
    obtain ⟨new, -, grown⟩ := grown_of_sways h
    refine ⟨?_, ?_, grown ▸ List.prefix_append _ _⟩
    · cases h <;> rfl
    · cases h with
      | near h => exact h.honest
      | held o => exact id
  | @emptied w g =>
    refine ⟨rfl, fun honest => ?_, List.prefix_append _ _⟩
    unfold Gate.Honest at honest ⊢
    rw [Gate.signs_drain, stopped_emptied]
    exact honest
  | counted n => exact ⟨rfl, id, List.prefix_rfl⟩

theorem goes_of_turns (h : ReflTransGen Turns x y) : Goes x y := by
  induction h with
  | refl => exact .refl x
  | tail _ h ih => exact ih.trans h.goes

theorem goes_of_sways (h : ReflTransGen (Sways Nearby) x y) : Goes x y :=
  goes_of_turns (ReflTransGen.mono (fun _ _ => .sways) _ _ h)

theorem unemptied_of_sways (h : ReflTransGen (Sways Nearby) x y) :
    ∃ new, .emptied ∉ new ∧ y.2.signs = x.2.signs ++ new := by
  induction h with
  | refl => exact ⟨[], List.not_mem_nil, (List.append_nil _).symm⟩
  | tail _ h ih =>
    obtain ⟨new, kept, grown⟩ := ih
    obtain ⟨more, kept', grown'⟩ := grown_of_sways h
    refine ⟨new ++ more, ?_, by rw [grown', grown, List.append_assoc]⟩
    rw [List.mem_append, not_or]
    exact ⟨kept, kept'⟩

end Turning

/-! ## 3. Waits -/

variable [Mailboxed σ] [Log.Logbook σ]

/-- A host that leaves it to the watcher to empty the mailbox. Others act during every request, and a
    request may fail at any time; the others never fail the watcher by themselves. -/
structure Gated (h : Host T O σ) (view : σ → Gate) : Prop where
  mailbox (s) : (view s).mailbox = Mailboxed.mailbox s
  update (f s) : view (Mailboxed.update f s) = (view s).mail f
  note (r s) : view (Log.Logbook.note r s) = view s
  present (p) : Drifts Nearby view (h.present p)
  build : Drifts Nearby view h.build
  schedule (o f d) : Drifts Nearby view (h.schedule o f d)
  start (o) : Drifts Nearby view (h.start o)
  stop (o) : Drifts Nearby view (h.stop o)
  alive (o) : Drifts Nearby view (h.alive o)
  join (o limit) : Drifts Nearby view (h.join o limit)
  await (timeout) : Drifts (Sways Nearby) (beside view) (h.await timeout)
  pause (time) : Drifts (Sways Nearby) (beside view) (h.pause time)
  /-- Only while the watcher is not stopped is it said that nobody stopped it. -/
  landed (time y) : Ends (h.pause time) y fun r z =>
    r = .done false → (Mailboxed.mailbox z).stopped = false
  others : Drifts (Sways Nearby) (beside view) h.others
  others_done (y) : (h.others y).1 = .done ()

/-- When the mailbox was emptied the last time, the watcher was not stopped. -/
def Unstopped (signs : List Sign) : Prop :=
  ∃ early late, signs = early ++ .emptied :: late ∧ .emptied ∉ late ∧ ¬ Stopped early

/-- Since then the mailbox was emptied, and the watcher was not stopped the last time it was. -/
def Opened (x y : Watcher T O × Gate) : Prop :=
  ∃ early late, x.2.signs <+: early ∧ y.2.signs = early ++ .emptied :: late ∧
    .emptied ∉ late ∧ ¬ Stopped early

/-- How a request ends that heeds the mark: what it keeps, and that a trigger was handed out while the
    watcher was not stopped, if a burst is given some time. -/
structure Heeds [LT T] [Zero T] (x : Watcher T O × Gate) (r : Outcome (Option Trigger))
    (y : Watcher T O × Gate) : Prop where
  goes : Goes x y
  opened : 0 < x.1.debounce → ∀ t, r = .done (some t) → Opened x y

section Opening

omit [Mailboxed σ] [Log.Logbook σ]

variable {x y z : Watcher T O × Gate}

theorem Opened.unstopped (opened : Opened x y) : Unstopped y.2.signs := by
  obtain ⟨early, late, -, told⟩ := opened
  exact ⟨early, late, told⟩

/-- That takes a start, if the watcher was stopped before. -/
theorem Opened.resumed (opened : Opened x y) (stop : Stopped x.2.signs) {new : List Sign}
    (grown : y.2.signs = x.2.signs ++ new) : .resumed ∈ new := by
  obtain ⟨early, late, ⟨more, rfl⟩, told, -, unstopped⟩ := opened
  by_contra still
  have after : new = more ++ .emptied :: late := by
    rw [grown, List.append_assoc] at told
    exact List.append_cancel_left told
  refine unstopped (stop.append fun resumed => still ?_)
  rw [after]
  exact List.mem_append_left _ resumed

theorem Goes.opened (goes : Goes x y) (opened : Opened y z) : Opened x z := by
  obtain ⟨early, late, grown, told⟩ := opened
  exact ⟨early, late, goes.grown.trans grown, told⟩

variable [LT T] [Zero T] {r : Outcome (Option Trigger)}

/-- Where no trigger is handed out, nothing is to be heeded. -/
theorem Goes.heeds (goes : Goes x y) (none : ∀ t, r ≠ .done (some t)) : Heeds x r y :=
  ⟨goes, fun _ t given => absurd given (none t)⟩

theorem Heeds.after (heeds : Heeds y r z) (goes : Goes x y) : Heeds x r z := by
  refine ⟨goes.trans heeds.goes, fun time t given => goes.opened (heeds.opened ?_ t given)⟩
  rwa [goes.debounce]

end Opening

namespace Watcher

variable {h : Host T O σ} {cwd : Path} {view : σ → Gate}

omit [Mailboxed σ] [Log.Logbook σ] in
theorem turns_of_sways {α : Type} {x : Action (Watcher T O × σ) α}
    (hx : Drifts (Sways Nearby) (beside view) x) : Drifts Turns (beside view) x :=
  hx.mono fun _ _ => .sways

section Steps

variable (gated : Gated h view)
include gated

theorem tends_of_gated : Tends Nearby h view where
  present := gated.present
  build := gated.build
  schedule := gated.schedule
  start := gated.start
  stop := gated.stop
  alive := gated.alive
  join := gated.join
  resume s := by
    rw [gated.update]
    exact .resumed
  halt s := by
    rw [gated.update]
    exact .stopped
  note r s := by rw [gated.note]

theorem beside_update (f : Mailbox → Mailbox) (y : Watcher T O × σ) :
    beside view (Mailboxed.update f y) = (y.1, (view y.2).mail f) := by
  show (y.1, view (Mailboxed.update f y.2)) = _
  rw [gated.update]

theorem drain_turns :
    Drifts Turns (beside view) (mail .drain : Action (Watcher T O × σ) Unit) := by
  refine .of_move fun y => ?_
  show Turns (beside view y) (beside view (Mailboxed.update .drain y))
  rw [beside_update gated]
  exact .emptied

theorem take_turns : Drifts Turns (beside view) (take h) := by
  refine .bind (.read _) fun _ => (drain_turns gated).bind fun _ => ?_
  exact (turns_of_sways gated.others).bind fun _ => .pure _

theorem fire_turns (path : String) : Drifts Turns (beside view) (fire h path) := by
  refine (drain_turns gated).bind fun _ => (turns_of_sways gated.others).bind fun _ => ?_
  have counted : Drifts Turns (beside view)
      (change fun w => { w with seq := w.seq + 1 } : Action (Watcher T O × σ) Unit) :=
    .of_move fun y => .counted _
  refine counted.bind fun _ => .bind (.read _) fun w => ?_
  refine .bind (.of_eq fun y => ?_) fun _ => .pure _
  show (y.1, view (Log.Logbook.note _ y.2)) = (y.1, view y.2)
  rw [gated.note]

/-- The last thing that is told of a trigger is that the mailbox was emptied for it, apart from what
    others do. -/
theorem fire_told (path : String) (y : Watcher T O × σ) : Ends (fire h path) y fun r z =>
    (∃ t, r = .done (some t)) ∧
      ∃ late, .emptied ∉ late ∧ (view z.2).signs = (view y.2).signs ++ .emptied :: late := by
  have drained : beside view (Mailboxed.update .drain y) = (y.1, (view y.2).mail .drain) :=
    beside_update gated _ y
  have others := gated.others (Mailboxed.update .drain y)
  have done := gated.others_done (Mailboxed.update .drain y)
  refine Ends.of_modify ((Ends.here h.others _).bind (fun _ z came => ?_) (fun f z failed => ?_)
    fun z failed => ?_)
  · rw [came, drained] at others
    obtain ⟨late, kept, grown⟩ := unemptied_of_sways others
    refine Ends.of_modify (Ends.of_read (Ends.of_modify ⟨⟨_, rfl⟩, late, kept, ?_⟩))
    show (view (Log.Logbook.note _ z.2)).signs = _
    have grown : (view z.2).signs = ((view y.2).mail .drain).signs ++ late := grown
    rw [gated.note, grown, Gate.signs_drain, List.append_assoc, List.singleton_append]
  · rw [failed] at done
    cases done
  · rw [failed] at done
    cases done

variable [LT T] [DecidableLT T] [Zero T]

theorem collect_turns (timeout : Option T) : Drifts Turns (beside view) (collect h cwd timeout) := by
  have alive : Drifts Turns (beside view) (ensureAlive h cwd) := by
    refine turns_of_sways (ensureAlive_sways (tends_of_gated gated) (fun p s => ?_) cwd)
    rw [gated.update]
    exact .posted p
  refine alive.bind fun _ => ?_
  split
  · exact .raise _
  · exact (turns_of_sways (gated.await timeout)).bind fun _ => take_turns gated

theorem settle_sways : Drifts (Sways Nearby) (beside view) (settle h) := by
  refine .bind (.read _) fun w => ?_
  split
  · exact gated.pause _
  · exact .pure false

/-- A burst that was given some time has landed while the watcher was not stopped. -/
theorem settle_open (y : Watcher T O × σ) : Ends (settle h) y fun r z =>
    0 < y.1.debounce → r = .done false → (Mailboxed.mailbox z).stopped = false := by
  refine Ends.of_read ?_
  split
  · exact (gated.landed _ y).mono fun _ _ landed _ => landed
  · next none => exact fun time => absurd time none

omit gated [Mailboxed σ] [Log.Logbook σ] in
/-- A burst that is given no time has landed. -/
theorem settle_none {y : Watcher T O × σ} (none : ¬ 0 < y.1.debounce) :
    settle h y = (.done false, y) := by
  have read : settle h y = (if 0 < y.1.debounce then h.pause y.1.debounce else pure false :
      Action (Watcher T O × σ) Bool) y := rfl
  rw [read, if_neg none]
  rfl

omit gated in
/-- A wait hands out a trigger for a change that it took. -/
theorem taken_of_wait (timeout : Option T) {x : Watcher T O × σ} {t : Trigger}
    (given : (wait h cwd timeout x).1 = .done (some t)) :
    ∃ path, (collect h cwd timeout x).1 = .done (some path) := by
  have ended : Ends (wait h cwd timeout) x fun r _ => r = .done (some t) →
      ∃ path, (collect h cwd timeout x).1 = .done (some path) := by
    refine (Ends.here _ x).bind (fun found y collected => ?_) (fun _ _ _ => nofun) fun _ _ => nofun
    cases found with
    | none => exact nofun
    | some path => exact fun _ => ⟨path, congrArg Prod.fst collected⟩
  exact ended given

omit gated in
theorem wait_of_collected {timeout : Option T} {x y : Watcher T O × σ} {path : String}
    (collected : collect h cwd timeout x = (.done (some path), y)) (none : ¬ 0 < y.1.debounce) :
    wait h cwd timeout x = fire h path y := by
  simp [wait, Action.after, collected, settle_none none]

/-- **A wait that gives a burst some time hands out a trigger only while the watcher is not
    stopped.** -/
theorem wait_heeds (timeout : Option T) {y : Watcher T O × σ} (honest : (view y.2).Honest) :
    Ends (wait h cwd timeout) y fun r z => Heeds (beside view y) r (beside view z) := by
  refine ((collect_turns gated timeout).ends y).bind (fun found z turns => ?_)
    (fun _ _ turns => (goes_of_turns turns).heeds nofun) fun _ turns =>
      (goes_of_turns turns).heeds nofun
  have goes := goes_of_turns turns
  cases found with
  | none => exact goes.heeds nofun
  | some path =>
    refine (((settle_sways gated).ends z).and (settle_open gated z)).bind ?_
      (fun _ _ ended => (goes.trans (goes_of_sways ended.1)).heeds nofun) fun _ ended =>
        (goes.trans (goes_of_sways ended.1)).heeds nofun
    rintro stopped u ⟨sways, unstopped⟩
    have goes' := goes.trans (goes_of_sways sways)
    cases stopped with
    | true => exact goes'.heeds nofun
    | false =>
      refine (((fire_turns gated path).ends u).and (fire_told gated path u)).mono ?_
      rintro r v ⟨turns', -, late, kept, told⟩
      refine ⟨goes'.trans (goes_of_turns turns'), fun time t _ => ?_⟩
      have still : 0 < z.1.debounce := goes.debounce.symm ▸ time
      -- `early` ends where the burst has landed: there the mark was looked at, and it was not set
      refine ⟨(view u.2).signs, late, goes'.grown, told, kept, fun stop => ?_⟩
      have mark : (view u.2).mailbox.stopped = true := (goes'.honest honest).2 stop
      rw [gated.mailbox] at mark
      exact Bool.false_ne_true ((unstopped still rfl).symm.trans mark)

/-- An iterator goes by the waits that it makes. -/
theorem next_heeds (poll : T) (patience : Nat) {y : Watcher T O × σ} (honest : (view y.2).Honest) :
    Ends (next h cwd poll patience) y fun r z => Heeds (beside view y) r (beside view z) := by
  induction patience generalizing y with
  | zero => exact (Goes.refl _).heeds nofun
  | succ patience ih =>
    refine Ends.of_read ?_
    split
    · exact (Goes.refl _).heeds nofun
    · refine (wait_heeds gated (some poll) honest).bind (fun answer z heeds => ?_)
        (fun _ _ heeds => heeds.goes.heeds nofun) fun _ heeds => heeds.goes.heeds nofun
      cases answer with
      | some t => exact heeds
      | none => exact (ih (heeds.goes.honest honest)).mono fun _ _ later => later.after heeds.goes

/-- **How a request ends.** -/
theorem perform_heeds (cwd : Path) (r : Request T) {y : Watcher T O × σ}
    (honest : (view y.2).Honest) :
    Ends (perform h cwd r) y fun r z => Heeds (beside view y) r (beside view z) := by
  have nothing {x : Action (Watcher T O × σ) Unit} (hx : Drifts (Sways Nearby) (beside view) x) :
      Ends (do x; pure none : Action (Watcher T O × σ) (Option Trigger)) y fun r z =>
        Heeds (beside view y) r (beside view z) :=
    (hx.ends y).bind (fun _ _ sways => (goes_of_sways sways).heeds nofun)
      (fun _ _ sways => (goes_of_sways sways).heeds nofun) fun _ sways =>
        (goes_of_sways sways).heeds nofun
  cases r with
  | start => exact nothing (start_sways (tends_of_gated gated) cwd)
  | stop => exact nothing (stop_sways (tends_of_gated gated))
  | wait timeout => exact wait_heeds gated timeout honest
  | next poll patience => exact next_heeds gated poll patience honest

end Steps

/-! ## 4. Histories -/

section Histories

/-- The trigger that a request has handed out, if any, and what was told by then. -/
def handout (view : σ → Gate) : Outcome (Option Trigger) × Watcher T O × σ →
    List (Trigger × List Sign)
  | (.done (some t), y) => [(t, (view y.2).signs)]
  | _ => []

omit [Mailboxed σ] [Log.Logbook σ] in
theorem mem_handout {view : σ → Gate} {ended : Outcome (Option Trigger) × Watcher T O × σ}
    {g : Trigger × List Sign} (hg : g ∈ handout view ended) :
    ended.1 = .done (some g.1) ∧ g.2 = (view ended.2.2).signs := by
  obtain ⟨(_ | t) | f | _, y⟩ := ended <;> simp [handout] at hg
  exact hg ▸ ⟨rfl, rfl⟩

variable [LT T] [DecidableLT T] [Zero T]

/-- A history from a state on: one request after the other, with others at work in between, and what
    has been handed out. -/
inductive History (h : Host T O σ) (cwd : Path) (view : σ → Gate) (x : Watcher T O × σ) :
    List (Trigger × List Sign) → Watcher T O × σ → Prop
  | begun : History h cwd view x [] x
  | meanwhile {given y z} (past : History h cwd view x given y)
      (sways : ReflTransGen (Sways Nearby) (beside view y) (beside view z)) :
      History h cwd view x given z
  | asked {given y} (past : History h cwd view x given y) (r : Request T) :
      History h cwd view x (given ++ handout view (perform h cwd r y)) (perform h cwd r y).2

variable (gated : Gated h view)
include gated

/-- What is true of a whole history. -/
theorem opened_of_history {x₀ x : Watcher T O × σ} {given : List (Trigger × List Sign)}
    (honest : (view x₀.2).Honest) (past : History h cwd view x₀ given x) :
    Goes (beside view x₀) (beside view x) ∧
      (0 < x₀.1.debounce → ∀ g ∈ given, Unstopped g.2) := by
  induction past with
  | begun => exact ⟨.refl _, fun _ _ hg => absurd hg List.not_mem_nil⟩
  | meanwhile past sways ih =>
    exact ⟨ih.1.trans (goes_of_sways sways), ih.2⟩
  | @asked given y past r ih =>
    obtain ⟨goes, opened⟩ := ih
    have heeds : Heeds (beside view x₀) (perform h cwd r y).1 (beside view (perform h cwd r y).2) :=
      Heeds.after (perform_heeds gated cwd r (goes.honest honest)) goes
    refine ⟨heeds.goes, fun time g hg => ?_⟩
    obtain hg | hg := List.mem_append.1 hg
    · exact opened time g hg
    · obtain ⟨t, signs⟩ := mem_handout hg
      rw [signs]
      exact (heeds.opened time g.1 t).unstopped

/-- **What a stop shuts.** In every history of a watcher with an empty mailbox, with whatever is asked
    of it and whatever others do:

    * a stop is told of before it does anything else, however it ends;
    * an iterator that finds the watcher stopped gives no trigger, and waits for nothing;
    * if a burst is given some time, every trigger is handed out for an emptying of the mailbox at
      which the watcher was not stopped, and so a wait that begins while it is stopped, and during
      which nobody starts it again, hands out none;
    * if a burst is given no time, a wait hands out a trigger exactly if it takes a change, whether
      the watcher is stopped or not. -/
theorem stop_shuts {x₀ x : Watcher T O × σ} {given : List (Trigger × List Sign)}
    (blank : view x₀.2 = ⟨.empty, []⟩) (past : History h cwd view x₀ given x) :
    ((view x.2).signs ++ [.stopped] <+: (view (stop h x).2.2).signs) ∧
    (Stopped (view x.2).signs →
      ∀ poll patience, next h cwd poll (patience + 1) x = (.done none, x)) ∧
    (0 < x₀.1.debounce → (∀ g ∈ given, Unstopped g.2) ∧
      (Stopped (view x.2).signs → ∀ timeout new,
        (view (wait h cwd timeout x).2.2).signs = (view x.2).signs ++ new → .resumed ∉ new →
        ∀ t, (wait h cwd timeout x).1 ≠ .done (some t))) ∧
    (¬ 0 < x₀.1.debounce → ∀ timeout,
      (∃ t, (wait h cwd timeout x).1 = .done (some t)) ↔
        ∃ path, (collect h cwd timeout x).1 = .done (some path)) := by
  have unmarked : (view x₀.2).Honest := by
    rw [blank]
    exact iff_of_false Bool.false_ne_true (by decide)
  obtain ⟨goes, opened⟩ := opened_of_history gated unmarked past
  have honest := goes.honest unmarked
  have same : x.1.debounce = x₀.1.debounce := goes.debounce
  refine ⟨?_, fun stop poll patience => ?_, fun time => ⟨opened time, ?_⟩, fun none timeout => ?_⟩
  · have grown := (goes_of_sways (stop_marked (tends_of_gated gated) x)).grown
    rwa [beside_update gated] at grown
  · refine next_of_stopped h cwd poll patience ?_
    have mark : (view x.2).mailbox.stopped = true := honest.2 stop
    rwa [gated.mailbox] at mark
  · intro stop timeout new grown still t given
    rw [← same] at time
    exact still (((wait_heeds gated timeout honest).opened time t given).resumed stop grown)
  · rw [← same] at none
    refine ⟨fun ⟨t, given⟩ => taken_of_wait timeout given, fun ⟨path, taken⟩ => ?_⟩
    rcases collected : collect h cwd timeout x with ⟨r, y⟩
    rw [collected] at taken
    obtain rfl : r = .done (some path) := taken
    have still : Goes (beside view x) (beside view y) :=
      goes_of_turns (((collect_turns gated timeout).ends x).result collected)
    have unheld : y.1.debounce = x.1.debounce := still.debounce
    rw [wait_of_collected collected (unheld ▸ none)]
    exact (fire_told gated path y).1

end Histories

end Watcher

/-! ## 5. A gate by itself -/

namespace Gate

instance : Mailboxed Gate where
  mailbox := Gate.mailbox
  update := mail
  mailbox_update _ _ := rfl

/-- Nobody reads the log of a gate. -/
instance : Log.Logbook Gate := ⟨fun _ g => g⟩

/-- There is nothing but the gate, and what happens to it happens between requests. -/
def host : Host Seconds Unit Gate where
  present _ := .answer true
  build := .answer ()
  schedule _ _ _ := .answer ()
  start _ := .answer ()
  stop _ := .answer ()
  alive _ := .answer true
  join _ _ := .answer ()
  await _ := .answer ()
  pause _ := .read fun y => (Mailboxed.mailbox y).stopped
  others := .answer ()

theorem gated_host : Gated host id where
  mailbox _ := rfl
  update _ _ := rfl
  note _ _ := rfl
  present _ := .pure true
  build := .pure ()
  schedule _ _ _ := .pure ()
  start _ := .pure ()
  stop _ := .pure ()
  alive _ := .pure true
  join _ _ := .pure ()
  await _ := .pure ()
  pause _ := .read _
  landed _ _ := Outcome.done.inj
  others := .pure ()
  others_done _ := rfl

def root : Path := .ofText "/"

/-- Watches one file, and gives a burst the given time. -/
def sentry (debounce : Seconds) : Watcher Seconds Unit × Gate :=
  (⟨[.ofText "/a/b"], none, debounce, none, 0⟩, ⟨.empty, []⟩)

/-- The watcher was started, the file was written to, and the watcher was stopped. -/
def shut (debounce : Seconds) : Watcher Seconds Unit × Gate :=
  (Watcher.perform host root .stop
    (Mailboxed.update (.post "/a/b") (Watcher.perform host root .start (sentry debounce)).2)).2

open Watcher in
theorem history_shut (debounce : Seconds) :
    History host root id (sentry debounce) [] (shut debounce) := by
  have fresh : History host root id (sentry debounce) [] (sentry debounce) := .begun
  have posted := (fresh.asked .start).meanwhile (z := Mailboxed.update (.post "/a/b")
    (perform host root .start (sentry debounce)).2) (.single (.near (.posted "/a/b")))
  with_unfolding_all exact posted.asked .stop

/-- The change that came before the stop makes a trigger exactly if a burst is given no time. An
    iterator gives none in either case. -/
theorem stop_shuts_shut : Stopped (shut 0).2.signs ∧
    (∃ t, (Watcher.wait host root (some 0) (shut 0)).1 = .done (some t)) ∧
    (¬ ∃ t, (Watcher.wait host root (some 0) (shut (.whole 1))).1 = .done (some t)) ∧
    ∀ debounce poll patience,
      Watcher.next host root poll (patience + 1) (shut debounce) = (.done none, shut debounce) := by
  obtain ⟨-, -, -, untimed⟩ := Watcher.stop_shuts gated_host rfl (history_shut 0)
  obtain ⟨-, -, timed, -⟩ := Watcher.stop_shuts gated_host rfl (history_shut (.whole 1))
  refine ⟨by decide +kernel, ?_, ?_, fun debounce => ?_⟩
  · refine (untimed (by decide +kernel) (some 0)).2 ⟨"/a/b", ?_⟩
    with_unfolding_all rfl
  · rintro ⟨t, given⟩
    refine (timed (by decide +kernel)).2 (by decide +kernel) (some 0) [.emptied] ?_ (by decide) t given
    decide +kernel
  · refine (Watcher.stop_shuts gated_host rfl (history_shut debounce)).2.1 ?_
    with_unfolding_all exact (by decide : Stopped [.resumed, .stopped])

end Gate

end Respawn.Watch
