import Respawn.Proofs.Watch.Chronicle

/-!
# A booth with a desk

In a booth it is laid down what others do on each of their turns: events happen, the observer dies,
the watcher is stopped. There is one observer, and what a living one is told by the filter comes to
the desk.

* `drifts_turn`: what others do on a turn takes nothing;
* `soleTaker_host`: a booth leaves the mailbox to the watcher.
-/

namespace Respawn.Watch

open Respawn.Action (Drifts)
open Relation (ReflTransGen)

/-- What happens on a turn of others. -/
inductive Happening where
  | event (e : Event)
  | death
  | stop
  deriving DecidableEq, Repr

/-- The desk, whether the observer lives, and what others do on their next turns. -/
structure Booth where
  desk : Desk
  lives : Bool
  script : List (List Happening)
  deriving DecidableEq, Repr

namespace Booth

/-- Before the observer was started. -/
def opened (script : List (List Happening)) : Booth := ⟨⟨.empty, []⟩, false, script⟩

instance : Mailboxed Booth where
  mailbox b := b.desk.mailbox
  update g b := { b with desk := b.desk.mail g }
  mailbox_update _ _ := rfl

instance : Log.Logbook Booth := ⟨fun r b => { b with desk := b.desk.say r }⟩

/-- What a happening does. -/
def happen (cwd : Path) (f : Filter) (b : Booth) : Happening → Booth
  | .event e =>
    match if b.lives then f.report cwd e else none with
    | some p => { b with desk := b.desk.mail (.post p) }
    | none => b
  | .death => { b with lives := false }
  | .stop => { b with desk := b.desk.mail .stop }

/-- The next turn of others. -/
def turn (cwd : Path) (f : Filter) (b : Booth) : Booth :=
  (b.script.headD []).foldl (happen cwd f) { b with script := b.script.tail }

/-- The one observer of a booth, and others whose turns come while the watcher waits. -/
def host (cwd : Path) (f : Filter) : Host Seconds Unit Booth where
  present _ := .answer true
  build := .answer ()
  schedule _ _ _ := .answer ()
  start _ := .modify fun b => { b with lives := true }
  stop _ := .modify fun b => { b with lives := false }
  alive _ := .read Booth.lives
  join _ _ := .answer ()
  await _ := (Action.modify (turn cwd f)).inner
  pause _ := do
    (Action.modify (turn cwd f)).inner
    .read fun y => (Mailboxed.mailbox y).stopped
  others := .answer ()

variable {cwd : Path} {f : Filter}

theorem elsewhere_happen (b : Booth) (what : Happening) :
    ReflTransGen (Elsewhere cwd f) b.desk (b.happen cwd f what).desk := by
  cases what with
  | event e =>
    cases told : if b.lives then f.report cwd e else none with
    | none =>
      simp only [happen, told]
      exact .refl
    | some p =>
      have report : f.report cwd e = some p := by
        by_cases lives : b.lives = true
        · rwa [if_pos lives] at told
        · rw [if_neg lives] at told
          cases told
      simp only [happen, told]
      exact .single (.reported report)
  | death => exact .refl
  | stop => exact .single .stopped

theorem elsewhere_turn (b : Booth) :
    ReflTransGen (Elsewhere cwd f) b.desk (b.turn cwd f).desk := by
  have all (whats : List Happening) (b : Booth) :
      ReflTransGen (Elsewhere cwd f) b.desk (whats.foldl (happen cwd f) b).desk := by
    induction whats generalizing b with
    | nil => exact .refl
    | cons what whats ih => exact (elsewhere_happen b what).trans (ih _)
  exact all _ { b with script := b.script.tail }

/-- What others do on a turn takes nothing. -/
theorem drifts_turn {O : Type} : Drifts (Stirs cwd f) (seen desk)
    ((Action.modify (turn cwd f)).inner : Action (Watcher Seconds O × Booth) Unit) :=
  Watcher.inner_drifts fun b => elsewhere_turn b

/-- **A booth leaves it to the watcher to empty the mailbox and to count.** -/
theorem soleTaker_host (cwd : Path) (f : Filter) : SoleTaker (host cwd f) cwd f desk where
  mailbox _ := rfl
  update _ _ := rfl
  note _ _ := rfl
  present _ := .pure true
  build := .pure ()
  schedule _ _ _ := .pure ()
  start _ := .of_eq fun _ => rfl
  stop _ := .of_eq fun _ => rfl
  alive _ := .read _
  join _ _ := .pure ()
  await _ := drifts_turn
  pause _ := drifts_turn.bind fun _ => .read _
  others := .pure ()
  others_done _ := rfl

/-! ## A day in a booth -/

def root : Path := .ofText "/"

/-- Watches two files, and gives a burst some time. -/
def sentry : Watcher Seconds Unit := ⟨[.ofText "/a/b", .ofText "/a/c"], none, .whole 1, none, 0⟩

/-- One of the files is written to. -/
def edit (path : String) : Happening := .event ⟨.modified, .text path, none⟩

/-- A burst, a change that is taken and given up because of a stop, and the death of the observer. -/
def day : List (List Happening) :=
  [[edit "/a/b", edit "/a/c"], [edit "/a/b"], [edit "/a/c"], [.stop], [.death]]

end Booth

end Respawn.Watch
