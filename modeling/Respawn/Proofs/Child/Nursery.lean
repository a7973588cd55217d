import Respawn.Proofs.Child.Census

/-!
# A small world of processes

In a nursery it is laid down what processes do by themselves whenever time passes: they end, and they
fork. Time passes while somebody waits for a child or polls it. Nobody survives a signal.

* `lookup_fresh`: a process that is born gets a number of its own;
* `drift_turn`: what processes do on a turn are moves of the kinds there are;
* `truthful_host`: a nursery answers what is the case.
-/

namespace Respawn.Child

open Respawn.Action (Ends Drifts)

/-- What a process does by itself. -/
inductive Deed where
  | death (p : Pid)
  | birth (parent : Pid)
  deriving DecidableEq, Repr

/-- Who runs, the root of everybody that was ever born, and what processes do on their next turns. -/
structure Nursery where
  living : List Pid
  kin : List (Pid × Pid)
  script : List (List Deed)
  deriving DecidableEq, Repr

/-- A number that nobody in the list has. -/
def fresh : List (Pid × Pid) → Pid
  | [] => 1
  | e :: es => max (e.1 + 1) (fresh es)

theorem lt_fresh {es : List (Pid × Pid)} {e : Pid × Pid} (h : e ∈ es) : e.1 < fresh es := by
  induction es with
  | nil => cases h
  | cons e' es ih =>
    rcases List.mem_cons.1 h with rfl | h
    · exact Int.lt_of_lt_of_le (Int.lt_succ e.1) (Int.le_max_left _ _)
    · exact Int.lt_of_lt_of_le (ih h) (Int.le_max_right _ _)

/-- A process that is born gets a number of its own. -/
theorem lookup_fresh (es : List (Pid × Pid)) : es.lookup (fresh es) = none := by
  rw [List.lookup_eq_none_iff]
  intro e he
  rw [bne_iff_ne]
  exact Int.ne_of_gt (lt_fresh he)

namespace Nursery

/-- Nobody reads the log of a nursery. -/
instance : Log.Logbook Nursery := ⟨fun _ s => s⟩

/-- The census of a nursery. -/
def view (s : Nursery) : Census where
  alive p := p ∈ s.living
  tree p := s.kin.lookup p

/-- Before any process was born. -/
def empty (script : List (List Deed)) : Nursery := ⟨[], [], script⟩

/-! ## 1. What processes do -/

def bury (p : Pid) (s : Nursery) : Nursery := { s with living := s.living.filter (· ≠ p) }

def enrol (root : Pid) (s : Nursery) : Nursery :=
  { s with living := fresh s.kin :: s.living, kin := (fresh s.kin, root) :: s.kin }

/-- What a deed does. Only who runs and belongs to a tree can fork. -/
def happen (s : Nursery) : Deed → Nursery
  | .death p => s.bury p
  | .birth parent =>
    match s.kin.lookup parent with
    | some root => if s.living.contains parent then s.enrol root else s
    | none => s

/-- The next turn of the processes. -/
def turn (s : Nursery) : Nursery :=
  (s.script.headD []).foldl happen { s with script := s.script.tail }

theorem view_bury (p : Pid) (s : Nursery) : (s.bury p).view = s.view.bury p := by
  simp [view, bury, Census.bury]

theorem view_enrol (root : Pid) (s : Nursery) :
    (s.enrol root).view = s.view.enrol (fresh s.kin) root := by
  simp only [view, enrol, Census.enrol, List.mem_cons, List.lookup_cons]
  congr
  · funext p
    exact propext or_comm
  · funext p
    cases h : p == fresh s.kin with
    | true => rw [if_pos (eq_of_beq h)]
    | false => rw [if_neg (ne_of_beq_false h)]

theorem drift_bury (p : Pid) (s : Nursery) : Drift s.view (s.bury p).view := by
  rw [view_bury]
  exact .single (.ended p)

theorem drift_happen (s : Nursery) (d : Deed) : Drift s.view (s.happen d).view := by
  cases d with
  | death p => exact drift_bury p s
  | birth parent =>
    cases tree : s.kin.lookup parent with
    | none =>
      simp only [happen, tree]
      exact .refl
    | some root =>
      simp only [happen, tree]
      split
      · next running =>
        rw [view_enrol]
        have alive : s.view.alive parent := List.contains_iff_mem.1 running
        exact .single (.forked alive tree (lookup_fresh s.kin))
      · exact .refl

theorem drift_turn (s : Nursery) : Drift s.view s.turn.view := by
  have all (ds : List Deed) : ∀ s : Nursery, Drift s.view (ds.foldl happen s).view := by
    induction ds with
    | nil => exact fun _ => .refl
    | cons d ds ih => exact fun s => (drift_happen s d).trans (ih _)
  exact all _ { s with script := s.script.tail }

/-! ## 2. The host -/

/-- An answer about a process that runs. -/
def ask {α : Type} (p : Pid) (answer : Nursery → α) : Action Nursery α := fun s =>
  if s.living.contains p then (.done (answer s), s) else (.raised (.noSuchProcess p), s)

/-- The exit code of a process, after a turn. -/
def exitCode (p : Pid) : Action Nursery (Option Int) := fun s =>
  (.done (if s.turn.living.contains p then none else some 0), s.turn)

/-- The processes of a nursery. -/
def host : Host Seconds Nursery where
  spawn _ s := (.done (fresh s.kin), s.enrol (fresh s.kin))
  find p := ask p fun _ => ()
  terminate p := .modify (bury p)
  kill p := .modify (bury p)
  descendants p := ask p fun s => s.living.filter (s.kin.lookup · = some p)
  status p := ask p fun _ => .running
  waitAll ps _ := .read fun s => ps.filter (s.living.contains ·)
  now := .read fun _ => 0
  reap p _ := exitCode p
  poll p := exitCode p
  pipe _ _ := pure none
  closePipe _ _ := pure ()
  inBackground _ act := act

theorem ask_ends {α : Type} (p : Pid) (answer : Nursery → α) (s : Nursery) :
    Ends (ask p answer) s fun o t => t = s ∧ (∀ a, o = .done a → a = answer s) ∧
      ∀ n, o = .raised (.noSuchProcess n) → ¬ s.view.alive p := by
  by_cases h : s.living.contains p
  · have : ask p answer s = (.done (answer s), s) := if_pos h
    refine .of_result this ⟨rfl, fun a ha => ?_, nofun⟩
    cases ha
    rfl
  · have : ask p answer s = (.raised (.noSuchProcess p), s) := if_neg h
    exact .of_result this ⟨rfl, nofun, fun _ _ ha => h (List.contains_iff_mem.2 ha)⟩

theorem exitCode_ends (p : Pid) (s : Nursery) : Ends (exitCode p) s fun o t =>
    Drift s.view t.view ∧ ∀ code, o = .done (some code) → ¬ t.view.alive p := by
  refine ⟨drift_turn s, fun code hc ha => ?_⟩
  have running : s.turn.living.contains p = true := List.contains_iff_mem.2 ha
  rw [exitCode, if_pos running] at hc
  cases hc

/-- **A nursery answers what is the case.** -/
theorem truthful_host : Truthful host view where
  note _ _ := rfl
  spawn _ s := by
    refine ⟨fun r hr => ?_, fun h => absurd rfl (h _)⟩
    cases hr
    refine ⟨s.view, .refl, lookup_fresh s.kin, ?_⟩
    rw [← view_enrol]
    exact .refl
  find p s := (ask_ends p _ s).mono fun o t h => ⟨h.1 ▸ .refl, h.1 ▸ h.2.2⟩
  terminate p s := drift_bury p s
  kill p s := drift_bury p s
  descendants p s _ := by
    refine (ask_ends p _ s).mono fun o t h => ?_
    obtain ⟨rfl, hl, gone⟩ := h
    refine ⟨.refl, fun l ho => ?_, gone⟩
    rw [hl l ho]
    refine ⟨fun q hq => ?_, t.view, .refl, .refl, fun _ q ha hq => .inr ?_⟩
    · exact of_decide_eq_true (List.mem_filter.1 hq).2
    · exact List.mem_filter.2 ⟨ha, decide_eq_true hq⟩
  status p s := by
    refine (ask_ends p _ s).mono fun o t h => ?_
    obtain ⟨rfl, hs, gone⟩ := h
    refine ⟨.refl, fun hz => ?_, gone⟩
    cases hs _ hz
  waitAll ps _ s := by
    refine ⟨.refl, fun left hl => ?_, nofun⟩
    cases hl
    refine ⟨List.filter_sublist.subset, fun p hp hn ha => hn ?_⟩
    exact List.mem_filter.2 ⟨hp, List.contains_iff_mem.2 ha⟩
  now _ := .refl
  reap p _ s := (exitCode_ends p s).1
  poll p s := exitCode_ends p s
  pipe _ _ _ := .refl
  closePipe _ _ _ := .refl
  inBackground _ _ h := h

end Nursery

end Respawn.Child
