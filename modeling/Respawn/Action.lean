import Respawn.Fault
import Respawn.Log.Record

/-!
# Actions

An action runs on a state. It comes to an end with an answer or with a fault, or it does not come to
an end within the steps it was given; the state it leaves is there in each case.

* `bind_done`, `bind_raised`: the next action runs exactly if the one before gave an answer;
* `ensuring_of_done`: a cleanup that succeeds leaves the answer as it was;
* `snd_ensuring`: however an action ends, its cleanup runs on the state it leaves;
* `fst_inner`: an action on one half of a state leaves the other half alone.
-/

namespace Respawn

/-- How an action ends. -/
inductive Outcome (α : Type) where
  | done (a : α)
  | raised (f : Fault)
  | unfinished
  deriving Repr

/-- An action on states of type `σ` with an answer of type `α`. -/
def Action (σ α : Type) : Type := σ → Outcome α × σ

namespace Action

variable {σ τ α β : Type}

/-! ## 1. Single actions -/

def answer (a : α) : Action σ α := fun s => (.done a, s)

def raise (f : Fault) : Action σ α := fun s => (.raised f, s)

/-- The steps have run out. -/
def exhausted : Action σ α := fun s => (.unfinished, s)

/-- What can be read from the state. -/
def read (g : σ → α) : Action σ α := fun s => (.done (g s), s)

def modify (g : σ → σ) : Action σ Unit := fun s => (.done (), g s)

def ofExcept : Except Fault α → Action σ α
  | .ok a => answer a
  | .error f => raise f

/-- One record for the log. -/
def log [Log.Logbook σ] (level : Log.Level) (logger message : String) : Action σ Unit :=
  modify (Log.Logbook.note ⟨level, logger, message⟩)

/-! ## 2. Composition -/

/-- One action after the other; a fault ends both. -/
def after (x : Action σ α) (k : α → Action σ β) : Action σ β := fun s =>
  match x s with
  | (.done a, s) => k a s
  | (.raised f, s) => (.raised f, s)
  | (.unfinished, s) => (.unfinished, s)

instance : Monad (Action σ) where
  pure := answer
  bind := after

/-- An action whose faults are handled where `handle` says so. -/
def recover (x : Action σ α) (handle : Fault → Option (Action σ α)) : Action σ α := fun s =>
  match x s with
  | (.raised f, s) =>
    match handle f with
    | some y => y s
    | none => (.raised f, s)
  | r => r

/-- An action with a cleanup that runs however it ends. A fault of the cleanup takes the place of
    the answer. -/
def ensuring (x : Action σ α) (cleanup : Action σ Unit) : Action σ α := fun s =>
  match x s with
  | (.unfinished, s) => (.unfinished, s)
  | (o, s) =>
    match cleanup s with
    | (.done _, s) => (o, s)
    | (.raised f, s) => (.raised f, s)
    | (.unfinished, s) => (.unfinished, s)

/-- An action with a cleanup that runs if a fault ends it. -/
def onFault (x : Action σ α) (cleanup : Action σ Unit) : Action σ α :=
  x.recover fun f => some (cleanup.after fun _ => raise f)

/-- An action on the second half of a state. -/
def inner (x : Action σ α) : Action (τ × σ) α := fun s => ((x s.2).1, s.1, (x s.2).2)

/-- The items for which a test holds, asked one after the other. -/
def select (test : β → Action σ Bool) : List β → Action σ (List β)
  | [] => answer []
  | b :: bs => do
    let keep ← test b
    let rest ← select test bs
    pure (if keep then b :: rest else rest)

/-- An action for every item, one after the other. -/
def each (act : β → Action σ Unit) : List β → Action σ Unit
  | [] => answer ()
  | b :: bs => do
    act b
    each act bs

/-! ## 3. Rules -/

@[simp] theorem pure_apply (a : α) (s : σ) : (pure a : Action σ α) s = (.done a, s) := rfl

@[simp] theorem answer_apply (a : α) (s : σ) : answer a s = (.done a, s) := rfl

@[simp] theorem raise_apply (f : Fault) (s : σ) :
    (raise f : Action σ α) s = (.raised f, s) := rfl

@[simp] theorem exhausted_apply (s : σ) :
    (exhausted : Action σ α) s = (.unfinished, s) := rfl

@[simp] theorem read_apply (g : σ → α) (s : σ) : read g s = (.done (g s), s) := rfl

@[simp] theorem modify_apply (g : σ → σ) (s : σ) : modify g s = (.done (), g s) := rfl

@[simp] theorem log_apply [Log.Logbook σ] (level : Log.Level) (logger message : String) (s : σ) :
    log level logger message s = (.done (), Log.Logbook.note ⟨level, logger, message⟩ s) := rfl

@[simp] theorem bind_apply (x : Action σ α) (k : α → Action σ β) (s : σ) :
    (x >>= k) s = x.after k s := rfl

theorem after_done {x : Action σ α} {s t : σ} {a : α} (h : x s = (.done a, t))
    (k : α → Action σ β) : x.after k s = k a t := by simp [after, h]

theorem after_raised {x : Action σ α} {s t : σ} {f : Fault} (h : x s = (.raised f, t))
    (k : α → Action σ β) : x.after k s = (.raised f, t) := by simp [after, h]

theorem bind_done {x : Action σ α} {s t : σ} {a : α} (h : x s = (.done a, t))
    (k : α → Action σ β) : (x >>= k) s = k a t := after_done h k

theorem bind_raised {x : Action σ α} {s t : σ} {f : Fault} (h : x s = (.raised f, t))
    (k : α → Action σ β) : (x >>= k) s = (.raised f, t) := after_raised h k

theorem recover_of_done {x : Action σ α} {s t : σ} {a : α} (h : x s = (.done a, t))
    (handle : Fault → Option (Action σ α)) : x.recover handle s = (.done a, t) := by
  simp [recover, h]

theorem ensuring_of_done {x : Action σ α} {cleanup : Action σ Unit} {s t u : σ} {a : α}
    (h : x s = (.done a, t)) (hc : cleanup t = (.done (), u)) :
    x.ensuring cleanup s = (.done a, u) := by simp [ensuring, h, hc]

/-- However an action ends, its cleanup runs on the state it leaves. -/
theorem snd_ensuring {x : Action σ α} {s : σ} (h : (x s).1 ≠ .unfinished)
    (cleanup : Action σ Unit) : (x.ensuring cleanup s).2 = (cleanup (x s).2).2 := by
  unfold ensuring
  cases hx : x s with
  | mk o t =>
    rw [hx] at h
    cases o with
    | unfinished => exact absurd rfl h
    | done a => cases hc : cleanup t with | mk p u => cases p <;> simp [hc]
    | raised f => cases hc : cleanup t with | mk p u => cases p <;> simp [hc]

@[simp] theorem inner_apply (x : Action σ α) (s : τ × σ) :
    x.inner s = ((x s.2).1, s.1, (x s.2).2) := rfl

theorem fst_inner (x : Action σ α) (s : τ × σ) : (x.inner s).2.1 = s.1 := rfl

end Action

end Respawn
