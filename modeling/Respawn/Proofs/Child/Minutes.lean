import Respawn.Proofs.Child.Errands
import Respawn.Proofs.Child.Faults

/-!
# Minutes of a stop

Minutes can be kept beside a system: what it was asked about processes, in order, and what it
answered. They change nothing of what happens.

* `Host.minuted`: a system with such minutes; `minuted_mirrors`: without them it is the system it was;
* `Adds`: what an action adds to the minutes, with one lemma for each way of putting actions together;
* `Went`: what is added until the action is done, until a call breaks it off, or until the polls have
  run out;
* `Responsive`: a system whose calls come to an end.
-/

namespace Respawn.Child

open Respawn.Action (Agrees Concludes Conclusive Without)

variable {T σ α β : Type}

/-! ## 1. Exchanges -/

/-- A call and its outcome. -/
inductive Exchange (T : Type) where
  | find (pid : Pid) (o : Outcome Unit)
  | poll (pid : Pid) (o : Outcome (Option Int))
  | descendants (pid : Pid) (o : Outcome (List Pid))
  | terminate (pid : Pid) (o : Outcome Unit)
  | kill (pid : Pid) (o : Outcome Unit)
  | waitAll (pids : List Pid) (time : T) (o : Outcome (List Pid))
  | status (pid : Pid) (o : Outcome Status)
  | reap (pid : Pid) (time : T) (o : Outcome (Option Int))
  deriving Repr

/-- The parts of a stop. -/
inductive Stage where
  | listing
  | asking
  | killing
  | waiting
  | reaping
  deriving DecidableEq, Repr

/-- The fault that a call ended with. -/
def faultOf : Outcome α → Option Fault
  | .raised f => some f
  | _ => none

/-- A process that is gone. -/
def Missing (f : Fault) : Prop := ∃ pid, f = .noSuchProcess pid

namespace Exchange

def stage : Exchange T → Stage
  | find .. | poll .. | descendants .. => .listing
  | terminate .. => .asking
  | kill .. => .killing
  | waitAll .. | status .. => .waiting
  | reap .. => .reaping

def fault : Exchange T → Option Fault
  | find _ o | terminate _ o | kill _ o => faultOf o
  | poll _ o | reap _ _ o => faultOf o
  | descendants _ o | waitAll _ _ o => faultOf o
  | status _ o => faultOf o

/-- The call was answered, or the process was gone. -/
def Passed (e : Exchange T) : Prop := ∀ f, e.fault = some f → Missing f

def terminated? : Exchange T → Option Pid
  | terminate pid _ => some pid
  | _ => none

def killed? : Exchange T → Option Pid
  | kill pid _ => some pid
  | _ => none

def isWait : Exchange T → Bool
  | waitAll .. => true
  | _ => false

end Exchange

/-- Who was asked to end. -/
def terminated (w : List (Exchange T)) : List Pid := w.filterMap Exchange.terminated?

/-- Who was killed. -/
def killed (w : List (Exchange T)) : List Pid := w.filterMap Exchange.killed?

/-- How often all were waited for. -/
def waits (w : List (Exchange T)) : Nat := w.countP Exchange.isWait

/-- Calls of some stages that no fault has broken off. -/
def Orderly (K : Stage → Prop) (w : List (Exchange T)) : Prop := ∀ e ∈ w, e.Passed ∧ K e.stage

section Lists

variable {K K' : Stage → Prop} {w w' : List (Exchange T)} {e : Exchange T}

@[simp] theorem terminated_append (w w' : List (Exchange T)) :
    terminated (w ++ w') = terminated w ++ terminated w' := List.filterMap_append

@[simp] theorem killed_append (w w' : List (Exchange T)) :
    killed (w ++ w') = killed w ++ killed w' := List.filterMap_append

@[simp] theorem waits_append (w w' : List (Exchange T)) : waits (w ++ w') = waits w + waits w' :=
  List.countP_append

theorem Orderly.nil : Orderly K ([] : List (Exchange T)) := fun _ he => nomatch he

theorem Orderly.single (passed : e.Passed) (stage : K e.stage) : Orderly K [e] := by
  intro e' he
  rw [List.mem_singleton.1 he]
  exact ⟨passed, stage⟩

theorem Orderly.append (h : Orderly K w) (h' : Orderly K w') : Orderly K (w ++ w') := by
  intro e he
  rcases List.mem_append.1 he with he | he
  · exact h e he
  · exact h' e he

theorem Orderly.mono (h : Orderly K w) (hk : ∀ g, K g → K' g) : Orderly K' w :=
  fun e he => ⟨(h e he).1, hk _ (h e he).2⟩

/-- Nobody is asked to end in the other parts of a stop. -/
theorem Orderly.terminated_eq (h : Orderly K w) (hk : ¬ K .asking) : terminated w = [] := by
  refine List.filterMap_eq_nil_iff.2 fun e he => ?_
  have stage := (h e he).2
  cases e with
  | terminate pid o => exact absurd stage hk
  | _ => rfl

theorem Orderly.killed_eq (h : Orderly K w) (hk : ¬ K .killing) : killed w = [] := by
  refine List.filterMap_eq_nil_iff.2 fun e he => ?_
  have stage := (h e he).2
  cases e with
  | kill pid o => exact absurd stage hk
  | _ => rfl

theorem Orderly.waits_eq (h : Orderly K w) (hk : ¬ K .waiting) : waits w = 0 := by
  refine List.countP_eq_zero.2 fun e he => ?_
  have stage := (h e he).2
  cases e with
  | waitAll ps time o => exact absurd stage hk
  | _ => exact Bool.false_ne_true

end Lists

/-! ## 2. A system with minutes -/

/-- A call that is written down with its outcome. -/
def minuting (e : Outcome α → Exchange T) (x : Action σ α) : Action (List (Exchange T) × σ) α :=
  fun y => ((x y.2).1, y.1 ++ [e (x y.2).1], (x y.2).2)

/-- The system with minutes of a stop. A stop starts nothing and has nothing read. -/
def Host.minuted (h : Host T σ) : Host T (List (Exchange T) × σ) where
  spawn what := (h.spawn what).inner
  find pid := minuting (.find pid) (h.find pid)
  terminate pid := minuting (.terminate pid) (h.terminate pid)
  kill pid := minuting (.kill pid) (h.kill pid)
  descendants pid := minuting (.descendants pid) (h.descendants pid)
  status pid := minuting (.status pid) (h.status pid)
  waitAll pids time := minuting (.waitAll pids time) (h.waitAll pids time)
  now := h.now.inner
  reap pid time := minuting (.reap pid time) (h.reap pid time)
  poll pid := minuting (.poll pid) (h.poll pid)
  pipe pid channel := (h.pipe pid channel).inner
  closePipe pid channel := (h.closePipe pid channel).inner
  inBackground name act := fun y => (h.inBackground name (given y.1 act)).inner y

theorem minuting_without (e : Outcome α → Exchange T) (x : Action σ α) :
    Agrees Without (minuting e x) x := by
  rintro y _ rfl
  exact ⟨rfl, rfl⟩

/-- Without its minutes, the system is what it was. -/
theorem minuted_mirrors [Log.Logbook σ] (h : Host T σ) : h.minuted.Mirrors Without h where
  note r same := congrArg (Log.Logbook.note r) same
  spawn _ := .inner_without _
  find _ := minuting_without _ _
  terminate _ := minuting_without _ _
  kill _ := minuting_without _ _
  descendants _ := minuting_without _ _
  status _ := minuting_without _ _
  waitAll _ _ := minuting_without _ _
  now := .inner_without _
  reap _ _ := minuting_without _ _
  poll _ := minuting_without _ _
  pipe _ _ := .inner_without _
  closePipe _ _ := .inner_without _
  inBackground name act act' same := by
    rintro y _ rfl
    have plain : given y.1 act = act' := funext fun s =>
      have h := same (y.1, s) s rfl
      Prod.ext h.1 h.2
    exact plain ▸ ⟨rfl, rfl⟩

/-! ## 3. What is added to the minutes -/

/-- An action adds to the minutes, and `P` is true of its outcome and of what it adds. -/
def Adds (P : Outcome α → List (Exchange T) → Prop) (x : Action (List (Exchange T) × σ) α) : Prop :=
  ∀ y, ∃ w, (x y).2.1 = y.1 ++ w ∧ P (x y).1 w

namespace Adds

variable {P : Outcome α → List (Exchange T) → Prop} {Q : Outcome β → List (Exchange T) → Prop}
  {x : Action (List (Exchange T) × σ) α}

theorem mono {P' : Outcome α → List (Exchange T) → Prop} (hx : Adds P x)
    (h : ∀ o w, P o w → P' o w) : Adds P' x := by
  intro y
  obtain ⟨w, added, hw⟩ := hx y
  exact ⟨w, added, h _ w hw⟩

/-- What leaves the minutes alone. -/
theorem silent (h : ∀ y, (x y).2.1 = y.1 ∧ P (x y).1 []) : Adds P x := by
  intro y
  refine ⟨[], ?_, (h y).2⟩
  rw [(h y).1, List.append_nil]

theorem pure {a : α} (h : P (.done a) []) : Adds P (Pure.pure a : Action (_ × σ) α) :=
  silent fun _ => ⟨rfl, h⟩

theorem exhausted (h : P .unfinished []) : Adds P (Action.exhausted : Action (_ × σ) α) :=
  silent fun _ => ⟨rfl, h⟩

theorem raise {f : Fault} (h : P (.raised f) []) : Adds P (Action.raise f : Action (_ × σ) α) :=
  silent fun _ => ⟨rfl, h⟩

/-- The second action adds to what the first one has added. -/
theorem bind {k : α → Action (List (Exchange T) × σ) β} (hx : Adds P x)
    (done : ∀ a w, P (.done a) w → Adds (fun o w' => Q o (w ++ w')) (k a))
    (raised : ∀ f w, P (.raised f) w → Q (.raised f) w)
    (unfinished : ∀ w, P .unfinished w → Q .unfinished w) : Adds Q (x >>= k) := by
  intro y
  obtain ⟨w, added, hw⟩ := hx y
  revert added hw
  rcases hy : x y with ⟨o, l, t⟩
  intro added hw
  dsimp only at added hw
  cases o with
  | done a =>
    obtain ⟨w', more, hw'⟩ := done a w hw (l, t)
    rw [Action.bind_done hy]
    exact ⟨w ++ w', by rw [more, added, List.append_assoc], hw'⟩
  | raised f =>
    rw [Action.bind_raised hy]
    exact ⟨w, added, raised f w hw⟩
  | unfinished =>
    rw [Action.bind_unfinished hy]
    exact ⟨w, added, unfinished w hw⟩

theorem of_log [Log.Logbook σ] {k : Unit → Action (List (Exchange T) × σ) β} (h : Adds Q (k ()))
    (level : Log.Level) (logger message : String) :
    Adds Q (.log level logger message >>= k) := fun y => h (Log.Logbook.note ⟨_, _, _⟩ y)

theorem of_ok {a : α} {k : α → Action (List (Exchange T) × σ) β} (h : Adds Q (k a)) :
    Adds Q (Action.ofExcept (.ok a) >>= k) := h

theorem recover {handle : Fault → Option (Action (List (Exchange T) × σ) α)}
    {P' : Outcome α → List (Exchange T) → Prop} (hx : Adds P x)
    (done : ∀ a w, P (.done a) w → P' (.done a) w)
    (handled : ∀ f w, P (.raised f) w → ∀ z ∈ handle f, Adds (fun o w' => P' o (w ++ w')) z)
    (raised : ∀ f w, P (.raised f) w → handle f = none → P' (.raised f) w)
    (unfinished : ∀ w, P .unfinished w → P' .unfinished w) : Adds P' (x.recover handle) := by
  intro y
  obtain ⟨w, added, hw⟩ := hx y
  revert added hw
  rcases hy : x y with ⟨o, l, t⟩
  intro added hw
  dsimp only at added hw
  cases o with
  | done a =>
    simp only [Action.recover, hy]
    exact ⟨w, added, done a w hw⟩
  | unfinished =>
    simp only [Action.recover, hy]
    exact ⟨w, added, unfinished w hw⟩
  | raised f =>
    simp only [Action.recover, hy]
    cases hf : handle f with
    | none => exact ⟨w, added, raised f w hw hf⟩
    | some z =>
      obtain ⟨w', more, hw'⟩ := handled f w hw z hf (l, t)
      exact ⟨w ++ w', by rw [more, added, List.append_assoc], hw'⟩

end Adds

/-! ## 4. Until a call breaks it off -/

/-- An action was done and `D` is true of its answer and of what it added, or a call whose fault is
    true of `B` with it broke the action off, or the polls ran out after at least `n` of them. -/
inductive Went (K : Stage → Prop) (n : Nat) (D : α → List (Exchange T) → Prop)
    (B : Fault → List (Exchange T) → Prop) : Outcome α → List (Exchange T) → Prop
  | done {a w} (orderly : Orderly K w) (h : D a w) : Went K n D B (.done a) w
  | broke {f w e} (orderly : Orderly K w) (stage : K e.stage) (fault : e.fault = some f)
      (h : B f (w ++ [e])) : Went K n D B (.raised f) (w ++ [e])
  | ranOut {w} (orderly : Orderly K w) (h : n ≤ waits w) : Went K n D B .unfinished w

section Went

variable {K K' : Stage → Prop} {m n : Nat} {D D' : α → List (Exchange T) → Prop}
  {E : β → List (Exchange T) → Prop} {B B' : Fault → List (Exchange T) → Prop} {o : Outcome α}
  {w : List (Exchange T)}

theorem Went.mono (hw : Went K n D B o w) (hk : ∀ g, K g → K' g) (hn : m ≤ n)
    (hd : ∀ a, Orderly K w → D a w → D' a w) (hb : ∀ f, B f w → B' f w) :
    Went K' m D' B' o w := by
  cases hw with
  | done orderly h => exact .done (orderly.mono hk) (hd _ orderly h)
  | broke orderly stage fault h => exact .broke (orderly.mono hk) (hk _ stage) fault (hb _ h)
  | ranOut orderly h => exact .ranOut (orderly.mono hk) (Nat.le_trans hn h)

/-- Something orderly was added before. -/
theorem Went.after {w₀ : List (Exchange T)} (orderly₀ : Orderly K w₀)
    (hw : Went K (n - waits w₀) (fun a w => D a (w₀ ++ w)) (fun f w => B f (w₀ ++ w)) o w) :
    Went K n D B o (w₀ ++ w) := by
  cases hw with
  | done orderly h => exact .done (orderly₀.append orderly) h
  | broke orderly stage fault h =>
    rw [← List.append_assoc] at h ⊢
    exact .broke (orderly₀.append orderly) stage fault h
  | ranOut orderly h =>
    refine .ranOut (orderly₀.append orderly) ?_
    rw [waits_append]
    omega

variable {x : Action (List (Exchange T) × σ) α}

theorem Adds.went_pure {a : α} (h : D a []) :
    Adds (Went K n D B) (Pure.pure a : Action (_ × σ) α) := .pure (.done .nil h)

theorem Adds.went_bind {k : α → Action (List (Exchange T) × σ) β} (hx : Adds (Went K n D B) x)
    (hk : ∀ a w, Orderly K w → D a w →
      Adds (Went K (n - waits w) (fun b w' => E b (w ++ w')) fun f w' => B f (w ++ w')) (k a)) :
    Adds (Went K n E B) (x >>= k) := by
  refine hx.bind ?_ ?_ ?_
  · intro a w hw
    cases hw with
    | done orderly h => exact (hk a w orderly h).mono fun o w' => Went.after orderly
  · intro f w hw
    cases hw with
    | broke orderly stage fault h => exact .broke orderly stage fault h
  · intro w hw
    cases hw with
    | ranOut orderly h => exact .ranOut orderly h

theorem Adds.went_map {g : α → β} (hx : Adds (Went K n D B) x) (h : ∀ a w, D a w → E (g a) w) :
    Adds (Went K n E B) (do let a ← x; Pure.pure (g a)) := by
  refine hx.went_bind fun a w _ hw => .went_pure ?_
  rw [List.append_nil]
  exact h a w hw

/-- A call on a process that is gone passes. -/
theorem Adds.went_unlessGone {otherwise : Action (List (Exchange T) × σ) α} {b : α}
    (hx : Adds (Went K n D B) x) (other : Adds (fun o w => o = .done b ∧ w = []) otherwise)
    (gone : ∀ pid w, B (.noSuchProcess pid) w → D b w)
    (refused : ∀ f w, B f w → ¬ Missing f → B' f w) :
    Adds (Went K n D B') (unlessGone x otherwise) := by
  refine hx.recover ?_ ?_ ?_ ?_
  · intro a w hw
    cases hw with
    | done orderly h => exact .done orderly h
  · intro f w hw z hz
    split at hz
    · next pid =>
      cases hz
      refine other.mono fun o w' h => ?_
      obtain ⟨rfl, rfl⟩ := h
      rw [List.append_nil]
      cases hw with
      | broke orderly stage fault h =>
        have passed : Exchange.Passed _ := fun f hf =>
          ⟨pid, Option.some.inj (hf.symm.trans fault)⟩
        exact .done (orderly.append (.single passed stage)) (gone pid _ h)
    · cases hz
  · intro f w hw hf
    cases hw with
    | broke orderly stage fault h =>
      refine .broke orderly stage fault (refused f _ h fun missing => ?_)
      obtain ⟨pid, rfl⟩ := missing
      cases hf
  · intro w hw
    cases hw with
    | ranOut orderly h => exact .ranOut orderly h

/-- A call makes one exchange. -/
theorem minuting_went {q : Fault → Prop} {x : Action σ α} (hx : Concludes q x)
    {e : Outcome α → Exchange T} (fault : ∀ o, (e o).fault = faultOf o) (stage : ∀ o, K (e o).stage) :
    Adds (Went K n (fun a w => w = [e (.done a)] ∧ ∃ s, (x s).1 = .done a)
      fun f w => w = [e (.raised f)] ∧ q f) (minuting e x) := by
  intro y
  refine ⟨[e (x y.2).1], rfl, ?_⟩
  have ends := hx y.2
  show Went K n _ _ (x y.2).1 _
  cases ho : (x y.2).1 with
  | done a =>
    have passed : (e (.done a)).Passed := fun f hf => by rw [fault] at hf; cases hf
    exact .done (.single passed (stage _)) ⟨rfl, y.2, ho⟩
  | raised f =>
    rw [ho] at ends
    cases ends with
    | raised hq => exact Went.broke .nil (stage _) (fault _) ⟨rfl, hq⟩
  | unfinished =>
    rw [ho] at ends
    cases ends

end Went

/-! ## 5. Systems that respond -/

/-- The calls of a stop come to an end. On a process that is gone they may end with that fault, and a
    signal or a question about the status with a fault of which `p` is true. -/
structure Responsive (p : Fault → Prop) (h : Host T σ) : Prop where
  find (pid) : Concludes Missing (h.find pid)
  poll (pid) : Concludes (fun _ => False) (h.poll pid)
  descendants (pid) : Concludes Missing (h.descendants pid)
  terminate (pid) : Concludes (goneOr p) (h.terminate pid)
  kill (pid) : Concludes (goneOr p) (h.kill pid)
  waitAll (ps time) : Concludes Missing (h.waitAll ps time)
  status (pid) : Concludes (goneOr p) (h.status pid)
  now : Concludes (fun _ => False) h.now
  reap (pid time) : Concludes (fun _ => False) (h.reap pid time)

theorem Responsive.mono {p q : Fault → Prop} {h : Host T σ} (hr : Responsive p h)
    (hpq : ∀ f, p f → q f) : Responsive q h :=
  { hr with
    terminate := fun pid => (hr.terminate pid).mono fun f => Or.imp_right (hpq f)
    kill := fun pid => (hr.kill pid).mono fun f => Or.imp_right (hpq f)
    status := fun pid => (hr.status pid).mono fun f => Or.imp_right (hpq f) }

/-- Every process is listed once, and who is left of those waited for is told once. -/
structure Distinct (h : Host T σ) : Prop where
  descendants {pid s below} : (h.descendants pid s).1 = .done below → (pid :: below).Nodup
  waitAll {ps time s left} : (h.waitAll ps time s).1 = .done left →
    left ⊆ ps ∧ (ps.Nodup → left.Nodup)

end Respawn.Child
