import Respawn.Proofs.Actions
import Respawn.Supervisor

/-!
# Supervisors in surroundings that agree

Where two crews answer every call alike as long as their surroundings agree, and leave them so, two
supervisors with these crews do the same.

* `Crew.Mirrors`: two crews that answer alike;
* `start_agrees`, …, `run_agrees`, `shutdown_agrees`: the supervisors with them.
-/

namespace Respawn.Supervisor

open Respawn.Action (Agrees Beside)

variable {T σ τ : Type} [Log.Logbook σ] [Log.Logbook τ] [Stoppable σ] [Stoppable τ]

/-- Where their surroundings agree, two crews answer alike, a shutdown was asked for in both or in
    neither, and neither the request nor a record makes a difference. -/
structure Crew.Mirrors (R : σ → τ → Prop) (crew : Crew T σ) (crew' : Crew T τ) : Prop where
  note {s t} (r) : R s t → R (Log.Logbook.note r s) (Log.Logbook.note r t)
  asked {s t} : R s t → Stoppable.asked s = Stoppable.asked t
  ask {s t} : R s t → R (Stoppable.ask s) (Stoppable.ask t)
  launch (i) : Agrees R (crew.launch i) (crew'.launch i)
  stop (c) : Agrees R (crew.stop c) (crew'.stop c)
  poll (c) : Agrees R (crew.poll c) (crew'.poll c)
  wait (phase interval) : Agrees R (crew.wait phase interval) (crew'.wait phase interval)

variable {R : σ → τ → Prop} {crew : Crew T σ} {crew' : Crew T τ}

omit [Log.Logbook σ] [Log.Logbook τ] [Stoppable σ] [Stoppable τ] in
theorem own_agrees : Agrees (Beside R) (own : Action (Supervisor × σ) _) own :=
  .read fun _ _ h => h.1

omit [Log.Logbook σ] [Log.Logbook τ] [Stoppable σ] [Stoppable τ] in
theorem change_agrees (f : Supervisor → Supervisor) :
    Agrees (Beside R) (change f : Action (Supervisor × σ) _) (change f) :=
  .modify fun _ _ h => ⟨congrArg f h.1, h.2⟩

variable (hm : crew.Mirrors R crew')
include hm

theorem note_agrees (r : Log.Record) : Agrees (Beside R)
    (.modify (Log.Logbook.note r) : Action (Supervisor × σ) _) (.modify (Log.Logbook.note r)) :=
  .modify fun _ _ h => ⟨h.1, hm.note r h.2⟩

theorem tryLaunch_agrees (i : Invocation) : Agrees R (tryLaunch crew i) (tryLaunch crew' i) := by
  refine .recover ((hm.launch i).bind fun _ => .pure _) fun f => ?_
  split
  · exact .some (.bind (.modify fun _ _ => hm.note _) fun _ => .pure _)
  · exact .none

theorem tryStop_agrees (c : Child.Handle) : Agrees R (tryStop crew c) (tryStop crew' c) := by
  refine .recover ((hm.stop c).bind fun _ => .pure true) fun f => ?_
  split
  · exact .some (.bind (.modify fun _ _ => hm.note _) fun _ => .pure _)
  · exact .none

theorem start_agrees : Agrees (Beside R) (start crew) (start crew') := by
  refine own_agrees.bind fun s => ?_
  cases s.child with
  | some held => exact .raise _
  | none =>
    refine (tryLaunch_agrees hm _).inner.bind fun c => ?_
    cases c with
    | none => exact (change_agrees _).bind fun _ => .pure _
    | some c => exact (change_agrees _).bind fun _ => .pure _

theorem stop_agrees : Agrees (Beside R) (stop crew) (stop crew') := by
  refine own_agrees.bind fun s => ?_
  cases s.child with
  | none => exact (change_agrees _).bind fun _ => .pure _
  | some c =>
    refine (change_agrees _).bind fun _ => (tryStop_agrees hm c).inner.bind fun b => ?_
    cases b with
    | true => exact (change_agrees _).bind fun _ => .pure _
    | false => exact (change_agrees _).bind fun _ => .pure _

theorem check_agrees : Agrees (Beside R) (check crew) (check crew') := by
  refine own_agrees.bind fun s => ?_
  cases s.child with
  | none => exact .pure _
  | some c =>
    refine (hm.poll c).inner.bind fun code => ?_
    cases code with
    | none => exact .pure _
    | some code => exact (note_agrees hm _).bind fun _ => change_agrees _

theorem restart_agrees : Agrees (Beside R) (restart crew) (restart crew') := by
  refine (change_agrees _).bind fun _ => (stop_agrees hm).bind fun b => ?_
  cases b with
  | true => exact start_agrees hm
  | false => exact .pure _

theorem round_agrees (interval : T) :
    Agrees (Beside R) (round crew interval) (round crew' interval) := by
  refine own_agrees.bind fun s => (hm.wait s.phase interval).inner.bind fun t => ?_
  cases t with
  | none => exact check_agrees hm
  | some t =>
    exact own_agrees.bind fun s => (note_agrees hm _).bind fun _ =>
      (restart_agrees hm).bind fun _ => .pure _

theorem rounds_agrees (interval : T) (patience : Nat) :
    Agrees (Beside R) (rounds crew interval patience) (rounds crew' interval patience) := by
  induction patience with
  | zero => exact .exhausted
  | succ patience ih =>
    refine .bind (.read fun _ _ h => hm.asked h.2) fun asked => ?_
    cases asked with
    | true => exact .pure _
    | false => exact (round_agrees hm interval).bind fun _ => ih

theorem run_agrees (interval : T) (patience : Nat) :
    Agrees (Beside R) (run crew interval patience) (run crew' interval patience) :=
  own_agrees.bind fun _ => (note_agrees hm _).bind fun _ => (start_agrees hm).bind fun _ =>
    rounds_agrees hm interval patience

theorem shutdown_agrees : Agrees (Beside R) (shutdown crew) (shutdown crew') := by
  refine .bind (.modify fun _ _ h => ⟨h.1, hm.ask h.2⟩) fun _ => own_agrees.bind fun s => ?_
  cases s.child.isSome with
  | true => exact (note_agrees hm _).bind fun _ => (stop_agrees hm).bind fun _ => .pure _
  | false => exact (stop_agrees hm).bind fun _ => .pure _

end Respawn.Supervisor
