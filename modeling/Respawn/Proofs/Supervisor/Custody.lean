import Mathlib.Data.List.Induction
import Respawn.Proofs.Supervisor.Ledger

/-!
# The custody of instances

From the launch that gave it until it has been stopped or was seen to end, an instance is kept. The
ledger of a supervisor tells which instances are kept at each call, and it is never more than one.

* `kept_concat`: which instances one more call leaves kept;
* `Orderly.kept_mid`: what became of an instance that was launched;
* `custody_life`: the custody of instances through the whole life of a supervisor.
-/

namespace Respawn.Supervisor

variable {T σ : Type}

/-! ## 1. Instances that are kept -/

/-- The instance was launched, and since then it was neither stopped nor seen to end. -/
def Kept (c : Child.Handle) (l : List (Call σ)) : Prop :=
  ∃ pre launch post, l = pre ++ launch :: post ∧ launch.launched = some c ∧
    ∀ call ∈ post, call.released ≠ some c

theorem not_kept_nil (c : Child.Handle) : ¬ Kept c ([] : List (Call σ)) := by
  intro h
  obtain ⟨pre, launch, post, h, -⟩ := h
  simp at h

theorem kept_concat (c : Child.Handle) (l : List (Call σ)) (call : Call σ) :
    Kept c (l ++ [call]) ↔
      call.launched = some c ∨ Kept c l ∧ call.released ≠ some c := by
  constructor
  · intro h
    obtain ⟨pre, launch, post, h, hl, hr⟩ := h
    rcases cut_concat h with ⟨-, rfl, -⟩ | ⟨post, rfl, rfl⟩
    · exact .inl hl
    · exact .inr ⟨⟨pre, launch, post, rfl, hl, fun z hz => hr z (by simp [hz])⟩, hr _ (by simp)⟩
  · intro h
    rcases h with hl | ⟨⟨pre, launch, post, rfl, hl, hr⟩, hc⟩
    · exact ⟨l, call, [], rfl, hl, by simp⟩
    · refine ⟨pre, launch, post ++ [call], by simp, hl, fun z hz => ?_⟩
      rcases List.mem_append.1 hz with hz | hz
      · exact hr z hz
      · rw [List.mem_singleton.1 hz]
        exact hc

/-- What has to be kept before a call. -/
def Call.Suits (l : List (Call σ)) : Call σ → Prop
  | .launch _ _ _ => ∀ c, ¬ Kept c l
  | .stop _ c _ _ | .poll _ c _ _ => ∀ other, Kept other l ↔ other = c
  | .wait _ _ _ => True

/-- Every call suits what was kept before it. -/
def Orderly (l : List (Call σ)) : Prop := ∀ pre call post, l = pre ++ call :: post → call.Suits pre

namespace Orderly

theorem nil : Orderly ([] : List (Call σ)) := fun pre call post h => by simp at h

theorem concat {l : List (Call σ)} {call : Call σ} (h : Orderly l) (hc : call.Suits l) :
    Orderly (l ++ [call]) := by
  intro pre other post he
  rcases cut_concat he with ⟨rfl, rfl, -⟩ | ⟨post, -, rfl⟩
  · exact hc
  · exact h _ _ _ rfl

theorem left {l l' : List (Call σ)} (h : Orderly (l ++ l')) : Orderly l :=
  fun pre call post he => h pre call (post ++ l') (by simp [he])

end Orderly

namespace Call

theorem Suits.of_launched {l : List (Call σ)} {call : Call σ} {c : Child.Handle}
    (h : call.Suits l) (hc : call.launched = some c) : ∀ other, ¬ Kept other l := by
  cases call with
  | launch b r a => exact h
  | stop b c r a => cases hc
  | poll b c r a => cases hc
  | wait b r a => cases hc

theorem Suits.of_released {l : List (Call σ)} {call : Call σ} {c : Child.Handle}
    (h : call.Suits l) (hc : call.released = some c) : ∀ other, Kept other l ↔ other = c := by
  cases call with
  | launch b r a => cases hc
  | stop b c r a => cases r <;> cases hc; exact h
  | poll b c r a =>
    rcases r with (_ | code) | f | _ <;> cases hc
    exact h
  | wait b r a => cases hc

theorem released_of_launched {call : Call σ} {c : Child.Handle} (h : call.launched = some c) :
    call.released = none := by
  cases call with
  | launch b r a => rfl
  | stop b c r a => cases h
  | poll b c r a => cases h
  | wait b r a => cases h

end Call

/-- After an instance was launched, and with no other launched since, either it is kept and nothing
    was given up, or nothing is kept and it was given up once. -/
theorem Orderly.kept_mid {pre mid : List (Call σ)} {launch : Call σ} {c : Child.Handle}
    (hl : launch.launched = some c) (hm : ∀ call ∈ mid, call.launched = none)
    (h : Orderly (pre ++ launch :: mid)) :
    (mid.filterMap Call.released = [] ∧ ∀ other, Kept other (pre ++ launch :: mid) ↔ other = c) ∨
      (mid.filterMap Call.released = [c] ∧ ∀ other, ¬ Kept other (pre ++ launch :: mid)) := by
  induction mid using List.reverseRecOn with
  | nil =>
    have free := (h pre launch [] rfl).of_launched hl
    refine .inl ⟨rfl, fun other => ?_⟩
    rw [kept_concat, hl]
    simp [free, eq_comm]
  | append_singleton mid call ih =>
    have split : pre ++ launch :: (mid ++ [call]) = (pre ++ launch :: mid) ++ [call] := by simp
    have unlaunched : call.launched = none := hm call (by simp)
    have suits : call.Suits (pre ++ launch :: mid) := h _ _ [] split
    have kept (other) : Kept other (pre ++ launch :: (mid ++ [call])) ↔
        Kept other (pre ++ launch :: mid) ∧ call.released ≠ some other := by
      rw [split, kept_concat, unlaunched]
      simp
    have before := ih (fun z hz => hm z (by simp [hz])) (Orderly.left (split ▸ h))
    cases hr : call.released with
    | none => simpa [kept, hr] using before
    | some c' =>
      have only := suits.of_released hr
      rcases before with ⟨none, this⟩ | ⟨once, none⟩
      · obtain rfl : c' = c := (this c').1 ((only c').2 rfl)
        refine .inr ⟨by simp [none, hr], fun other ho => ?_⟩
        obtain ⟨ho, hn⟩ := (kept other).1 ho
        rw [(this other).1 ho] at hn
        exact hn hr
      · exact absurd ((only c').2 rfl) (none c')

/-! ## 2. What the supervisor holds is what is kept -/

theorem Call.suits_of_fits {held : Option Child.Handle} {l : List (Call σ)} {call : Call σ}
    (h : call.Fits held) (hk : ∀ c, held = some c ↔ Kept c l) : call.Suits l := by
  cases call with
  | launch b r a =>
    cases (h : held = none)
    exact fun c hc => by simpa using (hk c).2 hc
  | stop b c r a =>
    cases (h : held = some c)
    exact fun other => by rw [← hk other, Option.some.injEq, eq_comm]
  | poll b c r a =>
    cases (h : held = some c)
    exact fun other => by rw [← hk other, Option.some.injEq, eq_comm]
  | wait b r a => trivial

/-- A call leaves held what it leaves kept. -/
theorem Call.leaves_iff {held : Option Child.Handle} {l : List (Call σ)} {call : Call σ}
    (h : call.Fits held) (hk : ∀ c, held = some c ↔ Kept c l) (c : Child.Handle) :
    call.leaves held = some c ↔ Kept c (l ++ [call]) := by
  have suits := suits_of_fits h hk
  rw [kept_concat]
  cases hr : call.released with
  | some c' =>
    have only := suits.of_released hr c
    have unlaunched : call.launched = none := by
      cases hl : call.launched with
      | none => rfl
      | some c => rw [released_of_launched hl] at hr; cases hr
    simp [leaves, hr, unlaunched, only, eq_comm]
  | none =>
    cases hl : call.launched with
    | some c' =>
      have free := suits.of_launched hl c
      simp [leaves, hr, hl, free]
    | none => simp [leaves, hr, hl, hk]

/-- How many instances a call adds to those that were launched, stopped, seen to end and held. -/
theorem Call.count {held : Option Child.Handle} {call : Call σ} (h : call.Fits held) :
    call.launched.toList.length + held.toList.length =
      call.stopped.toList.length + call.ended.toList.length +
        (call.leaves held).toList.length := by
  cases call with
  | launch b r a =>
    cases (h : held = none)
    cases r <;> rfl
  | stop b c r a =>
    cases (h : held = some c)
    cases r <;> rfl
  | poll b c r a =>
    cases (h : held = some c)
    rcases r with (_ | code) | f | _ <;> rfl
  | wait b r a => simp [launched, stopped, ended, leaves, released]

/-- What is true of a supervisor's custody at any time: what it holds, by its ledger. -/
structure Custody (child : Option Child.Handle) (l : List (Call σ)) : Prop where
  /-- Nothing is kept when a launch begins. -/
  launch_free {pre b r a post} : l = pre ++ .launch b r a :: post → ∀ c, ¬ Kept c pre
  /-- What is stopped is kept, and nothing else is. -/
  stop_kept {pre b c r a post} : l = pre ++ .stop b c r a :: post →
    ∀ other, Kept other pre ↔ other = c
  /-- What is polled is kept, and nothing else is. -/
  poll_kept {pre b c r a post} : l = pre ++ .poll b c r a :: post →
    ∀ other, Kept other pre ↔ other = c
  /-- Between a launch that gave an instance and the next one that did, that instance was stopped or
      seen to end once, and no other was. -/
  released_once {pre launch mid next post c c'} : l = pre ++ launch :: mid ++ next :: post →
    launch.launched = some c → next.launched = some c' →
    (∀ call ∈ mid, call.launched = none) → mid.filterMap Call.released = [c]
  /-- The instance that is held is the one that is kept. -/
  held_iff (c) : child = some c ↔ Kept c l
  /-- No instance gets lost. -/
  count : (l.filterMap Call.launched).length =
    (l.filterMap Call.stopped).length + (l.filterMap Call.ended).length + child.toList.length

variable [Log.Logbook σ] [Stoppable σ]

/-- **The custody of instances.** Whatever the crew answers, and whatever orders are given. -/
theorem custody_life (crew : Crew T σ) (i : Invocation) (os : List (Order T σ)) (w : σ) :
    Custody (life crew i os w).1.child (life crew i os w).2.1 := by
  let Q (held : Option Child.Handle) (l : List (Call σ)) (_ : σ) : Prop :=
    (∀ c, held = some c ↔ Kept c l) ∧ Orderly l ∧
      (l.filterMap Call.launched).length =
        (l.filterMap Call.stopped).length + (l.filterMap Call.ended).length + held.toList.length
  have carries (crew : Crew T σ) : Carries crew Q := by
    refine ⟨fun {held l call} _ fits _ => ?_, fun _ hq => hq, fun hq => hq⟩
    intro h
    obtain ⟨kept, orderly, count⟩ := h
    refine ⟨Call.leaves_iff fits kept, orderly.concat (Call.suits_of_fits fits kept), ?_⟩
    have single (f : Call σ → Option Child.Handle) : [call].filterMap f = (f call).toList := by
      cases h : f call <;> simp [h]
    have := Call.count fits
    simp only [List.filterMap_append, single, List.length_append]
    omega
  obtain ⟨kept, orderly, count⟩ :=
    Carries.life (Q := Q) i os (fun o _ => carries (o.crew crew)) w
      ⟨fun c => by simp [not_kept_nil], .nil, rfl⟩
  refine ⟨fun h => orderly _ _ _ h, fun h => orderly _ _ _ h, fun h => orderly _ _ _ h, ?_, kept,
    count⟩
  intro pre launch mid next post c c' h hl hn hm
  have suits := (orderly _ _ _ h).of_launched hn
  rw [h] at orderly
  rcases Orderly.kept_mid hl hm orderly.left with ⟨-, this⟩ | ⟨once, -⟩
  · exact absurd ((this c).2 rfl) (suits c)
  · exact once

end Respawn.Supervisor
