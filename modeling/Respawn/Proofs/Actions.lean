import Mathlib.Logic.Relation
import Respawn.Action

/-!
# Actions as a whole

Five things that are said of an action without going through its steps again and again.

* `Agrees`: on states that agree two actions end alike, and on states that agree. `Covers` is the case
  in which the one state is an image of the other;
* `Ends`: what is true of the outcome of an action and of the state it leaves;
* `Drifts`: what an action does to a part of the state is made of moves of a given kind;
* `Raises`: the faults with which an action can end are of a given kind;
* `Concludes`: besides, it does come to an end.

All of them go from the parts of an action to the whole of it, so they are proved once for each way
of putting actions together.
-/

namespace Respawn.Action

variable {σ τ ρ α β : Type}

theorem bind_unfinished {x : Action σ α} {s t : σ} (h : x s = (.unfinished, t))
    (k : α → Action σ β) : (x >>= k) s = (.unfinished, t) := by simp [after, h]

/-- How three actions are grouped makes no difference. -/
theorem bind_assoc {γ : Type} (x : Action σ α) (k : α → Action σ β) (m : β → Action σ γ) :
    x >>= k >>= m = x >>= fun a => k a >>= m := by
  funext s
  rcases h : x s with ⟨o, t⟩
  cases o <;> simp [after, h]

/-! ## 1. The same action on states that agree -/

/-- On states that agree, the two actions end alike, and on states that agree. -/
def Agrees (R : σ → τ → Prop) (x : Action σ α) (y : Action τ α) : Prop :=
  ∀ s t, R s t → (x s).1 = (y t).1 ∧ R (x s).2 (y t).2

/-- Through `π`, the first action looks like the second. -/
def Covers (π : σ → τ) (x : Action σ α) (y : Action τ α) : Prop :=
  ∀ s, y (π s) = ((x s).1, π (x s).2)

/-- States with the same part of their own, whose surroundings agree. -/
def Beside (R : σ → τ → Prop) (x : ρ × σ) (y : ρ × τ) : Prop := x.1 = y.1 ∧ R x.2 y.2

/-- The second state is what the first one is without its own part. -/
def Without (y : ρ × σ) (s : σ) : Prop := y.2 = s

/-- The same, where the own part is given. -/
def Holding (r : ρ) (y : ρ × σ) (s : σ) : Prop := y = (r, s)

/-- An action on surroundings that have a part of their own besides, which it leaves alone. -/
def beside {ω : Type} (x : Action (ω × σ) α) : Action (ω × ρ × σ) α := fun y =>
  ((x (y.1, y.2.2)).1, (x (y.1, y.2.2)).2.1, y.2.1, (x (y.1, y.2.2)).2.2)

namespace Agrees

variable {R : σ → τ → Prop}

theorem pure (a : α) : Agrees R (Pure.pure a) (Pure.pure a) := fun _ _ h => ⟨rfl, h⟩

theorem raise (f : Fault) : Agrees R (raise f : Action σ α) (raise f) := fun _ _ h => ⟨rfl, h⟩

theorem exhausted : Agrees R (exhausted : Action σ α) exhausted := fun _ _ h => ⟨rfl, h⟩

theorem read {g : σ → α} {g' : τ → α} (h : ∀ s t, R s t → g s = g' t) :
    Agrees R (read g) (read g') := fun s t hst => ⟨congrArg Outcome.done (h s t hst), hst⟩

theorem modify {g : σ → σ} {g' : τ → τ} (h : ∀ s t, R s t → R (g s) (g' t)) :
    Agrees R (modify g) (modify g') := fun s t hst => ⟨rfl, h s t hst⟩

theorem ofExcept (e : Except Fault α) :
    Agrees R (ofExcept e : Action σ α) (Action.ofExcept e) := by
  cases e with
  | ok a => exact pure a
  | error f => exact raise f

theorem bind {x : Action σ α} {y : Action τ α} {k : α → Action σ β} {m : α → Action τ β}
    (hx : Agrees R x y) (hk : ∀ a, Agrees R (k a) (m a)) : Agrees R (x >>= k) (y >>= m) := by
  intro s t hst
  have h := hx s t hst
  revert h
  rcases hs : x s with ⟨o, u⟩
  rcases ht : y t with ⟨o', v⟩
  rintro ⟨rfl, huv⟩
  cases o with
  | done a =>
    rw [bind_done hs, bind_done ht]
    exact hk a u v huv
  | raised f =>
    rw [bind_raised hs, bind_raised ht]
    exact ⟨rfl, huv⟩
  | unfinished =>
    simp only [bind_apply, after, hs, ht]
    exact ⟨trivial, huv⟩

theorem of_ok {a b : β} {k : β → Action σ α} {m : β → Action τ α} (h : Agrees R (k a) (m b)) :
    Agrees R (Action.ofExcept (.ok a) >>= k) (Action.ofExcept (.ok b) >>= m) := h

/-- What is read may differ, as long as what follows agrees. -/
theorem of_read {k : σ → Action σ α} {m : τ → Action τ α}
    (h : ∀ s t, R s t → Agrees R (k s) (m t)) :
    Agrees R (Action.read id >>= k) (Action.read id >>= m) := fun s t hst => h s t hst s t hst

theorem recover {x : Action σ α} {y : Action τ α} {handle : Fault → Option (Action σ α)}
    {handle' : Fault → Option (Action τ α)} (hx : Agrees R x y)
    (hh : ∀ f, Option.Rel (Agrees R) (handle f) (handle' f)) :
    Agrees R (x.recover handle) (y.recover handle') := by
  intro s t hst
  have h := hx s t hst
  revert h
  rcases hs : x s with ⟨o, u⟩
  rcases ht : y t with ⟨o', v⟩
  rintro ⟨rfl, huv⟩
  cases o with
  | done a =>
    simp only [Action.recover, hs, ht]
    exact ⟨trivial, huv⟩
  | unfinished =>
    simp only [Action.recover, hs, ht]
    exact ⟨trivial, huv⟩
  | raised f =>
    have hf := hh f
    simp only [Action.recover, hs, ht]
    revert hf
    generalize handle f = a, handle' f = b
    intro h
    rcases h with hc | _
    · exact hc u v huv
    · exact ⟨rfl, huv⟩

theorem onFault {x : Action σ α} {y : Action τ α} {cleanup : Action σ Unit}
    {cleanup' : Action τ Unit} (hx : Agrees R x y) (hc : Agrees R cleanup cleanup') :
    Agrees R (x.onFault cleanup) (y.onFault cleanup') :=
  hx.recover fun f => .some (bind (x := cleanup) (y := cleanup') hc fun _ => raise f)

theorem ensuring {x : Action σ α} {y : Action τ α} {cleanup : Action σ Unit}
    {cleanup' : Action τ Unit} (hx : Agrees R x y) (hc : Agrees R cleanup cleanup') :
    Agrees R (x.ensuring cleanup) (y.ensuring cleanup') := by
  intro s t hst
  have h := hx s t hst
  revert h
  rcases hs : x s with ⟨o, u⟩
  rcases ht : y t with ⟨o', v⟩
  rintro ⟨rfl, huv⟩
  have h := hc u v huv
  revert h
  rcases hu : cleanup u with ⟨p, u'⟩
  rcases hv : cleanup' v with ⟨p', v'⟩
  rintro ⟨rfl, hz⟩
  cases o with
  | unfinished =>
    simp only [Action.ensuring, hs, ht]
    exact ⟨trivial, huv⟩
  | done a =>
    simp only [Action.ensuring, hs, ht, hu, hv]
    cases p <;> exact ⟨rfl, hz⟩
  | raised f =>
    simp only [Action.ensuring, hs, ht, hu, hv]
    cases p <;> exact ⟨rfl, hz⟩

theorem each {act : β → Action σ Unit} {act' : β → Action τ Unit}
    (h : ∀ b, Agrees R (act b) (act' b)) (bs : List β) :
    Agrees R (each act bs) (Action.each act' bs) := by
  induction bs with
  | nil => exact pure ()
  | cons b bs ih => exact (h b).bind fun _ => ih

theorem select {test : β → Action σ Bool} {test' : β → Action τ Bool}
    (h : ∀ b, Agrees R (test b) (test' b)) (bs : List β) :
    Agrees R (select test bs) (Action.select test' bs) := by
  induction bs with
  | nil => exact pure _
  | cons b bs ih => exact (h b).bind fun _ => ih.bind fun _ => pure _

theorem inner {x : Action σ α} {y : Action τ α} (hx : Agrees R x y) :
    Agrees (Beside R : ρ × σ → ρ × τ → Prop) x.inner y.inner :=
  fun s t hst => ⟨(hx s.2 t.2 hst.2).1, hst.1, (hx s.2 t.2 hst.2).2⟩

theorem inner_without (x : Action σ α) : Agrees (Without (ρ := ρ)) x.inner x := by
  rintro y _ rfl
  exact ⟨rfl, rfl⟩

theorem beside_without {ω : Type} (x : Action (ω × σ) α) :
    Agrees (Beside (Without (ρ := ρ))) x.beside x := by
  rintro ⟨w, y⟩ ⟨_, _⟩ ⟨rfl, rfl⟩
  exact ⟨rfl, rfl, rfl⟩

theorem inner_holding (r : ρ) (x : Action σ α) : Agrees (Holding r) x.inner x := by
  rintro _ s rfl
  exact ⟨rfl, rfl⟩

theorem beside_holding {ω : Type} (r : ρ) (x : Action (ω × σ) α) :
    Agrees (Beside (Holding r)) x.beside x := by
  rintro ⟨w, y⟩ ⟨w', s⟩ ⟨same, held⟩
  obtain rfl : w = w' := same
  obtain rfl : y = (r, s) := held
  exact ⟨rfl, rfl, rfl⟩

theorem beside {ω : Type} {x : Action (ω × σ) α} {y : Action (ω × τ) α}
    (hx : Agrees (Beside R) x y) :
    Agrees (Beside (Beside R) : ω × ρ × σ → ω × ρ × τ → Prop) x.beside y.beside :=
  fun s t hst =>
    have h := hx (s.1, s.2.2) (t.1, t.2.2) ⟨hst.1, hst.2.2⟩
    ⟨h.1, h.2.1, hst.2.1, h.2.2⟩

/-- Where an own part is left alone, the action covers the one without it. -/
theorem covers_beside {ω : Type} {x : Action (ω × ρ × σ) α} {y : Action (ω × σ) α}
    (hx : Agrees (Beside Without) x y) : Covers (Prod.map id Prod.snd) x y := fun s =>
  have h := hx s (s.1, s.2.2) ⟨rfl, rfl⟩
  Prod.ext h.1.symm (Prod.ext h.2.1.symm h.2.2.symm)

end Agrees

/-! ## 2. How an action ends -/

/-- Run on a state, the action ends so that `P` is true of its outcome and the state it leaves. -/
def Ends (x : Action σ α) (s : σ) (P : Outcome α → σ → Prop) : Prop := P (x s).1 (x s).2

namespace Ends

variable {s : σ}

/-- What the action comes to. -/
theorem here (x : Action σ α) (s : σ) : Ends x s fun o t => x s = (o, t) := rfl

theorem result {x : Action σ α} {P : Outcome α → σ → Prop} {o : Outcome α} {t : σ} (h : Ends x s P)
    (hx : x s = (o, t)) : P o t := by
  unfold Ends at h
  rwa [hx] at h

theorem of_result {x : Action σ α} {P : Outcome α → σ → Prop} {o : Outcome α} {t : σ}
    (hx : x s = (o, t)) (h : P o t) : Ends x s P := by
  unfold Ends
  rwa [hx]

theorem mono {x : Action σ α} {P Q : Outcome α → σ → Prop} (h : Ends x s P)
    (hpq : ∀ o t, P o t → Q o t) : Ends x s Q := hpq _ _ h

theorem and {x : Action σ α} {P Q : Outcome α → σ → Prop} (hp : Ends x s P) (hq : Ends x s Q) :
    Ends x s fun o t => P o t ∧ Q o t := ⟨hp, hq⟩

/-- The second action takes up what the first one leaves. -/
theorem bind {x : Action σ α} {k : α → Action σ β} {P : Outcome α → σ → Prop}
    {Q : Outcome β → σ → Prop} (hx : Ends x s P) (done : ∀ a t, P (.done a) t → Ends (k a) t Q)
    (raised : ∀ f t, P (.raised f) t → Q (.raised f) t)
    (unfinished : ∀ t, P .unfinished t → Q .unfinished t) : Ends (x >>= k) s Q := by
  unfold Ends at hx ⊢
  revert hx
  rcases hs : x s with ⟨o, t⟩
  intro hx
  cases o with
  | done a =>
    rw [bind_done hs]
    exact done a t hx
  | raised f =>
    rw [bind_raised hs]
    exact raised f t hx
  | unfinished =>
    rw [bind_unfinished hs]
    exact unfinished t hx

/-- What is true of the state wherever the first action stops, and wherever the second one does. -/
theorem seq {x : Action σ α} {k : α → Action σ β} {P Q : σ → Prop} (hx : Ends x s fun _ t => P t)
    (halt : ∀ t, P t → Q t) (go : ∀ a t, P t → Ends (k a) t fun _ u => Q u) :
    Ends (x >>= k) s fun _ u => Q u := hx.bind go (fun _ => halt) halt

theorem bind_of_done {x : Action σ α} {k : α → Action σ β} {a : α} {P : σ → Prop}
    {Q : Outcome β → σ → Prop} (hx : Ends x s fun o t => o = .done a ∧ P t)
    (h : ∀ t, P t → Ends (k a) t Q) : Ends (x >>= k) s Q := by
  refine hx.bind ?_ (fun f t ht => ?_) (fun t ht => ?_)
  · rintro _ t ⟨⟨⟩, ht⟩
    exact h t ht
  · cases ht.1
  · cases ht.1

theorem of_read {g : σ → α} {k : α → Action σ β} {Q : Outcome β → σ → Prop}
    (h : Ends (k (g s)) s Q) : Ends (Action.read g >>= k) s Q := h

theorem of_ok {a : α} {k : α → Action σ β} {Q : Outcome β → σ → Prop} (h : Ends (k a) s Q) :
    Ends (Action.ofExcept (.ok a) >>= k) s Q := h

theorem of_modify {g : σ → σ} {k : Unit → Action σ β} {Q : Outcome β → σ → Prop}
    (h : Ends (k ()) (g s) Q) : Ends (Action.modify g >>= k) s Q := h

theorem recover {x : Action σ α} {handle : Fault → Option (Action σ α)}
    {P Q : Outcome α → σ → Prop} (hx : Ends x s P) (done : ∀ a t, P (.done a) t → Q (.done a) t)
    (handled : ∀ f t y, P (.raised f) t → handle f = some y → Ends y t Q)
    (raised : ∀ f t, P (.raised f) t → handle f = none → Q (.raised f) t)
    (unfinished : ∀ t, P .unfinished t → Q .unfinished t) : Ends (x.recover handle) s Q := by
  unfold Ends at hx ⊢
  revert hx
  rcases hs : x s with ⟨o, t⟩
  intro hx
  cases o with
  | done a => simpa [Action.recover, hs] using done a t hx
  | unfinished => simpa [Action.recover, hs] using unfinished t hx
  | raised f =>
    simp only [Action.recover, hs]
    cases hf : handle f with
    | none => exact raised f t hx hf
    | some y => exact handled f t y hx hf

/-- Whatever the cleanup answers, the fault stays, unless the cleanup ends with one of its own. -/
theorem onFault {x : Action σ α} {cleanup : Action σ Unit} {P Q : Outcome α → σ → Prop}
    (hx : Ends x s P) (done : ∀ a t, P (.done a) t → Q (.done a) t)
    (raised : ∀ f t, P (.raised f) t → Ends cleanup t fun o u =>
      (o ≠ .unfinished → ∀ g, Q (.raised g) u) ∧ (o = .unfinished → Q .unfinished u))
    (unfinished : ∀ t, P .unfinished t → Q .unfinished t) : Ends (x.onFault cleanup) s Q := by
  refine hx.recover done (fun f t y hf hy => ?_) (fun f t _ hn => nomatch hn) unfinished
  cases hy
  refine bind (x := cleanup) (raised f t hf) (fun _ u hu => ?_) (fun g u hu => ?_) fun u hu => ?_
  · exact hu.1 nofun f
  · exact hu.1 nofun g
  · exact hu.2 rfl

theorem inner {x : Action σ α} {P : Outcome α → σ → Prop} (hx : Ends x s P) (r : ρ) :
    Ends x.inner (r, s) fun o y => y.1 = r ∧ P o y.2 := ⟨rfl, hx⟩

/-- What the action and its cleanup keep. -/
theorem ensuring {x : Action σ α} {cleanup : Action σ Unit} {P : σ → Prop}
    (hx : Ends x s fun _ t => P t) (hc : ∀ t, P t → Ends cleanup t fun _ u => P u) :
    Ends (x.ensuring cleanup) s fun _ u => P u := by
  unfold Ends at hx ⊢
  by_cases hu : (x s).1 = .unfinished
  · have same : (x.ensuring cleanup s).2 = (x s).2 := by
      rcases hs : x s with ⟨o, t⟩
      rw [hs] at hu
      cases hu
      simp [Action.ensuring, hs]
    rwa [same]
  · rw [snd_ensuring hu]
    exact hc _ hx

end Ends

section Ensuring

variable {x : Action σ α} {cleanup : Action σ Unit} {s t u : σ} {o : Outcome α}

/-- A cleanup that succeeds leaves the outcome as it was. -/
theorem ensuring_of_clean (h : x s = (o, t)) (ho : o ≠ .unfinished)
    (hc : cleanup t = (.done (), u)) : x.ensuring cleanup s = (o, u) := by
  cases o with
  | unfinished => exact absurd rfl ho
  | done a => simp [ensuring, h, hc]
  | raised f => simp [ensuring, h, hc]

/-- A fault of the cleanup takes the place of the outcome. -/
theorem ensuring_of_fault {f : Fault} (h : x s = (o, t)) (ho : o ≠ .unfinished)
    (hc : cleanup t = (.raised f, u)) : x.ensuring cleanup s = (.raised f, u) := by
  cases o with
  | unfinished => exact absurd rfl ho
  | done a => simp [ensuring, h, hc]
  | raised g => simp [ensuring, h, hc]

/-- What is over has come to its end, and so has its cleanup. -/
theorem ended_of_ensuring (h : (x.ensuring cleanup s).1 ≠ .unfinished) :
    (x s).1 ≠ .unfinished ∧ (cleanup (x s).2).1 ≠ .unfinished := by
  unfold ensuring at h
  rcases hx : x s with ⟨o, t⟩
  rcases hc : cleanup t with ⟨o', u⟩
  rw [hx] at h
  cases o with
  | unfinished => exact absurd rfl h
  | done a =>
    refine ⟨nofun, fun hu => h ?_⟩
    cases o' <;> simp_all
  | raised f =>
    refine ⟨nofun, fun hu => h ?_⟩
    cases o' <;> simp_all

end Ensuring

/-! ## 3. Moves of a part of the state -/

/-- An action that changes what `view` shows by moves of one kind only, however it ends. -/
def Drifts (Move : ρ → ρ → Prop) (view : σ → ρ) (x : Action σ α) : Prop :=
  ∀ s, Relation.ReflTransGen Move (view s) (view (x s).2)

namespace Drifts

variable {Move : ρ → ρ → Prop} {view : σ → ρ}

theorem ends {x : Action σ α} (hx : Drifts Move view x) (s : σ) :
    Ends x s fun _ t => Relation.ReflTransGen Move (view s) (view t) := hx s

theorem mono {Move' : ρ → ρ → Prop} {x : Action σ α} (hx : Drifts Move view x)
    (h : ∀ a b, Move a b → Move' a b) : Drifts Move' view x := fun s =>
  Relation.ReflTransGen.mono h _ _ (hx s)

/-- What leaves the view alone. -/
theorem of_eq {x : Action σ α} (h : ∀ s, view (x s).2 = view s) : Drifts Move view x := fun s => by
  rw [h s]

theorem pure (a : α) : Drifts Move view (Pure.pure a : Action σ α) := .of_eq fun _ => rfl

/-- What is one move. -/
theorem of_move {x : Action σ α} (h : ∀ s, Move (view s) (view (x s).2)) : Drifts Move view x :=
  fun s => .single (h s)

theorem raise (f : Fault) : Drifts Move view (raise f : Action σ α) := .of_eq fun _ => rfl

theorem exhausted : Drifts Move view (exhausted : Action σ α) := .of_eq fun _ => rfl

theorem read (g : σ → α) : Drifts Move view (read g) := .of_eq fun _ => rfl

theorem ofExcept (e : Except Fault α) : Drifts Move view (ofExcept e : Action σ α) := by
  cases e <;> exact .of_eq fun _ => rfl

theorem bind {x : Action σ α} {k : α → Action σ β} (hx : Drifts Move view x)
    (hk : ∀ a, Drifts Move view (k a)) : Drifts Move view (x >>= k) := by
  intro s
  have h := hx s
  revert h
  rcases hs : x s with ⟨o, t⟩
  intro h
  cases o with
  | done a =>
    rw [bind_done hs]
    exact h.trans (hk a t)
  | raised f => rwa [bind_raised hs]
  | unfinished => simpa [after, hs] using h

theorem recover {x : Action σ α} {handle : Fault → Option (Action σ α)}
    (hx : Drifts Move view x) (hh : ∀ f, ∀ y ∈ handle f, Drifts Move view y) :
    Drifts Move view (x.recover handle) := by
  intro s
  have h := hx s
  revert h
  rcases hs : x s with ⟨o, t⟩
  intro h
  cases o with
  | done a => simpa [Action.recover, hs] using h
  | unfinished => simpa [Action.recover, hs] using h
  | raised f =>
    simp only [Action.recover, hs]
    cases hf : handle f with
    | none => exact h
    | some y => exact h.trans (hh f y hf t)

theorem ensuring {x : Action σ α} {cleanup : Action σ Unit} (hx : Drifts Move view x)
    (hc : Drifts Move view cleanup) : Drifts Move view (x.ensuring cleanup) := by
  intro s
  exact (hx.ends s).ensuring fun t ht => ht.trans (hc t)

theorem onFault {x : Action σ α} {cleanup : Action σ Unit} (hx : Drifts Move view x)
    (hc : Drifts Move view cleanup) : Drifts Move view (x.onFault cleanup) := by
  refine hx.recover fun f y hy => ?_
  cases hy
  exact bind (x := cleanup) hc fun _ => .raise f

theorem each {act : β → Action σ Unit} (h : ∀ b, Drifts Move view (act b)) (bs : List β) :
    Drifts Move view (each act bs) := by
  induction bs with
  | nil => exact .pure ()
  | cons b bs ih => exact (h b).bind fun _ => ih

theorem select {test : β → Action σ Bool} (h : ∀ b, Drifts Move view (test b)) (bs : List β) :
    Drifts Move view (select test bs) := by
  induction bs with
  | nil => exact .pure _
  | cons b bs ih => exact (h b).bind fun _ => ih.bind fun _ => .pure _

theorem inner {x : Action σ α} (hx : Drifts Move view x) :
    Drifts Move (fun y : τ × σ => view y.2) x.inner := fun y => hx y.2

end Drifts

/-! ## 4. Faults of one kind -/

/-- An action that ends with no fault but those of which `p` is true, on every state. -/
def Raises (p : Fault → Prop) (x : Action σ α) : Prop := ∀ s f, (x s).1 = .raised f → p f

namespace Raises

variable {p q : Fault → Prop} {x : Action σ α}

theorem mono (hx : Raises p x) (h : ∀ f, p f → q f) : Raises q x :=
  fun s f hf => h f (hx s f hf)

theorem ends (hx : Raises p x) (s : σ) : Ends x s fun o _ => ∀ f, o = .raised f → p f := hx s

theorem pure (a : α) : Raises p (Pure.pure a : Action σ α) := fun _ _ => nofun

theorem raise {f : Fault} (h : p f) : Raises p (Action.raise f : Action σ α) := by
  rintro s _ ⟨⟩
  exact h

theorem exhausted : Raises p (exhausted : Action σ α) := fun _ _ => nofun

theorem read (g : σ → α) : Raises p (read g) := fun _ _ => nofun

theorem modify (g : σ → σ) : Raises p (modify g) := fun _ _ => nofun

theorem ofExcept {e : Except Fault α} (h : ∀ f, e = .error f → p f) :
    Raises p (ofExcept e : Action σ α) := by
  cases e with
  | ok a => exact pure a
  | error f => exact raise (h f rfl)

theorem bind {k : α → Action σ β} (hx : Raises p x) (hk : ∀ a, Raises p (k a)) :
    Raises p (x >>= k) := fun s =>
  (hx.ends s).bind (fun a t _ => (hk a).ends t) (fun f _ h g hg => by cases hg; exact h f rfl)
    fun _ _ _ => nofun

/-- What is handled ends with the faults of its handler. -/
theorem recover {handle : Fault → Option (Action σ α)} (hx : Raises q x)
    (handled : ∀ f, q f → ∀ y ∈ handle f, Raises p y) (raised : ∀ f, q f → handle f = none → p f) :
    Raises p (x.recover handle) := fun s =>
  (hx.ends s).recover (fun _ _ _ _ => nofun)
    (fun f t y hf hy => (handled f (hf f rfl) y hy).ends t)
    (fun f _ hf hn _ hg => by cases hg; exact raised f (hf f rfl) hn) fun _ _ _ => nofun

theorem onFault {cleanup : Action σ Unit} (hx : Raises p x) (hc : Raises p cleanup) :
    Raises p (x.onFault cleanup) := by
  refine hx.recover (fun f hf y hy => ?_) fun f _ hn => nomatch hn
  cases hy
  exact bind (x := cleanup) hc fun _ => raise hf

theorem each_mem {act : β → Action σ Unit} {bs : List β} (h : ∀ b ∈ bs, Raises p (act b)) :
    Raises p (each act bs) := by
  induction bs with
  | nil => exact pure ()
  | cons b bs ih =>
    exact (h b List.mem_cons_self).bind fun _ => ih fun b hb => h b (List.mem_cons_of_mem _ hb)

theorem each {act : β → Action σ Unit} (h : ∀ b, Raises p (act b)) (bs : List β) :
    Raises p (each act bs) := each_mem fun b _ => h b

theorem select {test : β → Action σ Bool} (h : ∀ b, Raises p (test b)) (bs : List β) :
    Raises p (select test bs) := by
  induction bs with
  | nil => exact pure _
  | cons b bs ih => exact (h b).bind fun _ => ih.bind fun _ => pure _

theorem inner (hx : Raises p x) : Raises p (x.inner : Action (ρ × σ) α) := fun s => hx s.2

end Raises

/-! ## 5. Coming to an end -/

/-- An answer, or a fault of which `p` is true. -/
inductive Conclusive (p : Fault → Prop) : Outcome α → Prop
  | done (a : α) : Conclusive p (.done a)
  | raised {f : Fault} (h : p f) : Conclusive p (.raised f)

theorem Conclusive.mono {p q : Fault → Prop} {o : Outcome α} (ho : Conclusive p o)
    (h : ∀ f, p f → q f) : Conclusive q o := by
  cases ho with
  | done a => exact .done a
  | raised hp => exact .raised (h _ hp)

/-- A fault ends whatever comes after it as well. -/
theorem Conclusive.passed_on {p : Fault → Prop} {f : Fault}
    (h : Conclusive p (.raised f : Outcome α)) : Conclusive p (.raised f : Outcome β) := by
  cases h with
  | raised hp => exact .raised hp

/-- An action that ends with an answer, or with a fault of which `p` is true, on every state. -/
def Concludes (p : Fault → Prop) (x : Action σ α) : Prop := ∀ s, Conclusive p (x s).1

namespace Concludes

variable {p q : Fault → Prop} {x : Action σ α}

theorem mono (hx : Concludes p x) (h : ∀ f, p f → q f) : Concludes q x := fun s => (hx s).mono h

theorem ends (hx : Concludes p x) (s : σ) : Ends x s fun o _ => Conclusive p o := hx s

theorem pure (a : α) : Concludes p (Pure.pure a : Action σ α) := fun _ => .done a

theorem raise {f : Fault} (h : p f) : Concludes p (Action.raise f : Action σ α) :=
  fun _ => .raised h

theorem read (g : σ → α) : Concludes p (Action.read g) := fun s => .done (g s)

theorem modify (g : σ → σ) : Concludes p (Action.modify g) := fun _ => .done ()

theorem ofExcept {e : Except Fault α} (h : ∀ f, e = .error f → p f) :
    Concludes p (Action.ofExcept e : Action σ α) := by
  cases e with
  | ok a => exact pure a
  | error f => exact raise (h f rfl)

theorem bind {k : α → Action σ β} (hx : Concludes p x) (hk : ∀ a, Concludes p (k a)) :
    Concludes p (x >>= k) := fun s => by
  have concluded : Ends (x >>= k) s fun o _ => Conclusive p o := by
    refine (hx.ends s).bind (fun a t _ => (hk a).ends t) (fun f t h => ?_) fun t h => nomatch h
    cases h with
    | raised h => exact .raised h
  exact concluded

theorem of_ok {a : α} {k : α → Action σ β} (h : Concludes p (k a)) :
    Concludes p (Action.ofExcept (.ok a) >>= k) := h

theorem of_error {f : Fault} (k : α → Action σ β) (h : p f) :
    Concludes p (Action.ofExcept (.error f) >>= k) := fun _ => .raised h

/-- What is handled ends with the faults of its handler. -/
theorem recover {handle : Fault → Option (Action σ α)} (hx : Concludes q x)
    (handled : ∀ f, q f → ∀ y ∈ handle f, Concludes p y)
    (raised : ∀ f, q f → handle f = none → p f) : Concludes p (x.recover handle) := fun s => by
  have concluded : Ends (x.recover handle) s fun o _ => Conclusive p o := by
    refine (hx.ends s).recover (fun a _ _ => .done a) (fun f t y h hy => ?_) (fun f t h hn => ?_)
      fun t h => nomatch h
    · cases h with
      | raised h => exact (handled f h y hy).ends t
    · cases h with
      | raised h => exact .raised (raised f h hn)
  exact concluded

theorem each {act : β → Action σ Unit} (h : ∀ b, Concludes p (act b)) (bs : List β) :
    Concludes p (each act bs) := by
  induction bs with
  | nil => exact pure ()
  | cons b bs ih => exact (h b).bind fun _ => ih

theorem inner (hx : Concludes p x) : Concludes p (x.inner : Action (ρ × σ) α) := fun s => hx s.2

end Concludes

end Respawn.Action
