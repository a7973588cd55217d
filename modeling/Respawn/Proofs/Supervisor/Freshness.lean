import Respawn.Proofs.Supervisor.Ledger
import Respawn.Proofs.Watch.NoLoss

/-!
# No stale instance

A run is driven by a watcher. A change is answered by a launch that begins after it, or by a stop that
begins after it and that the instance survives. Between two rounds either every change so far has been
answered, or the watcher owes a trigger.

* `settled_of_goes`: what happens while others act is owed or was answered;
* `start_ends`, `stop_ends`, `restart_ends`, `round_ends`: what each operation leaves behind;
* `no_stale_instance`: a wait that gives no trigger finds every change before it answered.
-/

namespace Respawn.Supervisor

open Respawn.Action (Ends)
open Relation (ReflTransGen)
open Watch (Faithful Passes Sighting View Watcher)
open Watch.Watcher (Concerns Continues Goes News Owed Sound Turn Waited)

variable {T O σ : Type}

/-! ## 1. Answers -/

/-- The call answers the change with the given number: it is an attempt that began after it. -/
def Call.Answers (view : σ → View O) (i : Nat) : Call (Watcher T O × σ) → Prop
  | .launch b _ _ => i < (view b.2).history.length
  | .stop b _ (.raised f) _ => isSurvival f = true ∧ i < (view b.2).history.length
  | _ => False

/-- Every change so far that concerns the watcher has been answered. -/
def Answered (cwd : Path) (view : σ → View O) (w : Watcher T O) (l : List (Call (Watcher T O × σ)))
    (v : View O) : Prop :=
  ∀ i c, v.history[i]? = some c → w.Concerns cwd c →
    ∃ call ∈ l, call.Answers view i ∧ (view call.before.2).history <+: v.history

/-- Every change so far has been answered, or the watcher owes a trigger. -/
def Settled (cwd : Path) (view : σ → View O) (w : Watcher T O) (l : List (Call (Watcher T O × σ)))
    (v : View O) : Prop := w.Owed v ∨ Answered cwd view w l v

/-- No wait that gave no trigger left a change unanswered. -/
def Fresh (cwd : Path) (view : σ → View O) (l : List (Call (Watcher T O × σ))) : Prop :=
  ∀ pre b a post, l = pre ++ .wait b (.done none) a :: post → Answered cwd view b.1 pre (view b.2)

section Settled

variable {cwd : Path} {view : σ → View O} {w w' : Watcher T O}
  {l : List (Call (Watcher T O × σ))} {call : Call (Watcher T O × σ)} {v v' : View O}

theorem Answered.concat (h : Answered cwd view w l v) (call : Call (Watcher T O × σ)) :
    Answered cwd view w (l ++ [call]) v := by
  intro i c hi hc
  obtain ⟨answer, hm, ha⟩ := h i c hi hc
  exact ⟨answer, List.mem_append_left _ hm, ha⟩

theorem Settled.concat (h : Settled cwd view w l v) (call : Call (Watcher T O × σ)) :
    Settled cwd view w (l ++ [call]) v := h.imp_right fun h => h.concat call

/-- What happens while others act is owed or was answered. -/
theorem settled_of_goes (h : Settled cwd view w l v) (hg : Goes cwd w v w' v') :
    Settled cwd view w' l v' := by
  rcases h with ho | ha
  · exact .inl (hg.owed (.inl ho))
  · by_cases hn : w.News cwd v v'
    · exact .inl (hg.owed (.inr hn))
    · refine .inr fun i c hi hc => ?_
      obtain ⟨new, hnew⟩ := hg.history
      by_cases hlt : i < v.history.length
      · rw [← hnew, List.getElem?_append_left hlt] at hi
        obtain ⟨answer, hm, ha, hp⟩ := ha i c hi (by rw [hg.same] at hc; exact hc)
        exact ⟨answer, hm, ha, hp.trans hg.history⟩
      · refine absurd ⟨c, ?_, by rw [hg.same] at hc; exact hc⟩ hn
        rw [← hnew, List.getElem?_append_right (Nat.le_of_not_lt hlt)] at hi
        rw [← hnew, List.drop_left]
        exact List.mem_of_getElem? hi

/-- An attempt answers everything that happened before it. -/
theorem answered_of_attempt {b : Watcher T O × σ}
    (ha : ∀ i, i < (view b.2).history.length → call.Answers view i) (hb : call.before = b) :
    Answered cwd view w (l ++ [call]) (view b.2) := by
  intro i c hi _
  have hlt : i < (view b.2).history.length := (List.getElem?_eq_some_iff.1 hi).1
  exact ⟨call, by simp, ha i hlt, hb ▸ List.prefix_rfl⟩

/-- After an attempt everything is settled. -/
theorem settled_of_attempt {x x' : σ} (hs : w.Sound cwd (view x)) (hb : call.before = (w, x))
    (hw : w' = w) (ha : ∀ i, i < (view x).history.length → call.Answers view i)
    (hp : Passes cwd (view x) (view x')) :
    w'.Sound cwd (view x') ∧ Settled cwd view w' (l ++ [call]) (view x') := by
  have answered : Answered cwd view w (l ++ [call]) (view x) :=
    answered_of_attempt (b := (w, x)) ha hb
  have goes := Goes.of_passes hs hp
  rw [hw]
  exact ⟨goes.sound, settled_of_goes (.inr answered) goes⟩

theorem Fresh.nil : Fresh cwd view ([] : List (Call (Watcher T O × σ))) :=
  fun pre b a post h => by simp at h

theorem Fresh.concat (h : Fresh cwd view l)
    (hc : ∀ b a, call = .wait b (.done none) a → Answered cwd view b.1 l (view b.2)) :
    Fresh cwd view (l ++ [call]) := by
  intro pre b a post he
  rcases cut_concat he with ⟨rfl, hcall, -⟩ | ⟨post, -, he⟩
  · exact hc b a hcall.symm
  · exact h pre b a post he

end Settled

/-! ## 2. The operations -/

/-- An action that leaves the watcher to itself, while others act. -/
def LeavesAlone {α : Type} (cwd : Path) (view : σ → View O) (x : Action (Watcher T O × σ) α) :
    Prop :=
  ∀ w s, Ends x (w, s) fun _ y => y.1 = w ∧ Passes cwd (view s) (view y.2)

variable [Watch.Mailboxed σ] [Log.Logbook σ] [LT T] [DecidableLT T] [Zero T]

/-- A crew with the watcher for its triggers. While it launches, stops or polls, others act. -/
structure Attentive (h : Watch.Host T O σ) (cwd : Path) (view : σ → View O)
    (crew : Crew T (Watcher T O × σ)) : Prop where
  launch (i) : LeavesAlone cwd view (crew.launch i)
  stop (c) : LeavesAlone cwd view (crew.stop c)
  poll (c) : LeavesAlone cwd view (crew.poll c)
  wait (phase interval) : crew.wait phase interval = Watcher.wait h cwd (some interval)

/-- What an operation leaves behind: no stale instance so far, and if it did not end with a fault,
    everything is settled. -/
def Leaves {α : Type} (cwd : Path) (view : σ → View O) (r : Outcome α)
    (y : Supervisor × List (Call (Watcher T O × σ)) × Watcher T O × σ) : Prop :=
  Fresh cwd view y.2.1 ∧ (∀ a, r = .done a →
    y.2.2.1.Sound cwd (view y.2.2.2) ∧ Settled cwd view y.2.2.1 y.2.1 (view y.2.2.2))

section Operations

variable {h : Watch.Host T O σ} {cwd : Path} {view : σ → View O}
  {crew : Crew T (Watcher T O × σ)} {s : Supervisor} {l : List (Call (Watcher T O × σ))}
  {w : Watcher T O} {x : σ}

/-- **A start that is not refused settles everything.** -/
theorem start_ends (hf : Faithful h cwd view) (hc : Attentive h cwd view crew)
    (hs : w.Sound cwd (view x)) (hl : Fresh cwd view l) :
    Ends (start crew.recorded) (s, l, w, x) (Leaves cwd view) := by
  have launch {o l' w' x'} (call : writing .launch (crew.launch s.invocation) (l, w, x) =
      (o, l', w', x')) : Fresh cwd view l' ∧ w'.Sound cwd (view x') ∧
        Settled cwd view w' l' (view x') := by
    obtain ⟨made, rfl⟩ := writing_eq call
    have alone := (hc.launch s.invocation w x).result made
    exact ⟨hl.concat nofun, settled_of_attempt hs rfl alone.1 (fun i hi => hi) alone.2⟩
  refine Ends.mono (P := fun r y => Started crew.recorded (s, l, w, x) (r, y)) (started _ _) ?_
  intro r y begun
  cases begun with
  | refused held => exact ⟨hl, nofun⟩
  | launched free call => exact ⟨(launch call).1, fun _ _ => (launch call).2⟩
  | @failed _ _ y _ free call hfail =>
    obtain ⟨l', w', x'⟩ := y
    obtain ⟨fresh, sound, settled⟩ := launch call
    refine ⟨fresh, fun _ _ => ?_⟩
    simp only [Log.note_mk, hf.note]
    exact ⟨sound, settled⟩
  | broken free call hfail => exact ⟨(launch call).1, nofun⟩
  | unfinished free call => exact ⟨(launch call).1, nofun⟩

/-- A stop leaves the watcher sound, and if the instance survives it, it settles everything. -/
theorem stop_ends (hf : Faithful h cwd view) (hc : Attentive h cwd view crew)
    (hs : w.Sound cwd (view x)) (hl : Fresh cwd view l) :
    Ends (stop crew.recorded) (s, l, w, x) fun r y => Fresh cwd view y.2.1 ∧
      (r = .done true → y.2.2.1.Sound cwd (view y.2.2.2)) ∧
      (r = .done false → y.2.2.1.Sound cwd (view y.2.2.2) ∧
        Settled cwd view y.2.2.1 y.2.1 (view y.2.2.2)) := by
  have stop {c o l' w' x'} (call : writing (.stop · c) (crew.stop c) (l, w, x) =
      (o, l', w', x')) : Fresh cwd view l' ∧ w'.Sound cwd (view x') ∧
        (∀ f, o = .raised f → isSurvival f = true → Settled cwd view w' l' (view x')) := by
    obtain ⟨made, rfl⟩ := writing_eq call
    obtain ⟨same, passes⟩ : w' = w ∧ _ := (hc.stop c w x).result made
    refine ⟨hl.concat nofun, ?_, fun f ho hsurv => ?_⟩
    · rw [same]
      exact hs.later passes.later
    · subst ho
      have answers : ∀ i, i < (view x).history.length →
          (Call.stop (w, x) c (.raised f) (w', x')).Answers view i := fun i hi => ⟨hsurv, hi⟩
      exact (settled_of_attempt hs rfl same answers passes).2
  refine Ends.mono (P := fun r y => Stopped crew.recorded (s, l, w, x) (r, y)) (stopped _ _) ?_
  intro r y begun
  cases begun with
  | idle free => exact ⟨hl, fun _ => hs, nofun⟩
  | stopped held call => exact ⟨(stop call).1, fun _ => (stop call).2.1, nofun⟩
  | @survived _ _ y _ _ held call hsurv =>
    obtain ⟨l', w', x'⟩ := y
    obtain ⟨fresh, sound, settled⟩ := stop call
    refine ⟨fresh, nofun, fun _ => ?_⟩
    simp only [Log.note_mk, hf.note]
    exact ⟨sound, settled _ rfl hsurv⟩
  | broken held call hsurv => exact ⟨(stop call).1, nofun, nofun⟩
  | unfinished held call => exact ⟨(stop call).1, nofun, nofun⟩

/-- **A restart settles everything.** -/
theorem restart_ends (hf : Faithful h cwd view) (hc : Attentive h cwd view crew)
    (hs : w.Sound cwd (view x)) (hl : Fresh cwd view l) :
    Ends (restart crew.recorded) (s, l, w, x) (Leaves cwd view) := by
  refine Ends.of_modify ((stop_ends hf hc hs hl).bind ?_ (fun f y hy => ⟨hy.1, nofun⟩)
    fun y hy => ⟨hy.1, nofun⟩)
  intro b y hy
  obtain ⟨s', l', w', x'⟩ := y
  obtain ⟨fresh, stopped, survived⟩ := hy
  cases b with
  | true => exact start_ends hf hc (stopped rfl) fresh
  | false => exact ⟨fresh, fun _ _ => survived rfl⟩

/-- A look at the instance keeps what is settled. -/
theorem check_ends (hf : Faithful h cwd view) (hc : Attentive h cwd view crew)
    (hs : w.Sound cwd (view x)) (hl : Fresh cwd view l) (hset : Settled cwd view w l (view x)) :
    Ends (check crew.recorded) (s, l, w, x) (Leaves cwd view) := by
  have poll {c o l' w' x'} (call : writing (.poll · c) (crew.poll c) (l, w, x) =
      (o, l', w', x')) : Fresh cwd view l' ∧ w'.Sound cwd (view x') ∧
        Settled cwd view w' l' (view x') := by
    obtain ⟨made, rfl⟩ := writing_eq call
    obtain ⟨same, passes⟩ : w' = w ∧ _ := (hc.poll c w x).result made
    have goes := Goes.of_passes hs passes
    rw [same]
    exact ⟨hl.concat nofun, goes.sound, (settled_of_goes hset goes).concat _⟩
  refine Ends.mono (P := fun r y => Checked crew.recorded (s, l, w, x) (r, y)) (checked _ _) ?_
  intro r y begun
  cases begun with
  | idle free => exact ⟨hl, fun _ _ => ⟨hs, hset⟩⟩
  | alive held call => exact ⟨(poll call).1, fun _ _ => (poll call).2⟩
  | @ended _ _ y _ _ held call =>
    obtain ⟨l', w', x'⟩ := y
    obtain ⟨fresh, sound, settled⟩ := poll call
    refine ⟨fresh, fun _ _ => ?_⟩
    simp only [Log.note_mk, hf.note]
    exact ⟨sound, settled⟩
  | broken held call => exact ⟨(poll call).1, nofun⟩
  | unfinished held call => exact ⟨(poll call).1, nofun⟩

/-- **A round that begins settled ends settled.** -/
theorem round_ends (hf : Faithful h cwd view) (hc : Attentive h cwd view crew) (interval : T)
    (hs : w.Sound cwd (view x)) (hl : Fresh cwd view l) (hset : Settled cwd view w l (view x)) :
    Ends (round crew.recorded interval) (s, l, w, x) (Leaves cwd view) := by
  refine Ends.of_read ?_
  have waits : Ends (writing .wait (crew.wait s.phase interval)) (l, w, x) fun r y =>
      y.1 = l ++ [.wait (w, x) r y.2] ∧ Waited cwd w (view x) r y.2.1 (view y.2.2) := by
    refine ⟨rfl, ?_⟩
    have := Watcher.waited_wait (x := (w, x)) hf hs (some interval)
    simpa only [writing_apply, hc.wait] using this
  refine (waits.inner s).bind ?_ ?_ ?_
  · intro r y hy
    obtain ⟨s', l', w', x'⟩ := y
    obtain ⟨hsame, hled, hw⟩ := hy
    obtain rfl : s = s' := hsame.symm
    obtain rfl : l' = l ++ [.wait (w, x) (.done r) (w', x')] := hled
    cases r with
    | none =>
      obtain ⟨goes, nothing⟩ := hw
      have answered : Answered cwd view w l (view x) := hset.resolve_left nothing
      refine check_ends hf hc goes.sound (hl.concat fun b a hb => ?_)
        ((settled_of_goes hset goes).concat _)
      cases hb
      exact answered
    | some t =>
      have fresh : Fresh cwd view (l ++ [.wait (w, x) (.done (some t)) (w', x')]) := hl.concat nofun
      have sound : w'.Sound cwd (view (Log.Logbook.note (restartRecord t s) x')) := by
        rw [hf.note]
        exact hw.2.2.sound
      refine Ends.of_read (Ends.of_modify ?_)
      refine (restart_ends hf hc sound fresh).bind ?_ (fun f y hy => ⟨hy.1, nofun⟩)
        fun y hy => ⟨hy.1, nofun⟩
      intro b y hy
      exact ⟨hy.1, fun _ _ => hy.2 b rfl⟩
  · intro f y hy
    obtain ⟨s', l', y⟩ := y
    obtain rfl : l' = l ++ [.wait (w, x) (.raised f) y] := hy.2.1
    exact ⟨hl.concat nofun, nofun⟩
  · intro y hy
    obtain ⟨s', l', y⟩ := y
    obtain rfl : l' = l ++ [.wait (w, x) .unfinished y] := hy.2.1
    exact ⟨hl.concat nofun, nofun⟩

variable [Stoppable σ]

theorem rounds_ends (hf : Faithful h cwd view) (hc : Attentive h cwd view crew) (interval : T)
    (patience : Nat) : ∀ {s l w x}, w.Sound cwd (view x) → Fresh cwd view l →
      Settled cwd view w l (view x) →
      Ends (rounds crew.recorded interval patience) (s, l, w, x) fun _ y => Fresh cwd view y.2.1 := by
  induction patience with
  | zero => exact fun _ hl _ => hl
  | succ patience ih =>
    intro s l w x hs hl hset
    refine Ends.of_read ?_
    split
    · exact hl
    · refine (round_ends hf hc interval hs hl hset).bind ?_ (fun f y hy => hy.1) fun y hy => hy.1
      intro u y hy
      obtain ⟨s', l', w', x'⟩ := y
      obtain ⟨sound, settled⟩ := hy.2 u rfl
      exact ih sound hy.1 settled

theorem run_ends (hf : Faithful h cwd view) (hc : Attentive h cwd view crew) (interval : T)
    (patience : Nat) (hs : w.Sound cwd (view x)) :
    Ends (run crew.recorded interval patience) (s, [], w, x) fun _ y => Fresh cwd view y.2.1 := by
  refine Ends.of_read (Ends.of_modify ?_)
  have sound : w.Sound cwd (view (Log.Logbook.note (runRecord s) x)) := by
    rw [hf.note]
    exact hs
  refine (start_ends hf hc sound .nil).bind ?_ (fun f y hy => hy.1) fun y hy => hy.1
  intro b y hy
  obtain ⟨s', l', w', x'⟩ := y
  obtain ⟨sound, settled⟩ := hy.2 b rfl
  exact rounds_ends hf hc interval patience sound hy.1 settled

end Operations

/-! ## 3. The guarantee -/

/-- **No stale instance.** The watcher was started, and others may have acted and waited since. Whenever
    a wait of the loop gives no trigger, every change that concerns the watcher and happened before that
    wait began was answered before it: by a launch that began after the change, or by a stop that
    began after the change and that the instance survived. -/
theorem no_stale_instance [Stoppable σ] {h : Watch.Host T O σ} {cwd : Path} {view : σ → View O}
    (hf : Faithful h cwd view) {crew : Crew T (Watcher T O × σ)} (hc : Attentive h cwd view crew)
    {x₀ x : Watcher T O × σ} (hstart : (Watcher.start h cwd x₀).1 = .done ())
    (hrun : ReflTransGen (Turn h cwd view) (Watcher.start h cwd x₀).2 x) (s : Supervisor)
    (interval : T) (patience : Nat) :
    ∀ pre b a post, (run crew.recorded interval patience (s, [], x)).2.2.1 =
        pre ++ .wait b (.done none) a :: post →
      ∀ i c, (view b.2).history[i]? = some c → b.1.Concerns cwd c →
        ∃ call ∈ pre, call.Answers view i ∧
          (view call.before.2).history <+: (view b.2).history := by
  have sound : x.1.Sound cwd (view x.2) :=
    Watcher.sound_of_run hf (Watcher.start_ends hf x₀.1 x₀.2 hstart) hrun
  exact run_ends (s := s) hf hc interval patience sound

section Lookout

open Watch.Lookout (root sentry guarded edit)

/-- A shutdown is asked for once nothing is left of the script. -/
instance : Stoppable Watch.Lookout where
  asked s := s.script.isEmpty
  ask s := { s with script := [] }
  asked_ask _ := rfl

/-- An attempt that succeeds while others take a turn. -/
def meanwhile {α : Type} (a : α) : Action (Watcher Seconds Nat × Watch.Lookout) α :=
  fun y => (.done a, y.1, y.2.turn root)

/-- A crew that always succeeds. -/
def ableCrew (c : Child.Handle) : Crew Seconds (Watcher Seconds Nat × Watch.Lookout) where
  launch _ := meanwhile c
  stop _ := meanwhile ()
  poll _ := meanwhile none
  wait _ interval := Watcher.wait (Watch.Lookout.host root) root (some interval)

theorem attentive_ableCrew (c : Child.Handle) :
    Attentive (Watch.Lookout.host root) root Watch.Lookout.view (ableCrew c) where
  launch _ _ s := ⟨rfl, Watch.Lookout.passes_turn root s⟩
  stop _ _ s := ⟨rfl, Watch.Lookout.passes_turn root s⟩
  poll _ _ s := ⟨rfl, Watch.Lookout.passes_turn root s⟩
  wait _ _ := rfl

/-- The calls of a run with two changes: one during the first wait, one during the stop after it. -/
def editedLedger : List (Call (Watcher Seconds Nat × Watch.Lookout)) :=
  (run (ableCrew ⟨1, true, [], ""⟩).recorded (.whole 1) 5
    (ofInvocation ⟨[], root⟩, [], guarded ([[], [.event edit], [], [], [.event edit]] ++
      List.replicate 9 []))).2.2.1

/-- A wait that gave no trigger and began after both changes. -/
def isQuiet : Call (Watcher Seconds Nat × Watch.Lookout) → Bool
  | .wait b (.done none) _ => b.2.history = [edit, edit] ∧ b.1.Concerns root edit
  | _ => false

/-- Both changes have been answered when a wait gives no trigger. -/
theorem no_stale_instance_edited :
    ∃ pre call post, editedLedger = pre ++ call :: post ∧ isQuiet call ∧
      ∀ i < 2, ∃ answer ∈ pre, answer.Answers Watch.Lookout.view i ∧
        answer.before.2.history <+: [edit, edit] := by
  have quiet : ∃ call ∈ editedLedger, isQuiet call := by decide +kernel
  obtain ⟨call, hm, hq⟩ := quiet
  obtain ⟨pre, post, split⟩ := List.append_of_mem hm
  refine ⟨pre, call, post, split, hq, fun i hi => ?_⟩
  unfold isQuiet at hq
  split at hq
  · next b a =>
    obtain ⟨history, concerns⟩ := of_decide_eq_true hq
    rw [← history]
    have answered := no_stale_instance (Watch.Lookout.faithful_host root)
      (attentive_ableCrew ⟨1, true, [], ""⟩) (Watch.Lookout.start_sentry _) .refl _ (.whole 1) 5 _ _
      _ _ split
    refine answered i edit ?_ concerns
    show b.2.history[i]? = some edit
    rw [history]
    obtain rfl | rfl : i = 0 ∨ i = 1 := by omega
    · rfl
    · rfl
  · cases hq

end Lookout

end Respawn.Supervisor
