import Respawn.Proofs.Child.Pace

/-!
# A small world of processes to be stopped

In a crowd some processes are deaf to signals, others may not be signalled at all, and a wait can end
with the news that one of the processes waited for is missing. A wait that leaves somebody takes a
second.

* `host_responsive`: its calls come to an end, and which of them are refused;
* `host_distinct`: it lists every process once;
* `host_paced`: a period of so many seconds is over after so many waits.
-/

namespace Respawn.Child

open Respawn.Action (Concludes)

/-- Who runs, who was started below the child, who is deaf to signals, whether the next wait tells of
    one who is missing, and the time. -/
structure Crowd where
  running : List Pid
  below : List Pid
  deaf : List Pid
  telling : Bool
  time : Int
  distinct : below.Nodup

namespace Crowd

/-- Nobody reads the log of a crowd. -/
instance : Log.Logbook Crowd := ⟨fun _ s => s⟩

/-- An answer about a process that runs. -/
def ask {α : Type} (p : Pid) (answer : Crowd → α) : Action Crowd α := fun s =>
  if s.running.contains p then (.done (answer s), s) else (.raised (.noSuchProcess p), s)

/-- A signal, which some processes may not be sent. -/
def signal (barred : List Pid) (p : Pid) : Action Crowd Unit := fun s =>
  if barred.contains p then (.raised (.accessDenied p), s)
  else if s.running.contains p then
    (.done (), if s.deaf.contains p then s else { s with running := s.running.filter (· ≠ p) })
  else (.raised (.noSuchProcess p), s)

/-- Those of the processes that run. -/
def remaining (s : Crowd) (ps : List Pid) : List Pid := ps.filter (s.running.contains ·)

/-- A wait. -/
def waitAll (ps : List Pid) : Action Crowd (List Pid) := fun s =>
  match s.telling, ps.find? (!s.running.contains ·) with
  | true, some missing => (.raised (.noSuchProcess missing), { s with telling := false })
  | _, _ =>
    (.done (s.remaining ps),
      if (s.remaining ps).isEmpty then s else { s with time := s.time + 1 })

/-- The processes of a crowd. -/
def host (barred : List Pid) : Host Seconds Crowd where
  spawn _ := .exhausted
  find p := ask p fun _ => ()
  terminate := signal barred
  kill := signal barred
  descendants p := ask p fun s => s.below.filter (· ≠ p)
  status p := ask p fun _ => .running
  waitAll ps _ := waitAll ps
  now := .read fun s => .whole s.time
  reap p _ := .read fun s => if s.running.contains p then none else some (-9)
  poll p := .read fun s => if s.running.contains p then none else some (-9)
  pipe _ _ := pure none
  closePipe _ _ := pure ()
  inBackground _ act := act

theorem ask_concludes {α : Type} (p : Pid) (answer : Crowd → α) : Concludes Missing (ask p answer) := by
  intro s
  unfold ask
  split
  · exact .done _
  · exact .raised ⟨p, rfl⟩

theorem signal_concludes (barred : List Pid) (p : Pid) :
    Concludes (goneOr fun f => ∃ n ∈ barred, f = .accessDenied n) (signal barred p) := by
  intro s
  unfold signal
  split
  · next refused => exact .raised (.inr ⟨p, List.contains_iff_mem.1 refused, rfl⟩)
  · split
    · exact .done ()
    · exact .raised (.inl ⟨p, rfl⟩)

theorem waitAll_concludes (ps : List Pid) : Concludes Missing (waitAll ps) := by
  intro s
  unfold waitAll
  split
  · next missing _ _ => exact .raised ⟨missing, rfl⟩
  · exact .done _

/-- The calls come to an end, and signals to those who may not be sent any are refused. -/
theorem host_responsive (barred : List Pid) :
    Responsive (fun f => ∃ n ∈ barred, f = .accessDenied n) (host barred) where
  find p := ask_concludes p _
  poll _ := .read _
  descendants p := ask_concludes p _
  terminate := signal_concludes barred
  kill := signal_concludes barred
  waitAll ps _ := waitAll_concludes ps
  status p := (ask_concludes p _).mono fun _ => .inl
  now := .read _
  reap _ _ := .read _

/-- Every process is listed once. -/
theorem host_distinct (barred : List Pid) : Distinct (host barred) where
  descendants {p s below} answer := by
    have below_eq : below = s.below.filter (· ≠ p) := by
      change (ask p _ s).1 = _ at answer
      unfold ask at answer
      split at answer
      · cases answer
        rfl
      · cases answer
    rw [below_eq]
    refine List.nodup_cons.2 ⟨fun hm => ?_, s.distinct.filter _⟩
    exact of_decide_eq_true (List.mem_filter.1 hm).2 rfl
  waitAll {ps _ s left} answer := by
    have left_eq : left = s.remaining ps := by
      change (waitAll ps s).1 = _ at answer
      unfold waitAll at answer
      split at answer
      · cases answer
      · cases answer
        rfl
    rw [left_eq]
    exact ⟨List.filter_sublist.subset, fun distinct => distinct.filter _⟩

/-- The time until a deadline is no more than so many seconds. -/
def Due (deadline : Seconds) (n : Nat) (s : Crowd) : Prop :=
  ∃ i, deadline = .whole i ∧ i ≤ s.time + n

theorem ask_snd {α : Type} (p : Pid) (answer : Crowd → α) (s : Crowd) : (ask p answer s).2 = s := by
  unfold ask
  split <;> rfl

/-- **A period of so many seconds is over after so many waits.** -/
theorem host_paced (barred : List Pid) {grace patience : Int} {polls : Nat} (tick : Seconds)
    (hg : grace ≤ polls) (hk : patience ≤ polls) :
    Paced (host barred) ⟨.whole grace, .whole patience, tick⟩ polls Due where
  start {time deadline t s} ht ho hl := by
    cases ho
    simp only [List.mem_cons, List.not_mem_nil, or_false] at ht
    rcases ht with rfl | rfl
    · cases hl
      exact ⟨_, rfl, Int.add_le_add_left hg _⟩
    · cases hl
      exact ⟨_, rfl, Int.add_le_add_left hk _⟩
  waitAll {deadline n ps left s} hd ho some := by
    obtain ⟨i, rfl, hi⟩ := hd
    change (waitAll ps s).1 = _ at ho
    show Due _ _ (waitAll ps s).2
    unfold waitAll at ho ⊢
    split at ho
    · cases ho
    · cases ho
      refine ⟨i, rfl, ?_⟩
      have more : ¬ (s.remaining ps).isEmpty = true := fun none => some (List.isEmpty_iff.1 none)
      rw [if_neg more]
      show i ≤ s.time + 1 + ((n - 1 : Nat) : Int)
      omega
  status {deadline n pid s} hd := by
    show Due _ _ (ask pid _ s).2
    rwa [ask_snd]
  now hd := hd
  reached {deadline t s} hd ho := by
    obtain ⟨i, rfl, hi⟩ := hd
    cases ho
    exact decide_eq_true (by simpa using hi)

end Crowd

end Respawn.Child
