import Respawn.Action

/-!
# The mailbox

What the observer's side and the watcher share: the one change that is pending, and whether the
watcher has been stopped. A change that arrives while another one is pending is covered by it.

* `pending_post`: after a change something is pending;
* `post_of_pending`: a change leaves the one that is pending alone;
* `pending_drain`: a drained mailbox has nothing pending.
-/

namespace Respawn.Watch

/-- The pending change and the stop flag. -/
structure Mailbox where
  pending : Option String
  stopped : Bool
  deriving DecidableEq, Repr

namespace Mailbox

def empty : Mailbox := ⟨none, false⟩

/-- A change that arrives. -/
def post (path : String) (m : Mailbox) : Mailbox :=
  { m with pending := m.pending.or (some path) }

/-- Forgets what is pending. -/
def drain (m : Mailbox) : Mailbox := { m with pending := none }

def stop (m : Mailbox) : Mailbox := { m with stopped := true }

def resume (m : Mailbox) : Mailbox := { m with stopped := false }

theorem pending_post (path : String) (m : Mailbox) : (post path m).pending.isSome = true := by
  cases h : m.pending <;> simp [post, h]

theorem post_of_pending {m : Mailbox} {first : String} (h : m.pending = some first)
    (path : String) : post path m = m := by
  cases m; simp_all [post]

@[simp] theorem pending_drain (m : Mailbox) : (drain m).pending = none := rfl

@[simp] theorem stopped_post (path : String) (m : Mailbox) : (post path m).stopped = m.stopped :=
  rfl

@[simp] theorem stopped_drain (m : Mailbox) : (drain m).stopped = m.stopped := rfl

@[simp] theorem stopped_stop (m : Mailbox) : (stop m).stopped = true := rfl

@[simp] theorem pending_stop (m : Mailbox) : (stop m).pending = m.pending := rfl

@[simp] theorem stopped_resume (m : Mailbox) : (resume m).stopped = false := rfl

@[simp] theorem pending_resume (m : Mailbox) : (resume m).pending = m.pending := rfl

end Mailbox

/-- A state with a mailbox in it. -/
class Mailboxed (σ : Type) where
  mailbox : σ → Mailbox
  update : (Mailbox → Mailbox) → σ → σ
  mailbox_update (f : Mailbox → Mailbox) (s : σ) : mailbox (update f s) = f (mailbox s)

attribute [simp] Mailboxed.mailbox_update

instance : Mailboxed Mailbox where
  mailbox := id
  update f := f
  mailbox_update _ _ := rfl

instance {α σ : Type} [Mailboxed σ] : Mailboxed (α × σ) where
  mailbox s := Mailboxed.mailbox s.2
  update f s := (s.1, Mailboxed.update f s.2)
  mailbox_update f s := Mailboxed.mailbox_update f s.2

@[simp] theorem mailbox_mk {α σ : Type} [Mailboxed σ] (a : α) (s : σ) :
    Mailboxed.mailbox (a, s) = Mailboxed.mailbox s := rfl

@[simp] theorem update_mk {α σ : Type} [Mailboxed σ] (f : Mailbox → Mailbox) (a : α) (s : σ) :
    Mailboxed.update f (a, s) = (a, Mailboxed.update f s) := rfl

end Respawn.Watch
