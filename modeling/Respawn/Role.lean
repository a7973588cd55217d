import Respawn.Settings.Conversion

/-!
# Roles

The supervised server runs in one of two roles. One word on the command line makes it the primary;
whatever else stands there, or nothing, makes it a replica of the primary.

* `derive_eq_primary_iff`: what selects the primary;
* `parse_verbose_anywhere`: where the word for more detail stands does not matter.
-/

namespace Respawn

/-! ## 1. The command line -/

/-- What the command line says: the word that selects the role, and whether more detail is wanted. -/
structure Request where
  selector : Option String
  verbose : Bool
  deriving DecidableEq, Repr

namespace Request

def verboseFlag : String := "--verbose"

/-- The request of a command line: its first word other than the flag. -/
def parse (args : List String) : Request :=
  ⟨(args.filter (· ≠ verboseFlag)).head?, args.contains verboseFlag⟩

/-- Where the flag stands does not matter for the selector. -/
theorem parse_verbose_anywhere (before after : List String) :
    (parse (before ++ verboseFlag :: after)).selector = (parse (before ++ after)).selector := by
  simp [parse]

theorem parse_verbose_iff (args : List String) :
    (parse args).verbose = true ↔ verboseFlag ∈ args := by simp [parse]

end Request

/-! ## 2. Roles -/

/-- The role of the supervised server; a replica knows where its primary is. -/
inductive Role where
  | primary
  | replica (host : Value) (port : Int)
  deriving Repr

namespace Role

def text : Role → String
  | .primary => "primary"
  | .replica host port => s!"replica of {host}:{port}"

instance : ToString Role := ⟨text⟩

/-- Whether a selector is the value that selects the primary. -/
def selects (selector : Option String) : Value → Bool
  | .text s => selector = some s
  | .null => selector = none
  | _ => false

/-- The role that a selector gives under the settings. -/
def derive (selector : Option String) (s : Settings) : Except Fault Role := do
  if selects selector (← Settings.get s "PRIMARY_ROLE_NAME") then pure .primary
  else
    let host ← Settings.get s "PRIMARY_HOST"
    let port ← Settings.toWhole (← Settings.get s "PRIMARY_PORT")
    pure (.replica host port)

/-- **The primary is selected exactly by its name.** -/
theorem derive_eq_primary_iff {s : Settings} {name : Value}
    (h : Settings.get s "PRIMARY_ROLE_NAME" = .ok name) (selector : Option String) :
    (∃ r, derive selector s = .ok r ∧ r matches .primary) ↔ selects selector name = true := by
  have hd : derive selector s = if selects selector name then pure .primary else (do
      let host ← Settings.get s "PRIMARY_HOST"
      let port ← Settings.toWhole (← Settings.get s "PRIMARY_PORT")
      pure (.replica host port)) := by
    rw [derive, h]; rfl
  constructor
  · rintro ⟨r, hr, hp⟩
    rw [hd] at hr
    split at hr
    · assumption
    · obtain ⟨_, _, hr⟩ := bind_eq_ok.1 hr
      obtain ⟨_, _, hr⟩ := bind_eq_ok.1 hr
      obtain ⟨_, _, hr⟩ := bind_eq_ok.1 hr
      cases hr
      simp at hp
  · intro hs
    exact ⟨.primary, by rw [hd, if_pos hs]; rfl, rfl⟩

/-- The flags that the server is given in its role. The primary keeps its own port. -/
def flags (r : Role) (s : Settings) : Except Fault (List Value) :=
  match r with
  | .primary => .ok []
  | .replica host port => do
    let own ← Settings.get s "REPLICA_PORT"
    pure [.text "--port", .text own.shown, .text "--replicaof", host, .text (toString port)]

end Role

end Respawn
