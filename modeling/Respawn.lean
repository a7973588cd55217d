import Respawn.Main
import Respawn.Rehearsal.StandIns
import Respawn.Rehearsal.Watching
import Respawn.Proofs.Supervisor.Steps
import Respawn.Proofs.Supervisor.Ledger
import Respawn.Proofs.Supervisor.Custody
import Respawn.Proofs.Watch.View
import Respawn.Proofs.Watch.Debt
import Respawn.Proofs.Watch.NoLoss
import Respawn.Proofs.Watch.Lookout
import Respawn.Proofs.Supervisor.Freshness
import Respawn.Proofs.Child.Census
import Respawn.Proofs.Child.Stop
import Respawn.Proofs.Child.Launch
import Respawn.Proofs.Child.Nursery
import Respawn.Proofs.Supervisor.Trees
import Respawn.Proofs.Supervisor.Faults
import Respawn.Proofs.Supervisor.Phases
import Respawn.Proofs.Child.Faults
import Respawn.Proofs.Watch.Faults
import Respawn.Proofs.Supervisor.Containment
import Respawn.Proofs.Child.Steady
import Respawn.Proofs.Watch.Sole
import Respawn.Proofs.Session.Closing
import Respawn.Proofs.Settings.Reading
import Respawn.Proofs.Settings.Merge
import Respawn.Proofs.Settings.Sources
import Respawn.Proofs.Settings.Entries
import Respawn.Proofs.Settings.Tolerance
import Respawn.Proofs.Settings.Pointwise
import Respawn.Proofs.Settings.Variables
import Respawn.Proofs.Settings.Sorts
import Respawn.Proofs.Settings.Reloading
import Respawn.Proofs.Settings.InEffect
import Respawn.Proofs.Session.Preparation
import Respawn.Proofs.Session.Watching
import Respawn.Proofs.Session.Startup
import Respawn.Proofs.Supervisor.Course
import Respawn.Proofs.FileTree.Ways
import Respawn.Proofs.FileTree.Alike
import Respawn.Proofs.Glob.Listed
import Respawn.Proofs.Glob.Whole
import Respawn.Proofs.Watch.Anchoring
import Respawn.Proofs.Watch.Acceptance
import Respawn.Proofs.Watch.Chronicle
import Respawn.Proofs.Watch.Booth
import Respawn.Proofs.Watch.Numbering
import Respawn.Proofs.Watch.Register
import Respawn.Proofs.Watch.Images
import Respawn.Proofs.Supervisor.Images
import Respawn.Proofs.Supervisor.Reaction
import Respawn.Proofs.Child.Images
import Respawn.Proofs.Child.Errands
import Respawn.Proofs.Log.Console
import Respawn.Proofs.Log.Handlers
import Respawn.Proofs.Text.Capitals
import Respawn.Proofs.Log.Configuration
import Respawn.Proofs.Session.Images
import Respawn.Proofs.Session.Indifference
import Respawn.Proofs.Session.Wording
import Respawn.Proofs.Session.Errands
import Respawn.Proofs.Session.RoleAlone
import Respawn.Proofs.Glob.Namewise
import Respawn.Proofs.Watch.Overreach
import Respawn.Proofs.Child.Output
import Respawn.Proofs.Child.Ownership
import Respawn.Proofs.Child.Periods
import Respawn.Proofs.FileTree.Texts
import Respawn.Proofs.Watch.Judgement
import Respawn.Proofs.Watch.Canonical
import Respawn.Proofs.Watch.FailedStart
import Respawn.Proofs.Watch.Halting
