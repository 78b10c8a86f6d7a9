import SpriteStage.Main
import SpriteStage.Program.Lint
import SpriteStage.Proofs.Store.Lookup
import SpriteStage.Proofs.TaskRegistry.Lookup
import SpriteStage.Proofs.TaskRegistry.Tokens
import SpriteStage.Proofs.Stage.Runs
import SpriteStage.Proofs.Task.Step
import SpriteStage.Proofs.Task.Accounts
import SpriteStage.Proofs.Session.Reachable
import SpriteStage.Proofs.Session.Moves
import SpriteStage.Proofs.Stage.Bookkeeping
import SpriteStage.Proofs.Session.Consistent
import SpriteStage.Proofs.Session.Precedes
import SpriteStage.Proofs.Session.Cancellation
import SpriteStage.Proofs.Session.ActiveChains
import SpriteStage.Proofs.Cursor.Expansion
import SpriteStage.Proofs.Cursor.Walk
import SpriteStage.Proofs.Task.Acts
import SpriteStage.Proofs.Session.Acts
import SpriteStage.Proofs.Number.Ceil
import SpriteStage.Proofs.Program.Faultless
import SpriteStage.Proofs.Program.Clean
import SpriteStage.Proofs.Program.Unrolling
import SpriteStage.Proofs.Cursor.Unrolling
import SpriteStage.Proofs.Session.CleanRuns
import SpriteStage.Proofs.Session.Scheduled
import SpriteStage.Proofs.Store.Order
import SpriteStage.Proofs.Stage.Trading
import SpriteStage.Proofs.Task.Writes
import SpriteStage.Proofs.Session.Silent
import SpriteStage.Proofs.Session.Plain
import SpriteStage.Proofs.Session.Trading
import SpriteStage.Proofs.Session.UndoneRun
import SpriteStage.Proofs.Session.Snapshots
import SpriteStage.Proofs.Session.UndoStack
import SpriteStage.Proofs.Session.SpeechTimers
import SpriteStage.Proofs.Stage.Reset
import SpriteStage.Proofs.Session.Since
import SpriteStage.Proofs.Session.Reset
import SpriteStage.Proofs.Number.Exact
import SpriteStage.Proofs.Task.Additive
import SpriteStage.Proofs.Session.Additions
import SpriteStage.Proofs.Stage.Amend
import SpriteStage.Proofs.Task.Confined
import SpriteStage.Proofs.Session.OwnSteps
import SpriteStage.Proofs.Session.Interleaving
import SpriteStage.Proofs.Store.Versions
import SpriteStage.Proofs.Session.Versions
import SpriteStage.Proofs.Session.References
import SpriteStage.Proofs.Task.Animation
import SpriteStage.Proofs.Session.ShownGlides
import SpriteStage.Proofs.Scene.Start
import SpriteStage.Proofs.Scene.Settled
import SpriteStage.Proofs.Program.Export
import SpriteStage.Proofs.Json.WellFormed
import SpriteStage.Proofs.Program.Document
import SpriteStage.Proofs.Sprite.Document
import SpriteStage.Proofs.Program.Reading
import SpriteStage.Proofs.Program.Legible
import SpriteStage.Proofs.Session.LegibleRuns
import SpriteStage.Proofs.Session.Starts
import SpriteStage.Proofs.Stage.Evaluation
import SpriteStage.Proofs.Cursor.Copies
import SpriteStage.Proofs.Session.Copies
import SpriteStage.Proofs.Session.Restarts
import SpriteStage.Proofs.Scene.Placed
import SpriteStage.Proofs.Program.Gathering
import SpriteStage.Proofs.Session.RandomPoints
import SpriteStage.Proofs.Session.Punctual
import SpriteStage.Proofs.Session.Glides
import SpriteStage.Proofs.Session.ExactGlides
import SpriteStage.Proofs.Session.Delays
import SpriteStage.Proofs.Session.NamedSprites
import SpriteStage.Proofs.Task.Subjects
import SpriteStage.Proofs.TaskRegistry.Ledger
import SpriteStage.Proofs.Task.Pointing
