import OutlineBar.Action
import OutlineBar.Bag
import OutlineBar.Decimal.Binary
import OutlineBar.Decimal.Shortest
import OutlineBar.Event
import OutlineBar.Host.Call
import OutlineBar.Host.Failure
import OutlineBar.Identity
import OutlineBar.Options.Basic
import OutlineBar.Options.Decode
import OutlineBar.Options.Error
import OutlineBar.Options.Load
import OutlineBar.Options.WordRange
import OutlineBar.Outline.Assembly
import OutlineBar.Outline.Basic
import OutlineBar.Outline.Entry
import OutlineBar.Outline.Grammar
import OutlineBar.Outliner.Basic
import OutlineBar.Outliner.Broadcast
import OutlineBar.Outliner.RequestSlot
import OutlineBar.Outliner.Resolver
import OutlineBar.Outliner.Service
import OutlineBar.Presenter.Attach
import OutlineBar.Presenter.Basic
import OutlineBar.Presenter.Completions
import OutlineBar.Roster
import OutlineBar.Scripted.BagScript
import OutlineBar.Scripted.Note
import OutlineBar.Scripted.ResolverScript
import OutlineBar.Scripted.Scene
import OutlineBar.Scripted.SceneOpening
import OutlineBar.Scripted.ScenePlay
import OutlineBar.Scripted.SceneWindowStep
import OutlineBar.Scripted.ServiceScript
import OutlineBar.Scripted.Stage
import OutlineBar.Session
import OutlineBar.Snapshot
import OutlineBar.Store
import OutlineBar.Text.Shown
import OutlineBar.Text.Unseen
import OutlineBar.Text.WhiteSpace
import OutlineBar.Toml.Blank
import OutlineBar.Toml.Moment
import OutlineBar.Toml.Number
import OutlineBar.Toml.Quoted
import OutlineBar.Toml.Reading
import OutlineBar.Toml.Tree
import OutlineBar.Toml.Value
import OutlineBar.Workspace.Basic
import OutlineBar.Workspace.Idle
import OutlineBar.Workspace.Lifetime
import OutlineBar.Workspace.Opening
import OutlineBar.Workspace.Rest
import OutlineBar.Workspace.Walk
import OutlineBar.Workspace.Window
import OutlineBar.Proofs.Service.Moves
import OutlineBar.Proofs.Service.Chronicle
import OutlineBar.Proofs.Service.LastRequest
import OutlineBar.Proofs.Service.Publications
import OutlineBar.Proofs.Service.Ledger
import OutlineBar.Proofs.Service.Delivery
import OutlineBar.Proofs.Service.Timely
import OutlineBar.Proofs.Service.Silence
import OutlineBar.Proofs.Service.Level
import OutlineBar.Proofs.Service.Panics
import OutlineBar.Proofs.Service.Heading
import OutlineBar.Proofs.Action.Both
import OutlineBar.Proofs.Action.Keeps
import OutlineBar.Proofs.Host.Recorded
import OutlineBar.Proofs.Host.Handed
import OutlineBar.Proofs.Host.Clients
import OutlineBar.Proofs.Host.Plain
import OutlineBar.Proofs.Host.OneSlot
import OutlineBar.Proofs.Host.Slotted
import OutlineBar.Proofs.Presenter.Steps
import OutlineBar.Proofs.Presenter.Upheld
import OutlineBar.Proofs.Presenter.Attachment
import OutlineBar.Proofs.Presenter.Tending
import OutlineBar.Proofs.Presenter.Timely
import OutlineBar.Proofs.Presenter.Convergence
import OutlineBar.Proofs.Workspace.Operation
import OutlineBar.Proofs.Workspace.Stable
import OutlineBar.Proofs.Workspace.Upheld
import OutlineBar.Proofs.Workspace.Attachment
import OutlineBar.Proofs.Workspace.Lifecycle
import OutlineBar.Proofs.Workspace.Slot
import OutlineBar.Proofs.Workspace.Timely
import OutlineBar.Proofs.Workspace.Convergence
import OutlineBar.Proofs.Presenter.Outcome
import OutlineBar.Proofs.Session.FanOut
import OutlineBar.Proofs.Session.Interrupted
import OutlineBar.Proofs.Session.Opened
import OutlineBar.Proofs.Session.Ending
import OutlineBar.Proofs.Presenter.Paired
import OutlineBar.Proofs.Presenter.Steady
import OutlineBar.Proofs.Session.Synced
import OutlineBar.Proofs.Session.Toggle
import OutlineBar.Proofs.Action.Interchange
import OutlineBar.Proofs.Host.Separate
import OutlineBar.Proofs.Outliner.Use
import OutlineBar.Proofs.Presenter.Beside
import OutlineBar.Proofs.Workspace.Beside
import OutlineBar.Proofs.Workspace.Reordered
import OutlineBar.Proofs.Session.TickOrder
import OutlineBar.Proofs.Session.Order
import OutlineBar.Proofs.Host.Counting
import OutlineBar.Proofs.Workspace.Registration
import OutlineBar.Proofs.Session.Afterlife
import OutlineBar.Proofs.Session.Removal
import OutlineBar.Proofs.Workspace.SharedBuffer
import OutlineBar.Proofs.Presenter.Draining
import OutlineBar.Proofs.Presenter.Recovery
import OutlineBar.Proofs.Workspace.IdleHost
import OutlineBar.Proofs.Session.Subscription
import OutlineBar.Proofs.Session.Tick
import OutlineBar.Proofs.Workspace.Walk
import OutlineBar.Proofs.Toml.UniqueKeys
import OutlineBar.Proofs.Options.Shape
import OutlineBar.Proofs.Options.Spelling
import OutlineBar.Proofs.Toml.Written
import OutlineBar.Proofs.Options.RoundTrip
import OutlineBar.Proofs.Outline.Listing
import OutlineBar.Proofs.Bag
import OutlineBar.Proofs.Presenter.Bound
import OutlineBar.Proofs.Outliner.Resolver
import OutlineBar.Proofs.Service.Answers
import OutlineBar.Proofs.Workspace.Resolution
import OutlineBar.Proofs.Workspace.Opening
import OutlineBar.Proofs.Workspace.Strides
import OutlineBar.Proofs.Workspace.Binding
import OutlineBar.Proofs.Workspace.Isolation
