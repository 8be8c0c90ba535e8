import Keyboards.Main
import Keyboards.Simulation.Machine
import Keyboards.Simulation.World
import Keyboards.WritingSystem.Record
import Keyboards.Proofs.Catalog.Contents
import Keyboards.Proofs.Catalog.Scanning
import Keyboards.Proofs.Catalog.Resolution
import Keyboards.Proofs.Session.History
import Keyboards.Proofs.Settings.RoundTrip
import Keyboards.Proofs.Session.Installation
import Keyboards.Proofs.Session.Operations
import Keyboards.Proofs.Session.Runs
import Keyboards.Proofs.Session.Calls
import Keyboards.Proofs.Session.Consistency
import Keyboards.Proofs.Session.Exclusivity
import Keyboards.Proofs.Session.Following
import Keyboards.Proofs.Session.Lifecycle
import Keyboards.Proofs.Session.Replacement
import Keyboards.Proofs.Text.Composition
import Keyboards.Proofs.Toml.Quoting
import Keyboards.Proofs.Toml.Documents
import Keyboards.Proofs.Session.Problems
import Keyboards.Proofs.Session.Notification
import Keyboards.Proofs.Session.Notices
import Keyboards.Proofs.Text.Lines
import Keyboards.Proofs.Xkb.Names
import Keyboards.Proofs.Xkb.Listing
import Keyboards.Proofs.Xkb.Reports
import Keyboards.Proofs.Xkb.Switching
import Keyboards.Proofs.Acceptance
import Keyboards.Proofs.Text.Equivalence
import Keyboards.Proofs.Catalog.Equivalence
import Keyboards.Proofs.WritingSystem.Names
import Keyboards.Proofs.WritingSystem.Equivalence
import Keyboards.Proofs.World.Histories
import Keyboards.Proofs.World.Commands
import Keyboards.Proofs.World.Actors
import Keyboards.Proofs.World.Switches
import Keyboards.Proofs.World.Lives
import Keyboards.Proofs.World.Refreshing
import Keyboards.Proofs.World.Restoring
import Keyboards.Proofs.Catalog.Addressing
import Keyboards.Proofs.Session.Disposal
import Keyboards.Proofs.Session.Deliveries
import Keyboards.Proofs.Session.Broadcast
import Keyboards.Proofs.World.SystemDefault
import Keyboards.Proofs.Session.Dispatch
import Keyboards.Proofs.Text.Written
import Keyboards.Proofs.Xkb.Stored
import Keyboards.Proofs.Xkb.Leaving
import Keyboards.Proofs.Xkb.Rendering
import Keyboards.Proofs.WritingSystem.Resolution
import Keyboards.Proofs.Text.Headed
import Keyboards.Proofs.Ibus.Listing
import Keyboards.Proofs.Descriptions
import Keyboards.Proofs.Xkb.Initial
import Keyboards.Proofs.Session.SystemLayout
import Keyboards.Proofs.Locale.Numerals
import Keyboards.Proofs.Locale.Identifiers
import Keyboards.Proofs.WritingSystem.Numbered
import Keyboards.Proofs.Json.Objects
import Keyboards.Proofs.WritingSystem.Records
import Keyboards.Proofs.Session.WritingBack
import Keyboards.Proofs.Catalog.Readings
