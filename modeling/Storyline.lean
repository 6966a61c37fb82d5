import Storyline.Decimal.Reading
import Storyline.Decimal.Shortest
import Storyline.Decimal.Written
import Storyline.Inspection.Document
import Storyline.Inspection.Inspect
import Storyline.Inspection.Reachability
import Storyline.Inspection.Report
import Storyline.Json.Alternative
import Storyline.Json.Escape
import Storyline.Json.Numeral
import Storyline.Json.Outline
import Storyline.Json.Printer
import Storyline.Json.Reader
import Storyline.Json.Record
import Storyline.Json.Refusal
import Storyline.Json.Tagged
import Storyline.Json.Token
import Storyline.Json.Value
import Storyline.Play.Narrator
import Storyline.Play.Outcome
import Storyline.Play.Outcome.Document
import Storyline.Play.Scene
import Storyline.Play.Scene.Document
import Storyline.Play.Session
import Storyline.Play.Substitution
import Storyline.Play.Walk
import Storyline.Proofs.Decimal.Spelling
import Storyline.Proofs.Inspection.Complete
import Storyline.Proofs.Inspection.Exact
import Storyline.Proofs.Inspection.Faults
import Storyline.Proofs.Inspection.Findings
import Storyline.Proofs.Inspection.Links
import Storyline.Proofs.Inspection.Places
import Storyline.Proofs.Inspection.Playable
import Storyline.Proofs.Inspection.Pruning
import Storyline.Proofs.Inspection.Reach
import Storyline.Proofs.Inspection.Start
import Storyline.Proofs.Inspection.Tally
import Storyline.Proofs.Inspection.Vocabulary
import Storyline.Proofs.Json.Ensured
import Storyline.Proofs.Json.Escape
import Storyline.Proofs.Json.Level
import Storyline.Proofs.Json.Numeral
import Storyline.Proofs.Json.Outline
import Storyline.Proofs.Json.Reader
import Storyline.Proofs.Json.Token
import Storyline.Proofs.Play.Account
import Storyline.Proofs.Play.Action
import Storyline.Proofs.Play.Attempt
import Storyline.Proofs.Play.Batches
import Storyline.Proofs.Play.Course
import Storyline.Proofs.Play.Failure
import Storyline.Proofs.Play.Legal
import Storyline.Proofs.Play.Link
import Storyline.Proofs.Play.Moves
import Storyline.Proofs.Play.NetEffect
import Storyline.Proofs.Play.Number
import Storyline.Proofs.Play.Offer
import Storyline.Proofs.Play.Place
import Storyline.Proofs.Play.Request
import Storyline.Proofs.Play.Resolution
import Storyline.Proofs.Play.Substitution
import Storyline.Proofs.Play.Trail
import Storyline.Proofs.Play.Truth
import Storyline.Proofs.Play.Typed
import Storyline.Proofs.Play.View
import Storyline.Proofs.Reveal.Cadence
import Storyline.Proofs.Reveal.Frames
import Storyline.Proofs.Reveal.History
import Storyline.Proofs.Reveal.Markup
import Storyline.Proofs.Reveal.Protocol
import Storyline.Proofs.Session.Ending
import Storyline.Proofs.Session.Operation
import Storyline.Proofs.Session.Restart
import Storyline.Proofs.Session.Restoring
import Storyline.Proofs.Session.Resumption
import Storyline.Proofs.Session.Standing
import Storyline.Proofs.State.Clock
import Storyline.Proofs.State.Document
import Storyline.Proofs.State.Snapshot
import Storyline.Proofs.State.Truncation
import Storyline.Proofs.Story.Condition
import Storyline.Proofs.Story.Effect
import Storyline.Proofs.Story.Formula
import Storyline.Proofs.Story.Graph
import Storyline.Proofs.Story.Nesting
import Storyline.Proofs.Story.Node
import Storyline.Proofs.Story.Reload
import Storyline.Proofs.Story.Text
import Storyline.Proofs.Text.Trimming
import Storyline.Reveal.Engine
import Storyline.Reveal.Step
import Storyline.State.Basic
import Storyline.State.Clock
import Storyline.State.Document
import Storyline.State.Flag
import Storyline.State.Setup
import Storyline.State.Snapshot
import Storyline.Story.Condition
import Storyline.Story.Condition.Document
import Storyline.Story.Effect
import Storyline.Story.Effect.Document
import Storyline.Story.Graph
import Storyline.Story.Graph.Document
import Storyline.Story.Node
import Storyline.Story.Node.Document
import Storyline.Story.Text
import Storyline.Story.Text.Document
import Storyline.Table
import Storyline.Table.Lookup
import Storyline.Text.Blank
import Storyline.Text.Combining
import Storyline.Text.Ignorable
import Storyline.Text.Quoted
import Storyline.Text.Unprintable
import Storyline.Text.Utf8
