import EditorLink.Broadcast.Audience
import EditorLink.Character.Case
import EditorLink.CommandLine.Rehearsal
import EditorLink.Completion.Acceptance
import EditorLink.Completion.Documentation
import EditorLink.Completion.Overlap
import EditorLink.Completion.Ranking
import EditorLink.Connection
import EditorLink.Document.Splice
import EditorLink.Main
import EditorLink.Options.File
import EditorLink.Pattern.Reader
import EditorLink.Probe.Rehearsal
import EditorLink.Session.Rehearsal
import EditorLink.Signature
import EditorLink.Trigger
import EditorLink.Value.Display
import EditorLink.Value.Json
import EditorLink.Wire.Message
import EditorLink.Wire.Shown
import EditorLink.Proofs.Session.Closing
import EditorLink.Proofs.Session.Channel
import EditorLink.Proofs.Document.Places
import EditorLink.Proofs.Document.Serving
import EditorLink.Proofs.Document.Order
import EditorLink.Proofs.Session.Agreement
import EditorLink.Proofs.Session.Opening
import EditorLink.Proofs.Session.Waiting
import EditorLink.Proofs.Session.Handshake
import EditorLink.Proofs.Session.Silence
import EditorLink.Proofs.Session.Order
import EditorLink.Proofs.Session.Recovery
import EditorLink.Proofs.Session.Sharing
import EditorLink.Proofs.Session.Greeting
import EditorLink.Proofs.Broadcast.Relay
import EditorLink.Proofs.Broadcast.Delivery
import EditorLink.Proofs.Session.Registry
import EditorLink.Proofs.Session.Attendance
import EditorLink.Proofs.Session.Departure
import EditorLink.Proofs.Session.Containment
import EditorLink.Proofs.Session.Gating
import EditorLink.Proofs.Probe.Watching
import EditorLink.Proofs.Probe.Leaving
import EditorLink.Proofs.Contents.Blocks
import EditorLink.Proofs.Session.Atomicity
import EditorLink.Proofs.Completion.Overlap
import EditorLink.Proofs.Session.Replacing
import EditorLink.Proofs.Completion.Acceptance
import EditorLink.Proofs.Document.Landing
import EditorLink.Proofs.Session.Helping
import EditorLink.Proofs.Document.Flat
import EditorLink.Proofs.Document.Replacement
import EditorLink.Proofs.Completion.Filtering
import EditorLink.Proofs.Session.Findings
import EditorLink.Proofs.Completion.Resolving
import EditorLink.Proofs.Pattern.AtCursor
import EditorLink.Proofs.Contents.Leaves
import EditorLink.Proofs.Document.Window
import EditorLink.Proofs.Pattern.Words
import EditorLink.Proofs.Completion.Placeholders
import EditorLink.Proofs.Broadcast.Surviving
import EditorLink.Proofs.Number.Overflow
import EditorLink.Proofs.Options.Rejection
