import ValueStream.Builder
import ValueStream.Cast.Atomic
import ValueStream.Cast.Caster
import ValueStream.Cast.Descent
import ValueStream.Cast.Schema
import ValueStream.Cast.Slot
import ValueStream.Cast.Whole
import ValueStream.Checker
import ValueStream.CoreType
import ValueStream.Event
import ValueStream.Grammar
import ValueStream.ModelError
import ValueStream.Name.Identifier
import ValueStream.Name.Qualified
import ValueStream.Nesting
import ValueStream.Number.Binary
import ValueStream.Number.Integer
import ValueStream.Number.Reading
import ValueStream.Number.Shortest
import ValueStream.Path
import ValueStream.Pipeline.Blueprint
import ValueStream.Pipeline.Element
import ValueStream.Pipeline.LogLine
import ValueStream.Pipeline.Run
import ValueStream.Pipeline.Step
import ValueStream.Proofs.Builder.Inverse
import ValueStream.Proofs.Builder.Put
import ValueStream.Proofs.Cast.Again
import ValueStream.Proofs.Cast.Conformance
import ValueStream.Proofs.Cast.Descent
import ValueStream.Proofs.Cast.Elsewhere
import ValueStream.Proofs.Cast.Fitting
import ValueStream.Proofs.Cast.Frames
import ValueStream.Proofs.Cast.Integers
import ValueStream.Proofs.Cast.Layers
import ValueStream.Proofs.Cast.Null
import ValueStream.Proofs.Cast.Parts
import ValueStream.Proofs.Cast.Passage
import ValueStream.Proofs.Cast.Places
import ValueStream.Proofs.Cast.Reordered
import ValueStream.Proofs.Cast.Restricted
import ValueStream.Proofs.Cast.Scalar
import ValueStream.Proofs.Cast.Skeleton
import ValueStream.Proofs.Cast.Slot
import ValueStream.Proofs.Cast.Typers
import ValueStream.Proofs.Cast.Untagged
import ValueStream.Proofs.Cast.Written
import ValueStream.Proofs.Checker.Language
import ValueStream.Proofs.Checker.Outline
import ValueStream.Proofs.Checker.Passage
import ValueStream.Proofs.Checker.Refused
import ValueStream.Proofs.Checker.Step
import ValueStream.Proofs.Name.Qualified
import ValueStream.Proofs.Number.Spelling
import ValueStream.Proofs.Path.Text
import ValueStream.Proofs.Pipeline.Bystander
import ValueStream.Proofs.Pipeline.CheckerFirst
import ValueStream.Proofs.Pipeline.Journey
import ValueStream.Proofs.Pipeline.Outcome
import ValueStream.Proofs.Pipeline.Refusal
import ValueStream.Proofs.Pipeline.Relay
import ValueStream.Proofs.Pipeline.Row
import ValueStream.Proofs.Pipeline.SetUp
import ValueStream.Proofs.Pipeline.Unbroken
import ValueStream.Proofs.Reorder.Arranged
import ValueStream.Proofs.Reorder.Begun
import ValueStream.Proofs.Reorder.Buffered
import ValueStream.Proofs.Reorder.Early
import ValueStream.Proofs.Reorder.Ended
import ValueStream.Proofs.Reorder.Frame
import ValueStream.Proofs.Reorder.Overlook
import ValueStream.Proofs.Reorder.Send
import ValueStream.Proofs.Reorder.Stamped
import ValueStream.Proofs.Reorder.Step
import ValueStream.Proofs.Reorder.Struct
import ValueStream.Proofs.Reorder.Twice
import ValueStream.Proofs.Stream.Agreement
import ValueStream.Proofs.Stream.Ends
import ValueStream.Proofs.Stream.Grammar
import ValueStream.Proofs.Stream.Located
import ValueStream.Proofs.Stream.Locations
import ValueStream.Proofs.Stream.Tracker
import ValueStream.Proofs.Stream.Unfinished
import ValueStream.Proofs.Text.Base64
import ValueStream.Proofs.Timestamp.Calendar
import ValueStream.Proofs.Timestamp.Rfc3339
import ValueStream.Proofs.Value.Arranged
import ValueStream.Proofs.Value.Shuffled
import ValueStream.Regex.Basic
import ValueStream.Regex.Bracket
import ValueStream.Regex.CharSet
import ValueStream.Regex.Escape
import ValueStream.Regex.Flags
import ValueStream.Regex.Marked
import ValueStream.Regex.Parser
import ValueStream.Regex.Property
import ValueStream.Regex.Size
import ValueStream.Reorder
import ValueStream.Scalar
import ValueStream.StreamError
import ValueStream.Text.Alphabetic
import ValueStream.Text.Base64
import ValueStream.Text.Blank
import ValueStream.Text.CaseFold
import ValueStream.Text.Cased
import ValueStream.Text.Category
import ValueStream.Text.CategoryTable
import ValueStream.Text.CharTable
import ValueStream.Text.Quoted
import ValueStream.Text.Unprintable
import ValueStream.Text.Word
import ValueStream.Timestamp.Basic
import ValueStream.Timestamp.Calendar
import ValueStream.Timestamp.Rfc3339
import ValueStream.Value.Arranged
import ValueStream.Value.Basic
import ValueStream.Value.Equality
import ValueStream.Value.Events
import ValueStream.Value.Fields
import ValueStream.Value.Restriction
import ValueStream.Value.Task
import ValueStream.Value.Text
