import TextTemplate.Bindings.Document
import TextTemplate.Config.Document
import TextTemplate.Fixture.Object
import TextTemplate.Fixture.Rehearsal
import TextTemplate.Fixture.Variant
import TextTemplate.Formatter
import TextTemplate.Embedded.Session
import TextTemplate.Proofs.Text.Position
import TextTemplate.Proofs.Text.Splice
import TextTemplate.Proofs.Placeholder.Occurrence
import TextTemplate.Proofs.Placeholder.Scan
import TextTemplate.Proofs.Placeholder.Selection
import TextTemplate.Proofs.Placeholder.Dependence
import TextTemplate.Proofs.Placeholder.Concatenation
import TextTemplate.Proofs.Placeholder.Failure
import TextTemplate.Proofs.Script.Sections
import TextTemplate.Proofs.Script.Exchange
import TextTemplate.Proofs.Script.Bracketing
import TextTemplate.Proofs.Script.Rounds
import TextTemplate.Proofs.Entries
import TextTemplate.Proofs.Fixture.Rehearsal
import TextTemplate.Proofs.Script.Cleanup
import TextTemplate.Proofs.Script.Sight
import TextTemplate.Proofs.Script.Apart
import TextTemplate.Proofs.Script.Assembly
import TextTemplate.Proofs.Value.Normal
import TextTemplate.Proofs.Embedded.Returned
import TextTemplate.Proofs.Embedded.Stored
import TextTemplate.Proofs.Value.Detached
import TextTemplate.Proofs.Embedded.RoundTrip
import TextTemplate.Proofs.Value.Mapped
import TextTemplate.Proofs.Text.Encoded
import TextTemplate.Proofs.Ranges
import TextTemplate.Proofs.Embedded.Endless
import TextTemplate.Proofs.Embedded.Completion
import TextTemplate.Proofs.Embedded.Kept
import TextTemplate.Proofs.Document.Toml.Quoted
import TextTemplate.Proofs.Document.Toml.Lines
import TextTemplate.Proofs.Config.Document
import TextTemplate.Proofs.Path.Walk
import TextTemplate.Proofs.Path.Winners
import TextTemplate.Proofs.Placeholder.Access
import TextTemplate.Proofs.Value.Index
import TextTemplate.Proofs.Value.Part
import TextTemplate.Proofs.Value.Equality
import TextTemplate.Proofs.Placeholder.NullString
import TextTemplate.Proofs.Placeholder.TextForm
import TextTemplate.Proofs.Bindings.Document
import TextTemplate.Proofs.Placeholder.Remembered
import TextTemplate.Proofs.Placeholder.Nesting
