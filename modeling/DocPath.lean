import DocPath.Cache.Request
import DocPath.Main
import DocPath.Proofs.Cache.Contents
import DocPath.Proofs.Cache.Transparency
import DocPath.Proofs.Document.Normalizing
import DocPath.Proofs.Document.Reloading
import DocPath.Proofs.Document.Symbolizing
import DocPath.Proofs.Path.Congruence
import DocPath.Proofs.Path.GenericKey
import DocPath.Proofs.Path.Mandatory
import DocPath.Proofs.Path.RoundTrip
import DocPath.Proofs.Value.Equality
import DocPath.Proofs.Value.Lookup
import DocPath.Proofs.Path.Concatenation
import DocPath.Proofs.CommandLine.Outcome
import DocPath.Proofs.Path.Coverage
import DocPath.Proofs.Path.Refusal
import DocPath.Proofs.Binary64.Rounding
import DocPath.Proofs.Path.ArrayIndex
import DocPath.Proofs.Value.Dispatch
import DocPath.Proofs.Value.Extremes
import DocPath.Proofs.Occurrence
import DocPath.Proofs.Value.Unique
import DocPath.Proofs.Value.Sum
import DocPath.Proofs.Value.Invert
import DocPath.Proofs.Document.Merging
import DocPath.Proofs.Document.Lines
import DocPath.Proofs.Value.Position
import DocPath.Proofs.Value.IntegerText
import DocPath.Proofs.Path.Leaves
import DocPath.Proofs.Binary64.Shortest
import DocPath.Proofs.Binary64.Positional
import DocPath.Proofs.Value.FloatText
