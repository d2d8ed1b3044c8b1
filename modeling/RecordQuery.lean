import RecordQuery.Engine
import RecordQuery.Schema.Derive
import RecordQuery.Store.Memory
import RecordQuery.Value.Collection
import RecordQuery.Binary64.Reader
import RecordQuery.Proofs.Path.Memory
import RecordQuery.Proofs.Query.Memory
import RecordQuery.Proofs.Path.Registry
import RecordQuery.Proofs.Engine.History
import RecordQuery.Proofs.Engine.Selection
import RecordQuery.Proofs.Binary64.Rounding
import RecordQuery.Proofs.Number.Order
import RecordQuery.Proofs.Filter.Assembly
import RecordQuery.Proofs.Value.Symmetry
import RecordQuery.Proofs.Order.Keys
import RecordQuery.Proofs.Order.Inquiry
import RecordQuery.Proofs.Order.Insertion
import RecordQuery.Proofs.Order.Sortable
import RecordQuery.Proofs.Path.Concatenation
import RecordQuery.Proofs.Engine.Counting
import RecordQuery.Proofs.Unicode.Sigma
import RecordQuery.Proofs.Filter.IgnoreCase
import RecordQuery.Proofs.Regex.Growth
import RecordQuery.Proofs.Regex.Brackets
import RecordQuery.Proofs.Regex.Anchoring
import RecordQuery.Proofs.Regex.Matching
import RecordQuery.Proofs.Regex.Flattening
import RecordQuery.Proofs.Filter.Coercion
import RecordQuery.Proofs.Store.History
import RecordQuery.Proofs.Filter.Arguments
import RecordQuery.Proofs.Path.Growth
import RecordQuery.Proofs.Value.Equivalence
import RecordQuery.Proofs.Filter.Faults
import RecordQuery.Proofs.Store.Listing
import RecordQuery.Proofs.Schema.Names
import RecordQuery.Proofs.Schema.Slots
import RecordQuery.Proofs.Schema.Derivation
import RecordQuery.Proofs.Argument.Equality
import RecordQuery.Proofs.Order.Successive
import RecordQuery.Proofs.Query.Pages
import RecordQuery.Proofs.Filter.Trichotomy
import RecordQuery.Proofs.Regex.Bytes
import RecordQuery.Proofs.Regex.Flags
import RecordQuery.Proofs.Regex.Reading
import RecordQuery.Proofs.Regex.Layout
import RecordQuery.Proofs.Regex.Manual
import RecordQuery.Proofs.Regex.Standard
import RecordQuery.Proofs.Filter.Recompiling
import RecordQuery.Proofs.Order.Reversal
import RecordQuery.Proofs.Order.Nulls
import RecordQuery.Proofs.Filter.Membership
import RecordQuery.Proofs.Filter.AsciiCase
import RecordQuery.Proofs.Filter.Spelling
import RecordQuery.Proofs.Filter.Affixes
import RecordQuery.Proofs.Value.Reordering
import RecordQuery.Proofs.Value.Placed
import RecordQuery.Proofs.Timestamp.Conversion
import RecordQuery.Proofs.Timestamp.Chronology
import RecordQuery.Proofs.Path.Interning
import RecordQuery.Proofs.Schema.Clashes
import RecordQuery.Proofs.Path.Segments
import RecordQuery.Proofs.Schema.Constants
import RecordQuery.Proofs.Binary64.Nearest
import RecordQuery.Proofs.Binary64.Bits
import RecordQuery.Proofs.Binary64.Exact
import RecordQuery.Proofs.Number.Exact
import RecordQuery.Proofs.Order.Latch
