import SqlMapper.Config
import SqlMapper.Graph.Population
import SqlMapper.Graph.PrimaryKey
import SqlMapper.Graph.Removal
import SqlMapper.Proofs.Arguments.Formatting
import SqlMapper.Proofs.Entities.Ascents
import SqlMapper.Proofs.Entities.Atomicity
import SqlMapper.Proofs.Entities.Closure
import SqlMapper.Proofs.Entities.Footprint
import SqlMapper.Proofs.Entities.Forest
import SqlMapper.Proofs.Entities.KeyPlaces
import SqlMapper.Proofs.Entities.KeyPrefixes
import SqlMapper.Proofs.Entities.Leftovers
import SqlMapper.Proofs.Entities.ReadBack
import SqlMapper.Proofs.Entities.ReadOnly
import SqlMapper.Proofs.Entities.Reattachment
import SqlMapper.Proofs.Entities.RoundTrip
import SqlMapper.Proofs.Grammar.Decomposition
import SqlMapper.Proofs.Grouping.Arithmetic
import SqlMapper.Proofs.Grouping.Bracketing
import SqlMapper.Proofs.Grouping.Chains
import SqlMapper.Proofs.Grouping.Ownership
import SqlMapper.Proofs.Grouping.Predicates
import SqlMapper.Proofs.Grouping.Preservation
import SqlMapper.Proofs.Grouping.Quotients
import SqlMapper.Proofs.Grouping.Regrouping
import SqlMapper.Proofs.Lowering.Clauses
import SqlMapper.Proofs.Lowering.Demands
import SqlMapper.Proofs.Lowering.Failures
import SqlMapper.Proofs.Lowering.Masking
import SqlMapper.Proofs.Rendering.Appending
import SqlMapper.Proofs.Rendering.Boundaries
import SqlMapper.Proofs.Rendering.Layouts
import SqlMapper.Proofs.Rendering.Tokenizing
import SqlMapper.Proofs.Rows.Cursors
import SqlMapper.Proofs.Rows.Labels
import SqlMapper.Proofs.Rows.Wildcard
import SqlMapper.Proofs.Schema.Qualifiers
import SqlMapper.Proofs.Text.Encoding
import SqlMapper.Proofs.Values.Calendar
import SqlMapper.Proofs.Values.Cells
import SqlMapper.Proofs.Values.Identifiers
import SqlMapper.Proofs.Values.Integers
import SqlMapper.Proofs.Values.Numerals
import SqlMapper.Sqlite.Storage
import SqlMapper.Sqlite.TableInfo
