import FieldSearch.Main
import FieldSearch.Proofs.Filter.Reading
import FieldSearch.Proofs.Store.Answer
import FieldSearch.Proofs.Filter.Grammar
import FieldSearch.Proofs.Schema.Acceptance
import FieldSearch.Proofs.Store.Operands
import FieldSearch.Proofs.Store.Paging
import FieldSearch.Proofs.Store.Ordering
import FieldSearch.Proofs.Store.Searching
import FieldSearch.Proofs.Store.Statement
import FieldSearch.Proofs.Store.Presence
import FieldSearch.Proofs.Store.Complement
import FieldSearch.Proofs.Store.Insertion
import FieldSearch.Proofs.Sql.Growth
import FieldSearch.Proofs.Store.Converse
import FieldSearch.Proofs.Search.Serialization
import FieldSearch.Proofs.Search.Canonical
import FieldSearch.Proofs.Sql.Mentions
import FieldSearch.Proofs.Store.Creation
import FieldSearch.Proofs.Store.Reordering
import FieldSearch.Proofs.Filter.Bounds
import FieldSearch.Proofs.Search.Implicit
import FieldSearch.Proofs.Store.Membership
import FieldSearch.Proofs.Store.Dates
import FieldSearch.Proofs.Search.Culprit
import FieldSearch.Proofs.Search.Refusal
import FieldSearch.Proofs.Store.Footprint
import FieldSearch.Proofs.Search.Spelling
import FieldSearch.Proofs.Search.Pattern
import FieldSearch.Proofs.Search.Planner
import FieldSearch.Proofs.Search.Absence
