import Criteria.App.Folder
import Criteria.Main
import Criteria.Proofs.Equality
import Criteria.Proofs.Condition
import Criteria.Proofs.Outline
import Criteria.Proofs.Simulation
import Criteria.Proofs.Sql.Syntax
import Criteria.Proofs.Sql.Evaluation
import Criteria.Proofs.Sql.Printing
import Criteria.Proofs.Walk
import Criteria.Proofs.Meaning
import Criteria.Proofs.Placeholders
import Criteria.Proofs.Noninterference
import Criteria.Proofs.Adjusted
import Criteria.Proofs.Exclusion
import Criteria.Proofs.Steps
import Criteria.Proofs.Nesting
import Criteria.Proofs.Kept
import Criteria.Proofs.Ignored
import Criteria.Proofs.FirstStop
import Criteria.Proofs.Relocation
import Criteria.Proofs.Leafwise
import Criteria.Proofs.Blanked
import Criteria.Proofs.Histories
import Criteria.Proofs.Bindings
import Criteria.Proofs.Notation
import Criteria.Proofs.Related
import Criteria.Proofs.Matched
import Criteria.Proofs.Digits
import Criteria.Proofs.Spellings
import Criteria.Proofs.Reordered
import Criteria.Proofs.Unordered
import Criteria.Proofs.KeyOrder
import Criteria.Proofs.Parentheses
import Criteria.Proofs.Descriptions
import Criteria.Proofs.Faults
import Criteria.Proofs.Configurations
import Criteria.Proofs.Padding
import Criteria.Proofs.Appending
import Criteria.Proofs.Insertion
import Criteria.Proofs.Dates
import Criteria.Proofs.Instants
import Criteria.Proofs.SetAlgebra
import Criteria.Proofs.Comparisons
import Criteria.Proofs.Objections
import Criteria.Proofs.Abbreviations
import Criteria.Proofs.Lookups
import Criteria.Proofs.Dispatch
import Criteria.Proofs.RequestBodies
import Criteria.Proofs.Keys
import Criteria.Proofs.Grammar
import Criteria.Proofs.Faithful
import Criteria.Proofs.Forms
