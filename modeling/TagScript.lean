import TagScript.CommandLine
import TagScript.Main
import TagScript.Proofs.Numerals
import TagScript.Proofs.Rendering
import TagScript.Proofs.Exchange
import TagScript.Proofs.Keys
import TagScript.Proofs.Occurrences
import TagScript.Proofs.WellKeyed
import TagScript.Proofs.Activations
import TagScript.Proofs.Correspondence
import TagScript.Proofs.Agreement
import TagScript.Proofs.Coupling
import TagScript.Proofs.Discipline
import TagScript.Proofs.Locality
import TagScript.Proofs.Isolation
import TagScript.Proofs.Noninterference
import TagScript.Proofs.Counts
import TagScript.Proofs.Movements
import TagScript.Proofs.Sweeps
import TagScript.Proofs.Soundness
import TagScript.Proofs.Separation
import TagScript.Proofs.Paths
import TagScript.Proofs.Reading
import TagScript.Proofs.Chores
import TagScript.Proofs.Cascade
import TagScript.Proofs.Ownership
import TagScript.Proofs.Steadiness
import TagScript.Proofs.Visibility
import TagScript.Proofs.Recovery
import TagScript.Proofs.Balance
import TagScript.Proofs.Calls
import TagScript.Proofs.Accounting
import TagScript.Proofs.Constants
import TagScript.Proofs.Steps
import TagScript.Proofs.Watched
import TagScript.Proofs.Lexemes
import TagScript.Proofs.Parsing
import TagScript.Proofs.Positions
import TagScript.Proofs.Loops
import TagScript.Proofs.Spelling
import TagScript.Proofs.Precedence
import TagScript.Proofs.Writing
import TagScript.Proofs.InlineText
import TagScript.Proofs.Confinement
import TagScript.Proofs.Scanning
import TagScript.Proofs.Totality
import TagScript.Proofs.Placement
import TagScript.Proofs.Joining
import TagScript.Proofs.Programs
import TagScript.Proofs.Teardown
import TagScript.Proofs.References
import TagScript.Proofs.Completeness
import TagScript.Proofs.Tolerance
import TagScript.Proofs.Namespaces
import TagScript.Proofs.Endings
import TagScript.Proofs.Unfolding
import TagScript.Proofs.Instantiation
import TagScript.Proofs.Equality
import TagScript.Proofs.Offsets
import TagScript.Proofs.Integers
import TagScript.Proofs.Literals
import TagScript.Proofs.Assertions
import TagScript.Proofs.Identity
