import Lowering.Binary64.Basic
import Lowering.Counter
import Lowering.Decimal.Reading
import Lowering.Decimal.Shortest
import Lowering.Decimal.Style
import Lowering.Diagnostic
import Lowering.FirstMatch
import Lowering.IR.Block
import Lowering.IR.Builder
import Lowering.IR.Function
import Lowering.IR.Instruction
import Lowering.IR.Module
import Lowering.IR.OperandType
import Lowering.IR.Value
import Lowering.Json.Basic
import Lowering.Json.Decoder
import Lowering.Json.Number
import Lowering.Json.Reader
import Lowering.Json.Writer
import Lowering.Pass.Basic
import Lowering.Pass.Declaration
import Lowering.Pass.Expression
import Lowering.Pass.Failure
import Lowering.Pass.Function
import Lowering.Pass.Location
import Lowering.Pass.Naming
import Lowering.Pass.Options
import Lowering.Pass.Signature
import Lowering.Pass.Statement
import Lowering.Pass.Witness
import Lowering.Program.Assembly
import Lowering.Program.Basic
import Lowering.Program.Capture
import Lowering.Program.Decl
import Lowering.Program.Expr
import Lowering.Program.GenericEnv
import Lowering.Program.Member
import Lowering.Program.Scope
import Lowering.Program.Stmt
import Lowering.Program.Ty
import Lowering.Proofs.Acceptance
import Lowering.Proofs.Aliasing
import Lowering.Proofs.Arity
import Lowering.Proofs.Attestation
import Lowering.Proofs.Building
import Lowering.Proofs.CallOrder
import Lowering.Proofs.Closure
import Lowering.Proofs.ClosureBuilding
import Lowering.Proofs.ClosureTyping
import Lowering.Proofs.Configuration
import Lowering.Proofs.Construction
import Lowering.Proofs.Container.Building
import Lowering.Proofs.Container.Content
import Lowering.Proofs.Container.Location
import Lowering.Proofs.Container.Memory
import Lowering.Proofs.Coverage
import Lowering.Proofs.DeadCode
import Lowering.Proofs.Declaring
import Lowering.Proofs.Dispatch
import Lowering.Proofs.Enclosing
import Lowering.Proofs.Ending
import Lowering.Proofs.Filling
import Lowering.Proofs.Formation
import Lowering.Proofs.Forwarding
import Lowering.Proofs.IR.Carrying
import Lowering.Proofs.IR.Drafting
import Lowering.Proofs.IR.Extension
import Lowering.Proofs.IR.Growth
import Lowering.Proofs.IR.Numbering
import Lowering.Proofs.IR.Operands
import Lowering.Proofs.IR.Prolonging
import Lowering.Proofs.IR.Signatures
import Lowering.Proofs.IR.Steps
import Lowering.Proofs.IR.WellFormed
import Lowering.Proofs.IR.Writing
import Lowering.Proofs.Initialization
import Lowering.Proofs.Json.Layout
import Lowering.Proofs.Json.Literal
import Lowering.Proofs.Json.Reading
import Lowering.Proofs.Json.Recovery
import Lowering.Proofs.Meaning.Call
import Lowering.Proofs.Meaning.Emission
import Lowering.Proofs.Meaning.Expression
import Lowering.Proofs.Meaning.Fragment
import Lowering.Proofs.Meaning.Function
import Lowering.Proofs.Meaning.Machine
import Lowering.Proofs.Meaning.Simulation
import Lowering.Proofs.Meaning.Slots
import Lowering.Proofs.Meaning.Source
import Lowering.Proofs.Meaning.Statement
import Lowering.Proofs.Meaning.Step
import Lowering.Proofs.Meaning.Tree
import Lowering.Proofs.Naming
import Lowering.Proofs.Observance
import Lowering.Proofs.Order.Canonical
import Lowering.Proofs.Order.Commutation
import Lowering.Proofs.Order.Level
import Lowering.Proofs.Order.Repetition
import Lowering.Proofs.Order.Replay
import Lowering.Proofs.Order.Thunk
import Lowering.Proofs.Packing
import Lowering.Proofs.Pass.Allotment
import Lowering.Proofs.Pass.Calling
import Lowering.Proofs.Pass.Chronicle
import Lowering.Proofs.Pass.Conclusive
import Lowering.Proofs.Pass.Continuing
import Lowering.Proofs.Pass.Contract
import Lowering.Proofs.Pass.Declaration
import Lowering.Proofs.Pass.Depth
import Lowering.Proofs.Pass.Descent
import Lowering.Proofs.Pass.Entering
import Lowering.Proofs.Pass.Expression
import Lowering.Proofs.Pass.Finishing
import Lowering.Proofs.Pass.Function
import Lowering.Proofs.Pass.Growth
import Lowering.Proofs.Pass.Halting
import Lowering.Proofs.Pass.Invariant
import Lowering.Proofs.Pass.Kinship
import Lowering.Proofs.Pass.Lasting
import Lowering.Proofs.Pass.Locating
import Lowering.Proofs.Pass.Location
import Lowering.Proofs.Pass.Opening
import Lowering.Proofs.Pass.Origin
import Lowering.Proofs.Pass.Policy
import Lowering.Proofs.Pass.Primitive
import Lowering.Proofs.Pass.Progress
import Lowering.Proofs.Pass.Reference
import Lowering.Proofs.Pass.Reserving
import Lowering.Proofs.Pass.Signature
import Lowering.Proofs.Pass.Statement
import Lowering.Proofs.Pass.Suspension
import Lowering.Proofs.Pass.Trimming
import Lowering.Proofs.Preservation
import Lowering.Proofs.Program.Assembled
import Lowering.Proofs.Program.Capturing
import Lowering.Proofs.Program.Conforming
import Lowering.Proofs.Program.Descending
import Lowering.Proofs.Program.Enrolled
import Lowering.Proofs.Program.Formed
import Lowering.Proofs.Program.Gathering
import Lowering.Proofs.Program.Grounding
import Lowering.Proofs.Program.Kinship
import Lowering.Proofs.Program.Memberwise
import Lowering.Proofs.Program.Nesting
import Lowering.Proofs.Program.Occurrence
import Lowering.Proofs.Program.Path
import Lowering.Proofs.Program.Rebodying
import Lowering.Proofs.Program.Receiving
import Lowering.Proofs.Program.Referring
import Lowering.Proofs.Program.Relying
import Lowering.Proofs.Program.Reordering
import Lowering.Proofs.Program.Substituting
import Lowering.Proofs.Program.Succession
import Lowering.Proofs.Program.Trimming
import Lowering.Proofs.Prologue
import Lowering.Proofs.Reaching
import Lowering.Proofs.Rearrangement
import Lowering.Proofs.Refusal
import Lowering.Proofs.Resumption
import Lowering.Proofs.Run
import Lowering.Proofs.Scoping
import Lowering.Proofs.Selecting
import Lowering.Proofs.Separation
import Lowering.Proofs.Session
import Lowering.Proofs.Storage
import Lowering.Proofs.Stored.Module
import Lowering.Proofs.Stored.Program
import Lowering.Proofs.Stored.Ty
import Lowering.Proofs.Tandem.Coupling
import Lowering.Proofs.Tandem.Declaration
import Lowering.Proofs.Tandem.Expression
import Lowering.Proofs.Tandem.Statement
import Lowering.Proofs.Termination
import Lowering.Proofs.Thunks
import Lowering.Proofs.Totality
import Lowering.Proofs.TypePreservation
import Lowering.Proofs.Typing.Closing
import Lowering.Proofs.Typing.Entry
import Lowering.Proofs.Typing.Expression
import Lowering.Proofs.Typing.Signature
import Lowering.Proofs.Typing.Signed
import Lowering.Proofs.Typing.Statement
import Lowering.Proofs.Typing.Types
import Lowering.Proofs.Unreachable
import Lowering.Span
import Lowering.Stored.Module
import Lowering.Stored.Program
import Lowering.Stored.Report
import Lowering.Stored.Ty
import Lowering.Table
import Lowering.Text.Printing
import Lowering.Text.Quoted
