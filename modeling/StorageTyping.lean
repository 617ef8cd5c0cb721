import StorageTyping.Table
import StorageTyping.Target
import StorageTyping.Text.Blank
import StorageTyping.Text.Quoted
import StorageTyping.Decimal.Notation
import StorageTyping.Decimal.Reading
import StorageTyping.ScalarType.Join
import StorageTyping.StorageType.Layout
import StorageTyping.StorageType.Join
import StorageTyping.Literal.Typing
import StorageTyping.Expr.Rendering
import StorageTyping.Resolution
import StorageTyping.Settings.Document
import StorageTyping.Settings.Variables
import StorageTyping.Proofs.Inspection
import StorageTyping.Proofs.Stability
import StorageTyping.Proofs.Joins
import StorageTyping.Proofs.OperandSets
import StorageTyping.Proofs.Ranges
import StorageTyping.Proofs.Absorption
import StorageTyping.Proofs.Resolution.Writers
import StorageTyping.Proofs.Resolution.Rounds
import StorageTyping.Proofs.Resolution.Temporary
import StorageTyping.Proofs.Resolution.Answers
import StorageTyping.Proofs.Resolution.Consistency
import StorageTyping.Proofs.Resolution.Confluence
import StorageTyping.Proofs.Resolution.Commitment
import StorageTyping.Proofs.Resolution.Increments
import StorageTyping.Proofs.Resolution.Completeness
import StorageTyping.Proofs.Resolution.Unresolved
import StorageTyping.Proofs.Rules
import StorageTyping.Proofs.Assumptions
import StorageTyping.Proofs.Resolution.Settling
import StorageTyping.Proofs.Anticipation
import StorageTyping.Proofs.Provisional
import StorageTyping.Proofs.Resolution.Solvability
import StorageTyping.Proofs.SuccessiveJoins
import StorageTyping.Proofs.FirstFailure
import StorageTyping.Proofs.Answering
import StorageTyping.Proofs.Congruence
import StorageTyping.Proofs.Hoisting
import StorageTyping.Proofs.Layout.Construction
import StorageTyping.Proofs.Layout.Alignment
import StorageTyping.Proofs.Resolution.Failing
import StorageTyping.Proofs.Resolution.Passes
import StorageTyping.Proofs.Representation
import StorageTyping.Proofs.SmallLiterals
import StorageTyping.Proofs.Layout.Lanes
import StorageTyping.Proofs.Layout.Records
import StorageTyping.Proofs.Layout.Descriptions
import StorageTyping.Proofs.Rendering.Openings
import StorageTyping.Proofs.Rendering.Chains
import StorageTyping.Proofs.Rendering.Atoms
import StorageTyping.Proofs.Rendering.Unambiguous
import StorageTyping.Proofs.Binary.Narrowing
import StorageTyping.Proofs.Log
import StorageTyping.Proofs.Carriers
