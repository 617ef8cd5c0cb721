import StorageTyping.StorageType.Basic

/-!
# How inference fails

There are two ways not to have an answer. A deferral says that a declared name has no type yet:
it is no error of the expression, and inference can be repeated once the name has a type. A
failure is final: it has a cause and, if it arose in an expression, the innermost
sub-expression concerned, as text.
-/

namespace StorageTyping

/-- What a name is declared as. -/
inductive Role where
  | argument
  | temporary
deriving DecidableEq, Repr

/-- The words for a role. -/
def Role.text : Role → String
  | .argument => "argument"
  | .temporary => "temporary variable"

/-- Why a type cannot be inferred at all. -/
inductive Cause where
  /-- Two different custom types are combined. -/
  | mismatch (left right : StorageType)
  /-- An integer literal needs more than 64 bits. -/
  | integerTooLarge (value : String)
  /-- A literal has no numeric type. -/
  | untypedLiteral (literal : String)
  /-- A complex literal without a size would lose digits in single precision. -/
  | unsizedComplex (literal : String)
  | unknownSignature (name : String) (arguments : List StorageType)
  | undeclared (name : String)
  | notRecord (type : StorageType) (field : String)
  | missingField (type : StorageType) (field : String)
  | noOperands
  /-- Temporaries whose types wait for each other or for names without a type. -/
  | unresolved (names : List String)
deriving DecidableEq

/-- The wording of a cause. -/
def Cause.message : Cause → String
  | .mismatch left right =>
    "nothing known about result of operation on '" ++ left.name ++ "' and '" ++ right.name ++ "'"
  | .integerTooLarge value => "integer constant '" ++ value ++ "' too large"
  | .untypedLiteral literal => "cannot deduce type of constant '" ++ literal ++ "'"
  | .unsizedComplex literal =>
    "complex constant '" ++ literal ++ "' needs to be sized for type inference"
  | .unknownSignature name arguments =>
    "no type inference information on function '" ++ name ++ "' for argument types (" ++
      ", ".intercalate (arguments.map (·.name)) ++ ")"
  | .undeclared name => "name not known in type inference: " ++ name
  | .notRecord type field =>
    "cannot access field '" ++ field ++ "' of non-record type '" ++ type.name ++ "'"
  | .missingField type field => "type '" ++ type.name ++ "' has no field '" ++ field ++ "'"
  | .noOperands => "no operand types to combine"
  | .unresolved names => "could not determine type of variable(s): " ++ ", ".intercalate names

/-- Why inference has no answer. -/
inductive Failure where
  /-- The type of a declared name is not determined yet. -/
  | waiting (name : String) (role : Role)
  /-- There is no type; the location is the innermost sub-expression concerned. -/
  | rejected (cause : Cause) (location : Option String)
deriving DecidableEq

namespace Failure

/-- The wording of a failure. -/
def message : Failure → String
  | .waiting name role => "type of " ++ role.text ++ " '" ++ name ++ "' is not yet determined"
  | .rejected cause none => "type inference failed: " ++ cause.message
  | .rejected cause (some location) =>
    "type inference failed: " ++ cause.message ++ " (in '" ++ location ++ "')"

/-- Whether inference can be repeated once more names have a type. -/
def isDeferral : Failure → Bool
  | .waiting .. => true
  | .rejected .. => false

/-- Place a failure at a sub-expression, unless it is placed further inside already. A deferral has no
place. -/
def locatedAt (location : String) : Failure → Failure
  | .rejected cause none => .rejected cause (some location)
  | failure => failure

/-- The name that a deferral waits for. -/
def blockingName? : Failure → Option String
  | .waiting name _ => some name
  | .rejected .. => none

/-- Only a deferral becomes a deferral when it is placed. -/
theorem eq_waiting_of_locatedAt {failure : Failure} {location name : String} {role : Role}
    (h : failure.locatedAt location = .waiting name role) : failure = .waiting name role := by
  unfold locatedAt at h
  split at h
  · cases h
  · exact h

/-- A failure keeps its cause when it is placed. -/
theorem exists_eq_of_locatedAt {failure : Failure} {location : String} {cause : Cause}
    {place : Option String} (h : failure.locatedAt location = .rejected cause place) :
    ∃ own, failure = .rejected cause own := by
  unfold locatedAt at h
  split at h
  · cases h
    exact ⟨none, rfl⟩
  · exact ⟨place, h⟩

end Failure

end StorageTyping
