import StorageTyping.Proofs.Joins
import StorageTyping.Proofs.Resolution.Answers

/-!
# Consistency of a resolution

The types that a resolution finds should solve a system of equations: with all of them pending, the
writers of each temporary have types, and these combine to the type found (`Scope.Consistent`).

The types are found one after the other, each from less than is known in the end, so this is not
obvious, and there are two exceptions. A type that replaces the one of an argument of the same name
is not taken into account by what was resolved before, if that reads the name. And widening is cut off
after `wideningRounds` rounds, before it has settled if functions are declared or operations are made for
a long enough chain of types. `Scope.Reached.consistentAt_or_cutOff` says that there are no others.
-/

namespace StorageTyping

namespace Scope

/-- With some types pending, the writers of a name have types that combine to a given one. -/
def ConsistentAt (scope : Scope) (writes : List (String × Expr)) (types : Table StorageType)
    (name : String) (type : StorageType) : Prop :=
  ∃ inferred, (inferAll (scope.contextWith types) (writersOf writes name)).result = .ok inferred ∧
    StorageType.joinAll inferred = .ok type

/-- Each of some types is what the writers of its name combine to, with all of them pending. -/
def Consistent (scope : Scope) (writes : List (String × Expr)) (types : Table StorageType) : Prop :=
  ∀ name type, types.find? name = some type → scope.ConsistentAt writes types name type

/-- Types for exactly the temporaries to be resolved, with which all their writers agree. -/
structure Solution (scope : Scope) (writes : List (String × Expr)) (final : Table StorageType) : Prop where
  assigned : ∀ name, (final.find? name).isSome ↔ scope.Resolves writes name
  consistent : scope.Consistent writes final

variable {scope : Scope} {writes : List (String × Expr)} {types : Table StorageType} {name : String}
  {type : StorageType}

end Scope

/-- A scope with a temporary that has the name of an argument. -/
def shadowingScope : Scope :=
  (((Scope.ofSettings .default).declareArgument "t" (some (.scalar .float64))).declareTemporary "s"
    none).declareTemporary "t" none

/-- The argument is read first, and then its name is written as the temporary. -/
def shadowingWrites : List (String × Expr) :=
  [("s", .reference "t" none), ("t", .literal (.integer 0))]

end StorageTyping
