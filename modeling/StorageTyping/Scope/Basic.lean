import StorageTyping.Scope.MathLibrary
import StorageTyping.Settings.Basic
import StorageTyping.Table

/-!
# Scopes

A scope holds what a program declares: loop indices, arguments, temporaries, constants and
functions, beside the settings. A later declaration replaces an earlier one of the same name,
except that the functions of a name accumulate and the first that fits is used.

A temporary is declared with a type or without one; in the second case its type is to be
inferred, and `Scope.commit` records the outcome. Declarations that are not part of the scope
yet are pending; they take precedence over its arguments and temporaries.
-/

namespace StorageTyping

/-- A declared argument or temporary, with its type if that is determined. -/
structure Declaration where
  role : Role
  type? : Option StorageType
deriving DecidableEq

/-- Declarations that are not part of a scope yet, by name. -/
abbrev Pending := Table Declaration

/-- What a program declares. -/
structure Scope where
  target : Target
  /-- The type of every loop index. -/
  indexType : StorageType
  /-- Whether the mathematical library is known. -/
  mathLibrary : Bool
  indices : Table Unit
  arguments : Table (Option StorageType)
  temporaries : Table (Option StorageType)
  symbols : Table Symbol
  /-- The functions of each name, in order of declaration. -/
  functions : Table (List Signature)

namespace Scope

/-- The scope without declarations. -/
def ofSettings (settings : Settings) : Scope where
  target := settings.target
  indexType := .scalar settings.indexType
  mathLibrary := settings.mathLibrary
  indices := .empty
  arguments := .empty
  temporaries := .empty
  symbols := .empty
  functions := .empty

/-- Declare a loop index. -/
def declareIndex (scope : Scope) (name : String) : Scope :=
  { scope with indices := scope.indices.insert name () }

/-- Declare an argument, with its type if that is determined. -/
def declareArgument (scope : Scope) (name : String) (type? : Option StorageType) : Scope :=
  { scope with arguments := scope.arguments.insert name type? }

/-- Declare a temporary, with a type or with one to be inferred. -/
def declareTemporary (scope : Scope) (name : String) (type? : Option StorageType) : Scope :=
  { scope with temporaries := scope.temporaries.insert name type? }

/-- Declare a constant that is spelled alike in generated code. -/
def declareSymbol (scope : Scope) (name : String) (type : StorageType) : Scope :=
  { scope with symbols := scope.symbols.insert name ⟨name, type⟩ }

/-- Declare a function for one list of argument types. -/
def declareFunction (scope : Scope) (name : String) (signature : Signature) : Scope :=
  let earlier := (scope.functions.find? name).getD []
  { scope with functions := scope.functions.insert name (earlier ++ [signature]) }

/-- Give a declared temporary a type; an undeclared name changes nothing. -/
def setTemporary (scope : Scope) (name : String) (type : StorageType) : Scope :=
  match scope.temporaries.find? name with
  | some _ => { scope with temporaries := scope.temporaries.insert name (some type) }
  | none => scope

/-- Give declared temporaries their inferred types. -/
def commit (scope : Scope) (types : Table StorageType) : Scope :=
  types.entries.foldl (fun scope entry => scope.setTemporary entry.1 entry.2) scope

/-- Whether a name is a loop index. -/
def isIndex (scope : Scope) (name : String) : Bool := (scope.indices.find? name).isSome

/-- The constant of a name: a declared one, or else the one of the library. -/
def symbol? (scope : Scope) (name : String) : Option Symbol :=
  (scope.symbols.find? name).or (if scope.mathLibrary then MathLibrary.symbol? name else none)

/-- The function of a name for exactly some argument types: the first declared one, or else the
one of the library. -/
def function? (scope : Scope) (name : String) (arguments : List StorageType) : Option Signature :=
  (((scope.functions.find? name).getD []).find? fun signature => signature.arguments = arguments).or
    (if scope.mathLibrary then MathLibrary.function? name arguments else none)

/-- Whether a name is a temporary whose type is to be inferred. -/
def isUntypedTemporary (scope : Scope) (name : String) : Bool :=
  scope.temporaries.find? name = some none

/-- The temporaries whose types are to be inferred, in ascending order. -/
def untypedTemporaries (scope : Scope) : List String :=
  scope.temporaries.namesWhere (·.isNone)

/-- The declaration that decides a name which is neither an index nor a constant: a pending one,
or else the argument, or else the temporary. -/
def declaration? (scope : Scope) (pending : Pending) (name : String) : Option Declaration :=
  (pending.find? name).or <|
    ((scope.arguments.find? name).map fun type? => ⟨.argument, type?⟩).or <|
      (scope.temporaries.find? name).map fun type? => ⟨.temporary, type?⟩

/-- A name without declared functions is that of a library function, if of any. -/
theorem function?_of_declared_eq_nil {scope : Scope} {name : String}
    (h : (scope.functions.find? name).getD [] = []) (arguments : List StorageType) :
    scope.function? name arguments =
      if scope.mathLibrary then MathLibrary.function? name arguments else none := by
  simp [function?, h]

/-- A function is resolved for exactly the types asked for. -/
theorem arguments_of_function? {scope : Scope} {name : String} {arguments : List StorageType}
    {signature : Signature} (h : scope.function? name arguments = some signature) :
    signature.arguments = arguments := by
  unfold function? at h
  rcases Option.or_eq_some_iff.mp h with hdeclared | ⟨-, hlibrary⟩
  · simpa using List.find?_some hdeclared
  · split at hlibrary
    · exact MathLibrary.arguments_of_function? hlibrary
    · contradiction

end Scope

end StorageTyping
