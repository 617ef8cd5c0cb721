import StorageTyping.Target

/-!
# Settings of inference

What is fixed before a program declares anything: the target, the type of loop indices, and
whether the mathematical library is known. The settings can be taken from a document
(`StorageTyping.Settings.Document`) or from two variables (`StorageTyping.Settings.Variables`).
-/

namespace StorageTyping

/-- The settings of inference. -/
structure Settings where
  target : Target
  /-- The type of loop indices. -/
  indexType : ScalarType
  /-- Whether the functions and constants of the mathematical library are known. -/
  mathLibrary : Bool
deriving DecidableEq, Repr

/-- Plain C with `int32` indices and the mathematical library. -/
def Settings.default : Settings := ⟨.c, .int32, true⟩

instance : Inhabited Settings := ⟨Settings.default⟩

end StorageTyping
