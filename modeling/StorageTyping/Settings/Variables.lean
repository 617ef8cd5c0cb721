import StorageTyping.Settings.Basic

/-!
# Settings from variables

Two variables, each of which may be absent, override the default settings: one names the type
of loop indices and the other one of the two known targets. Blanks around either are ignored.
-/

namespace StorageTyping

namespace Settings

/-- The variable that names the type of loop indices. -/
def indexTypeVariable : String := "KERNEL_DTYPES_INDEX_DTYPE"

/-- The variable that names the target. -/
def targetVariable : String := "KERNEL_DTYPES_TARGET"

/-- Why variables give no settings. -/
inductive VariableError where
  | unknownIndexType (complaint : UnknownScalarName)
  /-- No known target has the name, which is kept with the blanks around it. -/
  | unknownTarget (name : String)
deriving DecidableEq, Repr

/-- The wording of a complaint about a variable. -/
def VariableError.message : VariableError → String
  | .unknownIndexType complaint => "invalid " ++ indexTypeVariable ++ ": " ++ complaint.message
  | .unknownTarget name => "invalid " ++ targetVariable ++ ": unknown target '" ++ name ++ "'"

/-- The known target of a name. -/
def knownTarget? (name : String) : Option Target :=
  [Target.c, Target.opencl].find? fun target => target.name = Text.trim name

/-- The settings that variables give; the type of indices is looked at first. -/
def ofVariables (indexType target : Option String) : Except VariableError Settings := do
  let settings := Settings.default
  let settings ← match indexType with
    | none => pure settings
    | some name =>
      match ScalarType.read name with
      | .ok indexType => pure { settings with indexType }
      | .error complaint => .error (.unknownIndexType complaint)
  match target with
  | none => return settings
  | some name =>
    match knownTarget? name with
    | some target => return { settings with target }
    | none => .error (.unknownTarget name)

end Settings

end StorageTyping
