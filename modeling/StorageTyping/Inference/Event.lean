import StorageTyping.Inference.Failure

/-!
# Events of inference

What inference reports while it runs, beside its answer. A warning says that the answer may
surprise; everything else is of use for debugging only.
-/

namespace StorageTyping

/-- How much an event matters. -/
inductive Severity where
  | debug
  | warning
deriving DecidableEq, Repr

/-- Something that inference reports. -/
inductive Event where
  /-- A name has no type yet. -/
  | dependencyUnresolved (name : String) (role : Role)
  /-- A small literal that did not take part in the choice of a type does not fit the type. -/
  | literalDropped (value : Int) (type : StorageType)
  /-- The type of a temporary is determined. -/
  | resolved (name : String) (type : StorageType)
  /-- A temporary has to wait for the type of another name. -/
  | deferring (name blockedOn : String)
  /-- The type assumed for a temporary that is written in terms of itself was too narrow. -/
  | widening (name : String) (assumed widened : StorageType)
deriving DecidableEq

namespace Event

/-- How much an event matters. -/
def severity : Event → Severity
  | .literalDropped .. => .warning
  | _ => .debug

/-- The wording of an event. -/
def message : Event → String
  | .dependencyUnresolved .. => "dtype dependency unresolved"
  | .literalDropped .. =>
    "small integer literal dropped from combine is not representable in result type"
  | .resolved .. => "resolved temporary dtype"
  | .deferring .. => "deferring temporary"
  | .widening .. => "widening self-referencing temporary"

/-- The particulars of an event, by key. -/
def details : Event → List (String × String)
  | .dependencyUnresolved name role => [("name", name), ("declaration", role.text)]
  | .literalDropped value type => [("literal", toString value), ("dtype", type.name)]
  | .resolved name type => [("name", name), ("dtype", type.name)]
  | .deferring name blockedOn => [("name", name), ("blocked_on", blockedOn)]
  | .widening name assumed widened =>
    [("name", name), ("from", assumed.name), ("to", widened.name)]

end Event

end StorageTyping
