import StorageTyping.ScalarType.Basic

/-!
# Storage types

A storage type is a scalar type or a custom type: a record, a vector or a blob that a program
declares. Custom types are compared by structure, and nothing is known about arithmetic on them.

Fields carry the type and the byte offset of a part. Only records and vectors answer field
access, the first field of a name deciding.
-/

namespace StorageTyping

/-- A named part of a larger type, with its byte offset. -/
structure Field (α : Type) where
  name : String
  type : α
  offset : Nat
deriving DecidableEq

/-- The type that a value occupies in memory. -/
inductive StorageType where
  | scalar (type : ScalarType)
  | custom (name : String) (category : Category) (size alignment : Nat)
    (fields : List (Field StorageType))

namespace StorageType

mutual

/-- Whether two types agree in everything. -/
def same : StorageType → StorageType → Bool
  | .scalar left, .scalar right => left = right
  | .custom name category size alignment fields, .custom name' category' size' alignment' fields' =>
    name = name' && category = category' && size = size' && alignment = alignment' &&
      sameFields fields fields'
  | _, _ => false

/-- Whether two lists of fields agree in everything. -/
def sameFields : List (Field StorageType) → List (Field StorageType) → Bool
  | [], [] => true
  | ⟨name, type, offset⟩ :: rest, ⟨name', type', offset'⟩ :: rest' =>
    name = name' && same type type' && offset = offset' && sameFields rest rest'
  | _, _ => false

end

mutual

theorem eq_of_same : ∀ {left right : StorageType}, same left right = true → left = right
  | .scalar _, .scalar _, h => by simpa [same] using h
  | .custom .., .custom .., h => by
    simp only [same, Bool.and_eq_true, decide_eq_true_eq] at h
    obtain ⟨⟨⟨⟨rfl, rfl⟩, rfl⟩, rfl⟩, hfields⟩ := h
    rw [eq_of_sameFields hfields]
  | .scalar _, .custom .., h => by simp [same] at h
  | .custom .., .scalar _, h => by simp [same] at h

theorem eq_of_sameFields :
    ∀ {left right : List (Field StorageType)}, sameFields left right = true → left = right
  | [], [], _ => rfl
  | ⟨_, _, _⟩ :: _, ⟨_, _, _⟩ :: _, h => by
    simp only [sameFields, Bool.and_eq_true, decide_eq_true_eq] at h
    obtain ⟨⟨⟨rfl, htype⟩, rfl⟩, hrest⟩ := h
    rw [eq_of_same htype, eq_of_sameFields hrest]
  | [], _ :: _, h => by simp [sameFields] at h
  | _ :: _, [], h => by simp [sameFields] at h

end

mutual

theorem same_self : ∀ type : StorageType, same type type = true
  | .scalar _ => by simp [same]
  | .custom _ _ _ _ fields => by simp [same, sameFields_self fields]

theorem sameFields_self : ∀ fields : List (Field StorageType), sameFields fields fields = true
  | [] => rfl
  | ⟨_, type, _⟩ :: rest => by simp [sameFields, same_self type, sameFields_self rest]

end

/-- The comparison of types decides their equality. -/
theorem same_iff_eq {left right : StorageType} : same left right = true ↔ left = right :=
  ⟨eq_of_same, fun h => h ▸ same_self left⟩

instance : DecidableEq StorageType := fun _ _ => decidable_of_iff _ same_iff_eq

instance : Inhabited StorageType := ⟨.scalar .int32⟩

/-- The scalar type, if it is one. -/
def scalar? : StorageType → Option ScalarType
  | .scalar type => some type
  | .custom .. => none

/-- Whether a type is declared by the program. -/
def isCustom : StorageType → Bool
  | .scalar _ => false
  | .custom .. => true

/-- The name by which messages show a type. -/
def name : StorageType → String
  | .scalar type => type.name
  | .custom name .. => name

/-- The category of a type. -/
def category : StorageType → Category
  | .scalar type => type.category
  | .custom _ category .. => category

/-- The size in bytes. -/
def size : StorageType → Nat
  | .scalar type => type.size
  | .custom _ _ size .. => size

/-- The alignment in bytes. -/
def alignment : StorageType → Nat
  | .scalar type => type.alignment
  | .custom _ _ _ alignment _ => alignment

/-- The fields in order of declaration; a scalar has none. -/
def fields : StorageType → List (Field StorageType)
  | .scalar _ => []
  | .custom _ _ _ _ fields => fields

/-- Whether a type is a scalar integer type. -/
def isInteger (type : StorageType) : Bool := type.scalar?.any (·.isInteger)

/-- Whether a type, also a custom one, is of the signed category. -/
def isSigned (type : StorageType) : Bool := type.category = .signed

/-- Whether a type answers field access. -/
def isStructured (type : StorageType) : Bool := type.category = .record || type.category = .vector

/-- Whether every value of a small integer literal is taken to fit a type: a custom type is
assumed to hold any of them. -/
def holds (type : StorageType) (value : Int) : Bool :=
  type.scalar?.all fun scalar => scalar.holds value

/-- Why a field could not be accessed. -/
inductive FieldError where
  | notRecord
  | missing
deriving DecidableEq, Repr

/-- The field of a name, the first one deciding. -/
def field (type : StorageType) (name : String) : Except FieldError (Field StorageType) :=
  if type.isStructured then
    match type.fields.find? fun field => field.name = name with
    | some field => .ok field
    | none => .error .missing
  else .error .notRecord

theorem scalar?_eq_some_iff {type : StorageType} {scalar : ScalarType} :
    type.scalar? = some scalar ↔ type = .scalar scalar := by
  cases type <;> simp [scalar?]

end StorageType

end StorageTyping
