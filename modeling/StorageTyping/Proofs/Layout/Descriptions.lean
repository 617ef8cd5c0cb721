import StorageTyping.StorageType.Join
import StorageTyping.Proofs.Layout.Construction

/-!
# Types tell how they are put together

The constructors of custom types compute offsets, sizes and names, and types are compared by what was
computed. A `Description` says what a type is put together from, and `Description.build` puts it
together. Nothing is lost on the way: two descriptions that build the same type are the same
(`Description.build_eq_iff`), since placed fields still show their names and types, and the name of a
vector shows its element and its number of lanes. Hence two custom types have a join exactly if they are
put together in the same way (`Description.build_eq_and_join_iff`).
-/

namespace StorageTyping

namespace StorageType

/-- A record determines its name and its fields. -/
theorem record_inj {name name' : String} {fields fields' : List (String × StorageType)} :
    record name fields = record name' fields' ↔ name = name' ∧ fields = fields' := by
  constructor
  · intro h
    have hplaced : (record name fields).fields = (record name' fields').fields := congrArg _ h
    refine ⟨congrArg StorageType.name h, ?_⟩
    rw [← (placement_placeFields 0 fields).entries, ← (placement_placeFields 0 fields').entries]
    exact congrArg (List.map fun field => (field.name, field.type)) hplaced
  · rintro ⟨rfl, rfl⟩
    rfl

theorem vectorStem_injective {left right : ScalarType} (h : vectorStem left = vectorStem right) :
    left = right := by
  have hdistinct : ∀ left ∈ ScalarType.all, ∀ right ∈ ScalarType.all,
      vectorStem left = vectorStem right → left = right := by decide
  exact hdistinct left (ScalarType.mem_all left) right (ScalarType.mem_all right) h

/-- The name of a vector determines its element and its number of lanes, as no stem has a digit. -/
theorem vector_name_inj {left right : ScalarType} {count count' : Nat}
    (h : vectorStem left ++ toString count = vectorStem right ++ toString count') :
    left = right ∧ count = count' := by
  have hstem (element : ScalarType) : ∀ char ∈ (vectorStem element).toList, (!char.isDigit) = true := by
    have hall : ((vectorStem element).toList.all fun char => !char.isDigit) = true := by
      cases element <;> decide
    exact List.all_eq_true.mp hall
  have hdigits (number : Nat) : StopsRun (fun char => !char.isDigit) (toString number).toList := by
    intro char hchar
    rw [toList_toString_nat] at hchar
    simpa using isDigit_of_mem_toDigits (List.mem_of_mem_head? hchar)
  have hchars := congrArg String.toList h
  rw [String.toList_append, String.toList_append] at hchars
  obtain ⟨hstems, hcounts⟩ :=
    append_eq_append_of_runs (hstem left) (hstem right) (hdigits count) (hdigits count') hchars
  exact ⟨vectorStem_injective (String.toList_injective hstems),
    toString_nat_injective (String.toList_injective hcounts)⟩

/-- A vector determines its element and its number of lanes. -/
theorem vector_inj {left right : ScalarType} {count count' : Nat} :
    vector left count = vector right count' ↔ left = right ∧ count = count' := by
  constructor
  · exact fun h => vector_name_inj (congrArg StorageType.name h)
  · rintro ⟨rfl, rfl⟩
    rfl

/-- A blob determines its name and its size. -/
theorem blob_inj {name name' : String} {size size' : Nat} :
    blob name size = blob name' size' ↔ name = name' ∧ size = size' := by
  constructor
  · exact fun h => ⟨congrArg StorageType.name h, congrArg StorageType.size h⟩
  · rintro ⟨rfl, rfl⟩
    rfl

end StorageType

/-- How a type is put together: from scalars, by the constructors of custom types. -/
inductive Description where
  | scalar (type : ScalarType)
  | record (name : String) (fields : List (String × Description))
  | vector (element : ScalarType) (count : Nat)
  | blob (name : String) (size : Nat)

namespace Description

mutual

/-- Put a type together. -/
def build : Description → StorageType
  | .scalar type => .scalar type
  | .record name fields => .record name (buildFields fields)
  | .vector element count => .vector element count
  | .blob name size => .blob name size

/-- Put the types of fields together. -/
def buildFields : List (String × Description) → List (String × StorageType)
  | [] => []
  | (name, description) :: rest => (name, build description) :: buildFields rest

end

/-- The category of what is built, unless it is a scalar. -/
def category? : Description → Option Category
  | .scalar _ => none
  | .record .. => some .record
  | .vector .. => some .vector
  | .blob .. => some .blob

theorem category?_eq (description : Description) :
    description.category? =
      if description.build.isCustom = true then some description.build.category else none := by
  cases description <;> rfl

mutual

/-- What is built determines its description. -/
theorem eq_of_build_eq {left right : Description} (h : left.build = right.build) : left = right := by
  have hcategory : left.category? = right.category? := by rw [category?_eq, category?_eq, h]
  match left, right, hcategory with
  | .scalar _, .scalar _, _ => rw [StorageType.scalar.inj h]
  | .record _ fields, .record _ fields', _ =>
    obtain ⟨rfl, hfields⟩ := StorageType.record_inj.mp h
    rw [eq_of_buildFields_eq hfields]
  | .vector .., .vector .., _ =>
    obtain ⟨rfl, rfl⟩ := StorageType.vector_inj.mp h
    rfl
  | .blob .., .blob .., _ =>
    obtain ⟨rfl, rfl⟩ := StorageType.blob_inj.mp h
    rfl

theorem eq_of_buildFields_eq {left right : List (String × Description)}
    (h : buildFields left = buildFields right) : left = right := by
  match left, right with
  | [], [] => rfl
  | [], _ :: _ => cases h
  | _ :: _, [] => cases h
  | (_, _) :: _, (_, _) :: _ =>
    obtain ⟨hfield, hrest⟩ := List.cons.inj h
    obtain ⟨rfl, htype⟩ := Prod.mk.inj hfield
    rw [eq_of_build_eq htype, eq_of_buildFields_eq hrest]

end

/-- Types are the same exactly if they are put together in the same way. -/
theorem build_eq_iff {left right : Description} : left.build = right.build ↔ left = right :=
  ⟨eq_of_build_eq, fun h => h ▸ rfl⟩

mutual

theorem constructed_build : ∀ description : Description, description.build.Constructed
  | .scalar type => .scalar type
  | .record name fields => .record name (constructed_of_mem_buildFields fields)
  | .vector element count => .vector element count
  | .blob name size => .blob name size

theorem constructed_of_mem_buildFields :
    ∀ fields : List (String × Description), ∀ field ∈ buildFields fields, field.2.Constructed
  | [], _, hfield => absurd hfield List.not_mem_nil
  | (_, description) :: rest, field, hfield => by
    rcases List.mem_cons.mp hfield with rfl | hrest
    · exact constructed_build description
    · exact constructed_of_mem_buildFields rest field hrest

end

/-- The constructed types are those that have a description. -/
theorem constructed_iff_exists_build {type : StorageType} :
    type.Constructed ↔ ∃ description : Description, description.build = type := by
  constructor
  · intro h
    induction h with
    | scalar type => exact ⟨.scalar type, rfl⟩
    | vector element count => exact ⟨.vector element count, rfl⟩
    | blob name size => exact ⟨.blob name size, rfl⟩
    | @record name fields _ ih =>
      have hfields : ∃ descriptions, buildFields descriptions = fields := by
        clear * - ih
        induction fields with
        | nil => exact ⟨[], rfl⟩
        | cons field rest ihRest =>
          obtain ⟨description, hdescription⟩ := ih field List.mem_cons_self
          obtain ⟨descriptions, hdescriptions⟩ :=
            ihRest fun other hother => ih other (List.mem_cons_of_mem _ hother)
          exact ⟨(field.1, description) :: descriptions, by rw [buildFields, hdescription, hdescriptions]⟩
      obtain ⟨descriptions, rfl⟩ := hfields
      exact ⟨.record name descriptions, rfl⟩
  · rintro ⟨description, rfl⟩
    exact constructed_build description

/-- Types are the same exactly if they are put together in the same way, and two custom types have a join
exactly then; otherwise joining them complains of a mismatch of the two. -/
theorem build_eq_and_join_iff (left right : Description) :
    (left.build = right.build ↔ left = right) ∧
      (left.build.isCustom = true → right.build.isCustom = true →
        StorageType.joinAll [left.build, right.build] = left.build.join right.build ∧
          ((∃ type, StorageType.joinAll [left.build, right.build] = .ok type) ↔ left = right) ∧
          (left ≠ right →
            StorageType.joinAll [left.build, right.build] = .error (.mismatch left.build right.build))) := by
  refine ⟨build_eq_iff, fun hleft hright => ?_⟩
  have hjoin : StorageType.joinAll [left.build, right.build] =
      if right.build ≠ left.build then .error (.mismatch left.build right.build) else .ok left.build := by
    rw [StorageType.joinAll_pair, StorageType.join_of_isCustom hleft]
    simp only [hright, true_and]
  refine ⟨StorageType.joinAll_pair _ _, ?_, fun hne => ?_⟩
  · rw [hjoin, ← build_eq_iff]
    by_cases hsame : right.build = left.build
    · simp [hsame]
    · simp [hsame, Ne.symm hsame]
  · rw [hjoin, if_pos fun hsame => hne (build_eq_iff.mp hsame.symm)]

end Description

end StorageTyping
