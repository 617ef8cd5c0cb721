import StorageTyping.Proofs.Layout.Lanes
import StorageTyping.Proofs.Layout.Records

/-!
# Types built by their constructors

A storage type can be given with any members. `StorageType.Constructed` holds of those that are put
together from scalars by `record`, `vector` and `blob` only. Their layouts obey the alignments of
their parts: the size is a multiple of the alignment, and every field stands at a multiple of its own
alignment, which is not above that of the whole (`Constructed.fits_of_mem_fields`).
-/

namespace StorageTyping

namespace StorageType

/-- A type that is put together from scalars by the constructors of custom types. -/
inductive Constructed : StorageType → Prop
  | scalar (type : ScalarType) : Constructed (.scalar type)
  | record (name : String) {fields : List (String × StorageType)}
      (hfields : ∀ field ∈ fields, Constructed field.2) : Constructed (record name fields)
  | vector (element : ScalarType) (count : Nat) : Constructed (vector element count)
  | blob (name : String) (size : Nat) : Constructed (blob name size)

/-- A size is a multiple of itself as an alignment, where zero counts as one. -/
theorem max_one_dvd (size : Nat) : max 1 size ∣ size := by
  rcases Nat.eq_zero_or_pos size with rfl | hpos
  · exact Nat.dvd_zero _
  · have hmax : max 1 size = size := Nat.max_eq_right hpos
    exact ⟨1, by rw [hmax, Nat.mul_one]⟩

/-- A record of two fields is constructed if they are. -/
theorem constructed_record_pair (name leftName rightName : String) {left right : StorageType}
    (hleft : left.Constructed) (hright : right.Constructed) :
    (record name [(leftName, left), (rightName, right)]).Constructed := by
  refine .record name fun field hfield => ?_
  simp only [List.mem_cons, List.not_mem_nil, or_false] at hfield
  rcases hfield with rfl | rfl
  · exact hleft
  · exact hright

/-- A record is aligned at least as its fields are. -/
theorem fieldAlignment_le_recordAlignment {fields : List (String × StorageType)}
    {field : String × StorageType} (h : field ∈ fields) :
    field.2.fieldAlignment ≤ recordAlignment fields := by
  induction fields with
  | nil => cases h
  | cons other rest ih =>
    rcases List.mem_cons.mp h with rfl | hrest
    · exact Nat.le_max_left _ _
    · exact Nat.le_trans (ih hrest) (Nat.le_max_right _ _)

theorem fieldAlignment_record (name : String) (fields : List (String × StorageType)) :
    (record name fields).fieldAlignment = recordAlignment fields :=
  Nat.max_eq_right (recordAlignment_pos fields)

namespace Constructed

variable {type : StorageType}

/-- The size of a type is a multiple of its alignment. -/
theorem fieldAlignment_dvd_size (h : type.Constructed) : type.fieldAlignment ∣ type.size := by
  cases h with
  | scalar type => cases type <;> decide
  | @record name fields hfields =>
    rw [fieldAlignment_record]
    exact (alignUp_spec _ (recordAlignment_pos fields)).1
  | vector element count => exact max_one_dvd (StorageType.vector element count).size
  | blob name size =>
    change max 1 (max 1 size) ∣ size
    rw [← Nat.max_assoc, Nat.max_self]
    exact max_one_dvd size

/-- A field is constructed itself and stands at a multiple of its alignment, which is not above that of
the whole. -/
theorem fits_of_mem_fields (h : type.Constructed) {field : Field StorageType} (hfield : field ∈ type.fields) :
    field.type.Constructed ∧ field.type.fieldAlignment ∣ field.offset ∧
      field.type.fieldAlignment ≤ type.fieldAlignment := by
  cases h with
  | scalar => cases hfield
  | blob => cases hfield
  | @record name fields hfields =>
    have hplacement := placement_placeFields 0 fields
    have hmem := hplacement.mem hfield
    rw [fieldAlignment_record]
    exact ⟨hfields _ hmem, hplacement.aligned field hfield, fieldAlignment_le_recordAlignment hmem⟩
  | vector element count =>
    obtain ⟨index, hnames, hlane⟩ := mem_fields_vector.mp hfield
    have hsize : fieldAlignment (.scalar element) ∣ element.size :=
      (Constructed.scalar element).fieldAlignment_dvd_size
    rw [hlane]
    refine ⟨.scalar element, Nat.dvd_mul_left_of_dvd hsize index, ?_⟩
    have hpos : 0 < element.size := by cases element <;> decide
    have hindex := hnames.lt
    have hcount : 0 < if count = 3 then 4 else count := by split <;> omega
    calc fieldAlignment (.scalar element) ≤ element.size := Nat.le_of_dvd hpos hsize
      _ ≤ (StorageType.vector element count).size := Nat.le_mul_of_pos_left _ hcount
      _ ≤ (StorageType.vector element count).fieldAlignment := Nat.le_max_right _ _

end Constructed

end StorageType

end StorageTyping
