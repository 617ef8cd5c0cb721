import Mathlib.Data.List.Nodup
import StorageTyping.Proofs.Words
import StorageTyping.StorageType.Layout

/-!
# Lanes of vectors

A vector has two families of fields: `x`, `y`, `z` and `w` for its first lanes, as far as it has them, and
`s` with a number for each lane. No two names of different lanes agree, so the search for the first
field of a name finds the one that there is. `StorageType.vector_lanes` says under which names a vector
has a field, which lane that is, and that the lanes lie inside the vector and apart from each other.
-/

namespace StorageTyping

namespace StorageType

/-- The names of a lane: that of its component, which the first four lanes have, and `s` followed by its
number. -/
def NamesLane (count : Nat) (name : String) (index : Nat) : Prop :=
  (componentNames.take count)[index]? = some name ∨ index < count ∧ name = "s" ++ toString index

variable {type : StorageType} {element : ScalarType} {count index : Nat} {name : String}
  {field : Field StorageType}

/-- The field that is found under a name is one of the fields and has the name. -/
theorem mem_fields_and_name_eq (h : type.field name = .ok field) :
    field ∈ type.fields ∧ field.name = name := by
  unfold StorageType.field at h
  split at h
  · split at h
    · rename_i hfind
      cases h
      exact ⟨List.mem_of_find?_eq_some hfind, by simpa using List.find?_some hfind⟩
    · cases h
  · cases h

/-- If a name determines the field, the first field of the name is the only one. -/
theorem field_eq_ok_iff_of_unique (hstructured : type.isStructured = true)
    (hunique : ∀ left ∈ type.fields, ∀ right ∈ type.fields, left.name = right.name → left = right) :
    type.field name = .ok field ↔ field ∈ type.fields ∧ field.name = name := by
  refine ⟨mem_fields_and_name_eq, ?_⟩
  rintro ⟨hmem, rfl⟩
  have hsome : (type.fields.find? fun other => other.name = field.name).isSome = true :=
    List.find?_isSome.mpr ⟨field, hmem, by simp⟩
  obtain ⟨found, hfind⟩ := Option.isSome_iff_exists.mp hsome
  have hname : found.name = field.name := by simpa using List.find?_some hfind
  rw [StorageType.field, if_pos hstructured, hfind,
    hunique found (List.mem_of_find?_eq_some hfind) field hmem hname]

/-- A structured type complains of a missing field if no field has the name. -/
theorem field_eq_missing (hstructured : type.isStructured = true)
    (hmissing : ∀ field ∈ type.fields, field.name ≠ name) : type.field name = .error .missing := by
  rw [StorageType.field, if_pos hstructured, List.find?_eq_none.mpr (by simpa using hmissing)]

theorem NamesLane.lt (h : NamesLane count name index) : index < count := by
  rcases h with hcomponent | ⟨hlt, -⟩
  · obtain ⟨hindex, -⟩ := List.getElem?_eq_some_iff.mp hcomponent
    rw [List.length_take] at hindex
    exact Nat.lt_of_lt_of_le hindex (Nat.min_le_left _ _)
  · exact hlt

/-- No component is named like a numbered lane. -/
theorem ne_numbered_of_mem_componentNames (h : name ∈ componentNames) (index : Nat) :
    name ≠ "s" ++ toString index := by
  rintro rfl
  have hfirst : ∀ component ∈ componentNames, component.toList.head? ≠ some 's' := by decide
  exact hfirst _ h (by rw [String.toList_append]; rfl)

/-- A name belongs to one lane only. -/
theorem NamesLane.unique {other : Nat} (h : NamesLane count name index)
    (hother : NamesLane count name other) : index = other := by
  have hmem {place : Nat} (hplace : (componentNames.take count)[place]? = some name) :
      name ∈ componentNames := List.mem_of_mem_take (List.mem_of_getElem? hplace)
  rcases h with hcomponent | ⟨-, hnumber⟩ <;> rcases hother with hcomponent' | ⟨-, hnumber'⟩
  · have hdistinct : (componentNames.take count).Nodup :=
      List.Nodup.sublist (List.take_sublist _ _) (by decide)
    obtain ⟨hindex, -⟩ := List.getElem?_eq_some_iff.mp hcomponent
    exact (List.getElem?_inj hindex hdistinct).mp (hcomponent.trans hcomponent'.symm)
  · exact absurd hnumber' (ne_numbered_of_mem_componentNames (hmem hcomponent) other)
  · exact absurd hnumber (ne_numbered_of_mem_componentNames (hmem hcomponent') index)
  · have hdigits : toString index = toString other :=
      (String.append_right_inj "s").mp (hnumber.symm.trans hnumber')
    exact toString_nat_injective hdigits

/-- The fields of a vector are its lanes under each of their names. -/
theorem mem_fields_vector :
    field ∈ (vector element count).fields ↔
      ∃ index, NamesLane count field.name index ∧ field = lane element field.name index := by
  have hfields : (vector element count).fields =
      (componentNames.take count).mapIdx (fun index name => lane element name index) ++
        (List.range count).map fun index => lane element ("s" ++ toString index) index := rfl
  rw [hfields, List.mem_append, List.mem_mapIdx, List.mem_map]
  constructor
  · rintro (⟨index, hindex, rfl⟩ | ⟨index, hindex, rfl⟩)
    · exact ⟨index, .inl (List.getElem?_eq_getElem hindex), rfl⟩
    · exact ⟨index, .inr ⟨List.mem_range.mp hindex, rfl⟩, rfl⟩
  · rintro ⟨index, hcomponent | ⟨hindex, hname⟩, hfield⟩
    · obtain ⟨hindex, hname⟩ := List.getElem?_eq_some_iff.mp hcomponent
      exact .inl ⟨index, hindex, hname ▸ hfield.symm⟩
    · exact .inr ⟨index, List.mem_range.mpr hindex, hname ▸ hfield.symm⟩

/-- A field of a vector is the lane that its name belongs to. -/
theorem field_vector_eq_ok_iff :
    (vector element count).field name = .ok field ↔
      ∃ index, NamesLane count name index ∧ field = lane element name index := by
  have hunique : ∀ left ∈ (vector element count).fields, ∀ right ∈ (vector element count).fields,
      left.name = right.name → left = right := by
    intro left hleft right hright hname
    obtain ⟨index, hnames, hlane⟩ := mem_fields_vector.mp hleft
    obtain ⟨other, hnames', hlane'⟩ := mem_fields_vector.mp hright
    rw [hlane, hlane', ← hname, hnames.unique (hname ▸ hnames')]
  rw [field_eq_ok_iff_of_unique rfl hunique, mem_fields_vector]
  constructor
  · rintro ⟨hlane, rfl⟩
    exact hlane
  · rintro ⟨index, hnames, rfl⟩
    exact ⟨⟨index, hnames, rfl⟩, rfl⟩

/-- Different multiples of a size are at least that size apart. -/
theorem apart_of_ne {left right : Nat} (h : left ≠ right) (size : Nat) :
    left * size + size ≤ right * size ∨ right * size + size ≤ left * size := by
  simp only [← Nat.succ_mul]
  rcases Nat.lt_or_gt_of_ne h with hlt | hlt
  · exact .inl (Nat.mul_le_mul_right size hlt)
  · exact .inr (Nat.mul_le_mul_right size hlt)

theorem le_size_vector (element : ScalarType) (count : Nat) :
    count * element.size ≤ (vector element count).size := by
  refine Nat.mul_le_mul_right element.size ?_
  split <;> omega

/-- A vector has a field exactly under the names of its lanes: the lane, of the element type, at the
multiple of the element's size that its number gives. Other names are missing. Every lane lies inside
the vector, and different lanes do not overlap. -/
theorem vector_lanes (element : ScalarType) (count : Nat) :
    (∀ name field, (vector element count).field name = .ok field ↔
        ∃ index, NamesLane count name index ∧ field = ⟨name, .scalar element, index * element.size⟩) ∧
      (∀ name, (∀ index, ¬ NamesLane count name index) →
        (vector element count).field name = .error .missing) ∧
      (∀ name index, NamesLane count name index →
        (lane element name index).offset + element.size ≤ (vector element count).size) ∧
      ∀ name index other otherIndex, NamesLane count name index → NamesLane count other otherIndex →
        index ≠ otherIndex →
          (lane element name index).offset + element.size ≤ (lane element other otherIndex).offset ∨
            (lane element other otherIndex).offset + element.size ≤ (lane element name index).offset := by
  refine ⟨fun name field => field_vector_eq_ok_iff, ?_, ?_, ?_⟩
  · intro name hmissing
    refine field_eq_missing rfl fun field hfield hname => ?_
    obtain ⟨index, hnames, -⟩ := mem_fields_vector.mp hfield
    exact hmissing index (hname ▸ hnames)
  · intro name index hnames
    calc index * element.size + element.size = (index + 1) * element.size := (Nat.succ_mul _ _).symm
      _ ≤ count * element.size := Nat.mul_le_mul_right element.size hnames.lt
      _ ≤ (vector element count).size := le_size_vector element count
  · exact fun _ _ _ _ _ _ hne => apart_of_ne hne element.size

end StorageType

end StorageTyping
