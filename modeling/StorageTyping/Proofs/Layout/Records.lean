import Mathlib.Data.List.Forall2
import StorageTyping.StorageType.Layout

/-!
# Records take the least room

There are many ways to place fields in the order of their declaration, each at a multiple of its
alignment and after the one before. A record places every field as low as any of them does, and takes
the least size that is a multiple of its alignment and has room for the fields
(`StorageType.record_least`).

The first field is at the bottom in a record. As for the others, a field that is placed lower also ends
lower, and rounding up to the alignment of the next one keeps the order.
-/

namespace StorageTyping

/-- Aligning goes up to the least multiple that is not below the offset. -/
theorem alignUp_le {offset step target : Nat} (hstep : 0 < step) (hle : offset ≤ target)
    (hdvd : step ∣ target) : alignUp offset step ≤ target := by
  obtain ⟨count, rfl⟩ := hdvd
  have hquotient : (offset + step - 1) / step ≤ count := by
    refine Nat.lt_succ_iff.mp ((Nat.div_lt_iff_lt_mul hstep).mpr ?_)
    rw [Nat.succ_mul, Nat.mul_comm]
    omega
  calc alignUp offset step ≤ count * step := Nat.mul_le_mul_right step hquotient
    _ = step * count := Nat.mul_comm count step

namespace StorageType

/-- Fields placed in the order of their declaration: each at a multiple of its alignment, and each one
where the fields before it end or above. -/
structure Placement (fields : List (String × StorageType)) (placed : List (Field StorageType)) : Prop where
  entries : placed.map (fun field => (field.name, field.type)) = fields
  aligned : ∀ field ∈ placed, field.type.fieldAlignment ∣ field.offset
  ordered : placed.Pairwise fun earlier later => earlier.offset + earlier.type.size ≤ later.offset

theorem Placement.mem {fields : List (String × StorageType)} {placed : List (Field StorageType)}
    (h : Placement fields placed) {field : Field StorageType} (hfield : field ∈ placed) :
    (field.name, field.type) ∈ fields := by
  rw [← h.entries]
  exact List.mem_map_of_mem hfield

/-- A first field at the next multiple of its alignment, and the others after it. -/
theorem placeFields_cons (offset : Nat) (entry : String × StorageType)
    (rest : List (String × StorageType)) :
    placeFields offset (entry :: rest) =
      (⟨entry.1, entry.2, alignUp offset entry.2.fieldAlignment⟩ ::
          (placeFields (alignUp offset entry.2.fieldAlignment + entry.2.size) rest).1,
        (placeFields (alignUp offset entry.2.fieldAlignment + entry.2.size) rest).2) := rfl

variable {fields : List (String × StorageType)} {offset : Nat}

theorem fieldAlignment_pos (type : StorageType) : 0 < type.fieldAlignment :=
  Nat.le_max_left 1 type.alignment

theorem le_placeFields_stop (offset : Nat) (fields : List (String × StorageType)) :
    offset ≤ (placeFields offset fields).2 := by
  induction fields generalizing offset with
  | nil => exact Nat.le_refl offset
  | cons entry rest ih =>
    have hstart := (alignUp_spec offset (fieldAlignment_pos entry.2)).2.1
    exact Nat.le_trans hstart (Nat.le_trans (Nat.le_add_right _ _) (ih _))

/-- Fields lie between the offset that they are placed from and the one where the last of them ends. -/
theorem within_of_mem_placeFields {field : Field StorageType} (h : field ∈ (placeFields offset fields).1) :
    offset ≤ field.offset ∧ field.offset + field.type.size ≤ (placeFields offset fields).2 := by
  induction fields generalizing offset with
  | nil => cases h
  | cons entry rest ih =>
    have hstart := (alignUp_spec offset (fieldAlignment_pos entry.2)).2.1
    rw [placeFields_cons] at h ⊢
    rcases List.mem_cons.mp h with rfl | hrest
    · exact ⟨hstart, le_placeFields_stop _ rest⟩
    · obtain ⟨hlow, hhigh⟩ := ih hrest
      exact ⟨Nat.le_trans hstart (Nat.le_trans (Nat.le_add_right _ _) hlow), hhigh⟩

/-- Placing fields one after the other respects their order and alignments. -/
theorem placement_placeFields (offset : Nat) (fields : List (String × StorageType)) :
    Placement fields (placeFields offset fields).1 := by
  induction fields generalizing offset with
  | nil => exact ⟨rfl, by simp [placeFields], .nil⟩
  | cons entry rest ih =>
    obtain ⟨hentries, haligned, hordered⟩ :=
      ih (alignUp offset entry.2.fieldAlignment + entry.2.size)
    rw [placeFields_cons]
    refine ⟨?_, List.forall_mem_cons.mpr ⟨?_, haligned⟩, List.pairwise_cons.mpr ⟨?_, hordered⟩⟩
    · rw [List.map_cons, hentries]
    · exact (alignUp_spec offset (fieldAlignment_pos entry.2)).1
    · exact fun later hlater => (within_of_mem_placeFields hlater).1

/-- No placement from an offset on has a field at a lower place, and none ends below. -/
theorem placeFields_least {other : List (Field StorageType)} (h : Placement fields other)
    (hbottom : ∀ field ∈ other, offset ≤ field.offset) :
    List.Forall₂ (fun own other => own.offset ≤ other.offset) (placeFields offset fields).1 other ∧
      ∀ bound, offset ≤ bound → (∀ field ∈ other, field.offset + field.type.size ≤ bound) →
        (placeFields offset fields).2 ≤ bound := by
  induction fields generalizing offset other with
  | nil =>
    obtain rfl : other = [] := List.map_eq_nil_iff.mp h.entries
    exact ⟨.nil, fun bound hbound _ => hbound⟩
  | cons entry rest ih =>
    obtain ⟨first, others, rfl, rfl, hentries⟩ := List.map_eq_cons_iff.mp h.entries
    obtain ⟨hfirst, haligned⟩ := List.forall_mem_cons.mp h.aligned
    obtain ⟨hafter, hordered⟩ := List.pairwise_cons.mp h.ordered
    have hstart : alignUp offset first.type.fieldAlignment ≤ first.offset :=
      alignUp_le (fieldAlignment_pos first.type) (hbottom first List.mem_cons_self) hfirst
    have hstop := Nat.add_le_add_right hstart first.type.size
    obtain ⟨hlower, hends⟩ :=
      ih ⟨hentries, haligned, hordered⟩ fun field hfield => Nat.le_trans hstop (hafter field hfield)
    rw [placeFields_cons]
    refine ⟨.cons hstart hlower, fun bound hbound hroom => ?_⟩
    obtain ⟨hroomFirst, hroomOthers⟩ := List.forall_mem_cons.mp hroom
    exact hends bound (Nat.le_trans hstop hroomFirst) hroomOthers

theorem recordAlignment_pos (fields : List (String × StorageType)) : 0 < recordAlignment fields := by
  induction fields with
  | nil => decide
  | cons field rest ih => exact Nat.lt_of_lt_of_le ih (Nat.le_max_right _ _)

/-- The alignment of a record is the greatest one among its fields. -/
theorem recordAlignment_eq_max? (fields : List (String × StorageType)) :
    recordAlignment fields = (fields.map fun field => field.2.fieldAlignment).max?.getD 1 := by
  induction fields with
  | nil => rfl
  | cons field rest ih =>
    have hcons : recordAlignment (field :: rest) = max field.2.fieldAlignment (recordAlignment rest) := rfl
    rw [hcons, ih, List.map_cons, List.max?_cons]
    cases (rest.map fun field => field.2.fieldAlignment).max? with
    | none => exact Nat.max_eq_left (fieldAlignment_pos field.2)
    | some greatest => rfl

/-- A field is found under its name if none before it has the same one. -/
theorem field_eq_ok_of_first {type : StorageType} (hstructured : type.isStructured = true)
    {before after : List (Field StorageType)} {field : Field StorageType}
    (hfields : type.fields = before ++ field :: after)
    (hfirst : ∀ earlier ∈ before, earlier.name ≠ field.name) :
    type.field field.name = .ok field := by
  have hfind : type.fields.find? (fun other => other.name = field.name) = some field := by
    rw [hfields, List.find?_append, List.find?_eq_none.mpr (by simpa using hfirst), Option.none_or,
      List.find?_cons_of_pos (by simp)]
  simp only [StorageType.field, hstructured, if_true, hfind]

/-- A record places its fields in order, aligned and apart from each other, within its size. Its
alignment is the greatest among those of its fields, and its size is a multiple of it. No other placement
of the fields has one of them lower, and none fits into a smaller multiple of the alignment. Every field
is found under its name unless one before it has the same. -/
theorem record_least (name : String) (fields : List (String × StorageType)) :
    Placement fields (record name fields).fields ∧
      (∀ field ∈ (record name fields).fields, field.offset + field.type.size ≤ (record name fields).size) ∧
      (record name fields).alignment = (fields.map fun field => field.2.fieldAlignment).max?.getD 1 ∧
      (record name fields).alignment ∣ (record name fields).size ∧
      (∀ other, Placement fields other →
        List.Forall₂ (fun own other => own.offset ≤ other.offset) (record name fields).fields other ∧
          ∀ size, (record name fields).alignment ∣ size →
            (∀ field ∈ other, field.offset + field.type.size ≤ size) → (record name fields).size ≤ size) ∧
      ∀ before field after, (record name fields).fields = before ++ field :: after →
        (∀ earlier ∈ before, earlier.name ≠ field.name) →
          (record name fields).field field.name = .ok field := by
  have hpositive : 0 < (record name fields).alignment := recordAlignment_pos fields
  obtain ⟨hmultiple, hcovers, -⟩ := alignUp_spec (placeFields 0 fields).2 hpositive
  refine ⟨placement_placeFields 0 fields, ?_, recordAlignment_eq_max? fields, hmultiple, ?_, ?_⟩
  · exact fun field hfield => Nat.le_trans (within_of_mem_placeFields hfield).2 hcovers
  · intro other hother
    obtain ⟨hlower, hends⟩ := placeFields_least hother fun field _ => Nat.zero_le field.offset
    refine ⟨hlower, fun size hdvd hroom => ?_⟩
    exact alignUp_le hpositive (hends size (Nat.zero_le size) hroom) hdvd
  · exact fun before field after hfields hfirst => field_eq_ok_of_first rfl hfields hfirst

end StorageType

end StorageTyping
