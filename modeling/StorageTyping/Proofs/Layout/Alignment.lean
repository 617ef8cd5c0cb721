import Mathlib.Algebra.BigOperators.Ring.List
import Mathlib.Algebra.Ring.Nat
import StorageTyping.Proofs.Layout.Construction

/-!
# Alignment of nested fields

Lookups one after the other lead to a field of a field. In an array its address is the start of the
element plus the offsets of the fields passed on the way, and the question is whether that is a multiple
of the alignment of the field.

In its own type every field is aligned. But a record takes the greatest alignment of its fields and not
a common multiple, so an element of an array, or a record inside another one, may start where one of its
fields is not aligned. `StorageType.aligned_iff_of_path` says exactly when a field is aligned in every
element. It always is if all alignments are powers of two, since the greater is then a multiple of the
smaller; a blob of three bytes is not (`StorageType.misaligned_blob_of_three`).
-/

namespace StorageTyping

namespace StorageType

/-- The fields passed by lookups of some names, each in the type of the field before. -/
def fieldsAlong : StorageType → List String → Except FieldError (List (Field StorageType))
  | _, [] => .ok []
  | type, name :: rest => do
    let field ← type.field name
    let further ← field.type.fieldsAlong rest
    return field :: further

/-- Where the last field passed starts in an element of an array at address zero, in which the elements
follow each other without gaps. -/
def addressAlong (type : StorageType) (index : Nat) (path : List (Field StorageType)) : Nat :=
  index * type.size + (path.map (·.offset)).sum

variable {type : StorageType} {names : List String} {path passed : List (Field StorageType)}
  {last : Field StorageType}

theorem fieldsAlong_cons_eq_ok_iff {name : String} :
    type.fieldsAlong (name :: names) = .ok path ↔
      ∃ field further, type.field name = .ok field ∧ field.type.fieldsAlong names = .ok further ∧
        path = field :: further := by
  rw [fieldsAlong]
  cases type.field name with
  | error complaint => simp [bind, Except.bind]
  | ok field =>
    cases hfurther : field.type.fieldsAlong names with
    | error complaint => simp [bind, Except.bind, hfurther]
    | ok further => simp [bind, Except.bind, hfurther, pure, Except.pure, eq_comm]

/-- On the way inwards every field stands at a multiple of its alignment, and alignments never increase. -/
theorem Constructed.fits_along (h : type.Constructed) (hpath : type.fieldsAlong names = .ok path) :
    (∀ field ∈ path, field.type.fieldAlignment ∣ field.offset) ∧
      (type :: path.map (·.type)).Pairwise fun outer inner => inner.fieldAlignment ≤ outer.fieldAlignment := by
  induction names generalizing type path with
  | nil =>
    cases hpath
    simp
  | cons name rest ih =>
    obtain ⟨field, further, hfield, hfurther, rfl⟩ := fieldsAlong_cons_eq_ok_iff.mp hpath
    obtain ⟨hconstructed, hoffset, hle⟩ := h.fits_of_mem_fields (mem_fields_and_name_eq hfield).1
    obtain ⟨hoffsets, hdecreasing⟩ := ih hconstructed hfurther
    refine ⟨List.forall_mem_cons.mpr ⟨hoffset, hoffsets⟩, List.pairwise_cons.mpr ⟨?_, hdecreasing⟩⟩
    refine List.forall_mem_cons.mpr ⟨hle, fun inner hinner => ?_⟩
    exact ((List.pairwise_cons.mp hdecreasing).1 inner hinner).trans hle

/-- A field is aligned in every element if the place that it is counted from is a multiple of its
alignment in the first element, and so is the size of the element. -/
theorem Constructed.aligned_iff (h : type.Constructed)
    (hpath : type.fieldsAlong names = .ok (passed ++ [last])) :
    (∀ index, last.type.fieldAlignment ∣ type.addressAlong index (passed ++ [last])) ↔
      last.type.fieldAlignment ∣ type.size ∧ last.type.fieldAlignment ∣ (passed.map (·.offset)).sum := by
  have hlast : last.type.fieldAlignment ∣ last.offset := (h.fits_along hpath).1 last (by simp)
  have haddress (index : Nat) : type.addressAlong index (passed ++ [last]) =
      index * type.size + (passed.map (·.offset)).sum + last.offset := by
    simp [addressAlong, Nat.add_assoc]
  simp only [haddress, Nat.dvd_add_left hlast]
  constructor
  · intro haligned
    have hpassed : last.type.fieldAlignment ∣ (passed.map (·.offset)).sum := by simpa using haligned 0
    exact ⟨(Nat.dvd_add_left hpassed).mp (by simpa using haligned 1), hpassed⟩
  · intro hmultiples index
    exact Nat.dvd_add (hmultiples.1.mul_left index) hmultiples.2

/-- A field is aligned in every element if its alignment divides those of the types that it lies in. -/
theorem Constructed.aligned_of_dvd (h : type.Constructed)
    (hpath : type.fieldsAlong names = .ok (passed ++ [last]))
    (hdvd : ∀ outer ∈ type :: passed.map (·.type), last.type.fieldAlignment ∣ outer.fieldAlignment)
    (index : Nat) : last.type.fieldAlignment ∣ type.addressAlong index (passed ++ [last]) := by
  obtain ⟨htype, hpassed⟩ := List.forall_mem_cons.mp hdvd
  refine (h.aligned_iff hpath).mpr ⟨htype.trans h.fieldAlignment_dvd_size, List.dvd_sum ?_⟩ index
  simp only [List.forall_mem_map] at hpassed ⊢
  intro field hfield
  exact (hpassed field hfield).trans ((h.fits_along hpath).1 field (List.mem_append_left _ hfield))

/-- Of two powers of two the smaller one divides the greater one. -/
theorem dvd_of_le_of_isPowerOfTwo {small large : Nat} (hsmall : small.isPowerOfTwo)
    (hlarge : large.isPowerOfTwo) (hle : small ≤ large) : small ∣ large := by
  obtain ⟨n, rfl⟩ := hsmall
  obtain ⟨m, rfl⟩ := hlarge
  exact Nat.pow_dvd_pow 2 ((Nat.pow_le_pow_iff_right (by decide)).mp hle)

/-- A field that is reached in a constructed type is aligned in every element of an array exactly if its
alignment divides the size of the type and the place of the field that it lies in. It is so if its
alignment divides those of all types that it lies in, and hence if all of these are powers of two. -/
theorem aligned_iff_of_path (h : type.Constructed)
    (hpath : type.fieldsAlong names = .ok (passed ++ [last])) :
    ((∀ index, last.type.fieldAlignment ∣ type.addressAlong index (passed ++ [last])) ↔
        last.type.fieldAlignment ∣ type.size ∧ last.type.fieldAlignment ∣ (passed.map (·.offset)).sum) ∧
      ((∀ outer ∈ type :: passed.map (·.type), last.type.fieldAlignment ∣ outer.fieldAlignment) →
        ∀ index, last.type.fieldAlignment ∣ type.addressAlong index (passed ++ [last])) ∧
      ((∀ outer ∈ type :: (passed ++ [last]).map (·.type), outer.fieldAlignment.isPowerOfTwo) →
        ∀ index, last.type.fieldAlignment ∣ type.addressAlong index (passed ++ [last])) := by
  refine ⟨h.aligned_iff hpath, h.aligned_of_dvd hpath, fun hpowers => ?_⟩
  have hlast : last.type.fieldAlignment.isPowerOfTwo := hpowers last.type (by simp)
  have hdecreasing := (h.fits_along hpath).2
  rw [List.map_append, ← List.cons_append] at hpowers hdecreasing
  refine h.aligned_of_dvd hpath fun outer houter => ?_
  refine dvd_of_le_of_isPowerOfTwo hlast (hpowers outer (List.mem_append_left _ houter)) ?_
  exact (List.pairwise_append.mp hdecreasing).2.2 outer houter last.type (by simp)

/-- A record of a flag and a nested record that holds a vector of three lanes. -/
def particle : StorageType :=
  record "particle" [("flag", .scalar .int8),
    ("body", record "body" [("mass", .scalar .float64), ("position", vector .float32 3)])]

/-- The third lane of a vector in a record in a record is aligned, since all alignments on the way are
powers of two. -/
theorem aligned_iff_of_path_particle :
    ∃ passed last, particle.Constructed ∧
      particle.fieldsAlong ["body", "position", "z"] = .ok (passed ++ [last]) ∧
      (∀ outer ∈ particle :: (passed ++ [last]).map (·.type), outer.fieldAlignment.isPowerOfTwo) ∧
      last.type = .scalar .float32 ∧
      ∀ index, last.type.fieldAlignment ∣ particle.addressAlong index (passed ++ [last]) := by
  have hconstructed : particle.Constructed :=
    constructed_record_pair _ _ _ (.scalar _) (constructed_record_pair _ _ _ (.scalar _) (.vector _ _))
  have hpath : particle.fieldsAlong ["body", "position", "z"] =
      .ok ([⟨"body", record "body" [("mass", .scalar .float64), ("position", vector .float32 3)], 16⟩,
        ⟨"position", vector .float32 3, 16⟩] ++ [⟨"z", .scalar .float32, 8⟩]) := rfl
  have hpowers : ∀ outer ∈ [particle,
      record "body" [("mass", .scalar .float64), ("position", vector .float32 3)], vector .float32 3,
      .scalar .float32], outer.fieldAlignment.isPowerOfTwo := by
    simp only [List.forall_mem_cons]
    exact ⟨⟨4, by decide⟩, ⟨4, by decide⟩, ⟨4, by decide⟩, ⟨2, by decide⟩,
      fun _ h => absurd h List.not_mem_nil⟩
  exact ⟨_, _, hconstructed, hpath, hpowers, rfl, (aligned_iff_of_path hconstructed hpath).2.2 hpowers⟩

/-- A record of a blob of three bytes and a number, which takes eight bytes. -/
def cell : StorageType := record "cell" [("state", blob "state" 3), ("count", .scalar .int32)]

/-- In the second element of an array of such records, and in the first one of an array of records in
which such a record comes after a number, the blob does not start at a multiple of its alignment. -/
theorem misaligned_blob_of_three :
    cell.Constructed ∧ cell.fieldsAlong ["state"] = .ok [⟨"state", blob "state" 3, 0⟩] ∧
      ¬ (blob "state" 3).fieldAlignment ∣ cell.addressAlong 1 [⟨"state", blob "state" 3, 0⟩] ∧
      (record "tagged" [("tag", .scalar .int32), ("cell", cell)]).Constructed ∧
      (record "tagged" [("tag", .scalar .int32), ("cell", cell)]).fieldsAlong ["cell", "state"] =
        .ok [⟨"cell", cell, 4⟩, ⟨"state", blob "state" 3, 0⟩] ∧
      ¬ (blob "state" 3).fieldAlignment ∣
        (record "tagged" [("tag", .scalar .int32), ("cell", cell)]).addressAlong 0
          [⟨"cell", cell, 4⟩, ⟨"state", blob "state" 3, 0⟩] := by
  have hcell : cell.Constructed := constructed_record_pair _ _ _ (.blob _ _) (.scalar _)
  exact ⟨hcell, rfl, by decide, constructed_record_pair _ _ _ (.scalar _) hcell, rfl, by decide⟩

end StorageType

end StorageTyping
