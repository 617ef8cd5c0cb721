import StorageTyping.StorageType.Join

/-!
# Joins and widening

What the join of some types is depends only on which types there are (`joinAll_eq_ok_of_mem_iff`),
and it is a custom operand if there is one.

A join is one of its operands or of a higher grade (`widensTo_of_joinAll`). Grades order the types
by how far they have been widened: integers by their width, then half, single and double
precision with the complex types one grade above their parts, and custom types last. There are
nine grades, so a type can only be widened a few times.
-/

namespace StorageTyping

namespace ScalarType

/-- How far a type has been widened. -/
def grade : ScalarType → Nat
  | int8 | uint8 => 0
  | int16 | uint16 => 1
  | int32 | uint32 => 2
  | int64 | uint64 => 3
  | float16 => 4
  | float32 => 5
  | float64 | complex64 => 6
  | complex128 => 7

theorem grade_le (type : ScalarType) : type.grade ≤ 7 := by
  cases type <;> decide

/-- A greatest width that is not zero is the width of one of the types. -/
theorem exists_mem_of_greatestWidth_pos {width : ScalarType → Nat} {types : List ScalarType}
    (h : 0 < greatestWidth width types) : ∃ type ∈ types, width type = greatestWidth width types := by
  induction types with
  | nil => simp [greatestWidth] at h
  | cons type rest ih =>
    have hcons : greatestWidth width (type :: rest) = max (width type) (greatestWidth width rest) := rfl
    by_cases hle : greatestWidth width rest ≤ width type
    · exact ⟨type, List.mem_cons_self, by rw [hcons, Nat.max_eq_left hle]⟩
    · have hlt : width type < greatestWidth width rest := Nat.lt_of_not_le hle
      obtain ⟨other, hother, hwidth⟩ := ih (Nat.zero_lt_of_lt hlt)
      refine ⟨other, List.mem_cons_of_mem _ hother, ?_⟩
      rw [hcons, Nat.max_eq_right (Nat.le_of_lt hlt), hwidth]

theorem le_greatestWidth {width : ScalarType → Nat} {types : List ScalarType} {type : ScalarType}
    (h : type ∈ types) : width type ≤ greatestWidth width types :=
  greatestWidth_le_iff.mp (Nat.le_refl _) type h

theorem bitsIn_of_category {category : Category} {type : ScalarType} (h : type.category = category) :
    bitsIn category type = type.bits := by
  simp [bitsIn, h]

theorem signedOfWidth?_bits (type : ScalarType) (h : type.category = .signed) :
    signedOfWidth? type.bits = some type := by
  cases type <;> first | contradiction | rfl

theorem unsignedOfWidth?_bits (type : ScalarType) (h : type.category = .unsigned) :
    unsignedOfWidth? type.bits = some type := by
  cases type <;> first | contradiction | rfl

/-- The widest of the types of a category among some types. -/
structure WidestIn (types : List ScalarType) (sign : Category) (widest : ScalarType) : Prop where
  mem : widest ∈ types
  category_eq : widest.category = sign
  bits_le : ∀ type ∈ types, type.category = sign → type.bits ≤ widest.bits

/-- The greatest width of a category belongs to the widest type of it, unless there is none. -/
theorem widestIn_or_forall_ne {sign : Category} {ofWidth? : Nat → Option ScalarType}
    (hofWidth : ∀ type : ScalarType, type.category = sign → ofWidth? type.bits = some type)
    (hzero : ofWidth? 0 = none) (types : List ScalarType) :
    (∃ widest, ofWidth? (greatestWidth (bitsIn sign) types) = some widest ∧
        WidestIn types sign widest) ∨
      ofWidth? (greatestWidth (bitsIn sign) types) = none ∧ ∀ type ∈ types, type.category ≠ sign := by
  have hle {type : ScalarType} (hmem : type ∈ types) (hsign : type.category = sign) :
      type.bits ≤ greatestWidth (bitsIn sign) types := by
    rw [← bitsIn_of_category hsign]
    exact le_greatestWidth hmem
  rcases Nat.eq_zero_or_pos (greatestWidth (bitsIn sign) types) with hwidth | hpos
  · rw [hwidth] at hle ⊢
    refine Or.inr ⟨hzero, fun type hmem hsign => absurd (hle hmem hsign) ?_⟩
    cases type <;> decide
  · obtain ⟨widest, hmem, hwidth⟩ := exists_mem_of_greatestWidth_pos hpos
    have hsign : widest.category = sign := by
      refine Decidable.byContradiction fun hne => ?_
      rw [bitsIn, if_neg hne] at hwidth
      omega
    rw [bitsIn_of_category hsign] at hwidth
    rw [← hwidth] at hle ⊢
    exact Or.inl ⟨widest, hofWidth widest hsign, hmem, hsign, fun _ => hle⟩

/-- How a join of integer types comes about. -/
inductive JoinsIntegers (types : List ScalarType) : ScalarType → Prop
  | signed {widest : ScalarType} (hwidest : WidestIn types .signed widest)
      (hnone : ∀ type ∈ types, type.category ≠ .unsigned) : JoinsIntegers types widest
  | unsigned {widest : ScalarType} (hwidest : WidestIn types .unsigned widest)
      (hnone : ∀ type ∈ types, type.category ≠ .signed) : JoinsIntegers types widest
  | mixed {signed unsigned : ScalarType} (hsigned : WidestIn types .signed signed)
      (hunsigned : WidestIn types .unsigned unsigned) :
      JoinsIntegers types (joinMixedSign signed unsigned)

/-- Types are joined by the widest signed and the widest unsigned one, unless there is neither. -/
theorem joinsIntegers_or_forall_ne (types : List ScalarType) :
    (∃ joined, joinIntegers types = some joined ∧ JoinsIntegers types joined) ∨
      joinIntegers types = none ∧ ∀ type ∈ types, type.isInteger = false := by
  unfold joinIntegers
  rcases widestIn_or_forall_ne signedOfWidth?_bits rfl types with ⟨signed, hs, hsigned⟩ | ⟨hs, hsigned⟩ <;>
    rcases widestIn_or_forall_ne unsignedOfWidth?_bits rfl types with
      ⟨unsigned, hu, hunsigned⟩ | ⟨hu, hunsigned⟩ <;> rw [hs, hu]
  · exact Or.inl ⟨_, rfl, .mixed hsigned hunsigned⟩
  · exact Or.inl ⟨_, rfl, .signed hsigned hunsigned⟩
  · exact Or.inl ⟨_, rfl, .unsigned hunsigned hsigned⟩
  · refine Or.inr ⟨rfl, fun type hmem => ?_⟩
    simp [isInteger, hsigned type hmem, hunsigned type hmem]

theorem joinsIntegers_of_eq_some {types : List ScalarType} {joined : ScalarType}
    (h : joinIntegers types = some joined) : JoinsIntegers types joined := by
  rcases joinsIntegers_or_forall_ne types with ⟨other, hother, hjoins⟩ | ⟨hnone, -⟩
  · cases hother.symm.trans h
    exact hjoins
  · cases hnone.symm.trans h

/-- An operand of a join of integers is no wider than the join, if that is of its sign, or no wider than
the operand of its sign that is joined with one of the other. -/
theorem JoinsIntegers.le_or_mixed {types : List ScalarType} {type joined : ScalarType}
    (h : JoinsIntegers types joined) (hmem : type ∈ types) (hinteger : type.isInteger = true) :
    type.category = joined.category ∧ type.bits ≤ joined.bits ∨
      ∃ signed unsigned : ScalarType, signed.category = .signed ∧ unsigned.category = .unsigned ∧
        (type.category = .signed ∧ type.bits ≤ signed.bits ∨
          type.category = .unsigned ∧ type.bits ≤ unsigned.bits) ∧
        joined = joinMixedSign signed unsigned := by
  have hsign : type.category = .signed ∨ type.category = .unsigned := by
    simpa [isInteger] using hinteger
  cases h with
  | signed hwidest hnone =>
    have htype := hsign.resolve_right (hnone type hmem)
    exact Or.inl ⟨htype.trans hwidest.category_eq.symm, hwidest.bits_le type hmem htype⟩
  | unsigned hwidest hnone =>
    have htype := hsign.resolve_left (hnone type hmem)
    exact Or.inl ⟨htype.trans hwidest.category_eq.symm, hwidest.bits_le type hmem htype⟩
  | @mixed signed unsigned hsigned hunsigned =>
    refine Or.inr ⟨signed, unsigned, hsigned.category_eq, hunsigned.category_eq, ?_, rfl⟩
    exact hsign.imp (fun htype => ⟨htype, hsigned.bits_le type hmem htype⟩)
      fun htype => ⟨htype, hunsigned.bits_le type hmem htype⟩

/-- Among the signed and among the unsigned types a wider one is of a higher grade. -/
theorem eq_or_grade_lt_of_bits_le {narrow wide : ScalarType} (hinteger : narrow.isInteger = true)
    (hcategory : narrow.category = wide.category) (h : narrow.bits ≤ wide.bits) :
    wide = narrow ∨ narrow.grade < wide.grade := by
  revert hinteger hcategory h
  cases narrow <;> cases wide <;> decide

/-- The join of a signed and an unsigned type is the signed one or of a higher grade than both. -/
theorem joinMixedSign_spec {signed unsigned : ScalarType} (hsigned : signed.category = .signed)
    (hunsigned : unsigned.category = .unsigned) :
    (joinMixedSign signed unsigned = signed ∨ signed.grade < (joinMixedSign signed unsigned).grade) ∧
      unsigned.grade < (joinMixedSign signed unsigned).grade := by
  revert hsigned hunsigned
  cases signed <;> cases unsigned <;> decide

/-- A join of integers is the operand or of a higher grade. -/
theorem eq_or_grade_lt_of_joinIntegers {types : List ScalarType} {type joined : ScalarType}
    (hmem : type ∈ types) (hinteger : type.isInteger = true) (h : joinIntegers types = some joined) :
    joined = type ∨ type.grade < joined.grade := by
  rcases (joinsIntegers_of_eq_some h).le_or_mixed hmem hinteger with
    ⟨hcategory, hbits⟩ | ⟨signed, unsigned, hsigned, hunsigned, htype, rfl⟩
  · exact eq_or_grade_lt_of_bits_le hinteger hcategory hbits
  · obtain ⟨hjoinSigned, hjoinUnsigned⟩ := joinMixedSign_spec hsigned hunsigned
    rcases htype with ⟨hcategory, hbits⟩ | ⟨hcategory, hbits⟩
    · have hgrade := eq_or_grade_lt_of_bits_le hinteger (hcategory.trans hsigned.symm) hbits
      grind
    · have hgrade := eq_or_grade_lt_of_bits_le hinteger (hcategory.trans hunsigned.symm) hbits
      grind

/-- The type that a floating-point part gives, by itself or as the part of a complex type. -/
def ofPart (complex : Bool) (part : ScalarType) : ScalarType :=
  if complex then complexOfPart part else part

/-- A floating-point type for some width is no narrower than 64 bits and any part of the width. -/
theorem floatOfWidth_spec {demand width : Nat} (h : demand ≤ width) :
    (floatOfWidth width).category = .float ∧ min demand 64 ≤ (floatOfWidth width).bits := by
  unfold floatOfWidth
  split
  · exact ⟨rfl, show min demand 64 ≤ 16 by omega⟩
  · split
    · exact ⟨rfl, show min demand 64 ≤ 32 by omega⟩
    · exact ⟨rfl, show min demand 64 ≤ 64 by omega⟩

/-- A join of real and complex types has a part that is as wide as any operand asks for, up to 64 bits. -/
theorem exists_part_of_joinReals (types : List ScalarType) :
    ∃ part : ScalarType, part.category = .float ∧ joinReals types = ofPart (types.any isComplex) part ∧
      ∀ type ∈ types, min (floatBits (types.contains float32) type) 64 ≤ part.bits :=
  ⟨_, (floatOfWidth_spec (Nat.le_refl _)).1, rfl, fun _ hmem => (floatOfWidth_spec (le_greatestWidth hmem)).2⟩

/-- A part as wide as an operand asks for gives the operand or a type of a higher grade. -/
theorem eq_or_grade_lt_ofPart {type part : ScalarType} {single complex : Bool}
    (hfloat : part.category = .float) (hbits : min (floatBits single type) 64 ≤ part.bits)
    (hcomplex : type.isComplex = true → complex = true) :
    ofPart complex part = type ∨ type.grade < (ofPart complex part).grade := by
  revert hbits hcomplex
  rcases category_eq_float_iff.mp hfloat with rfl | rfl | rfl <;>
    cases type <;> cases single <;> cases complex <;> decide

/-- A join of real and complex types is the operand or of a higher grade. -/
theorem eq_or_grade_lt_joinReals {types : List ScalarType} {type : ScalarType} (hmem : type ∈ types) :
    joinReals types = type ∨ type.grade < (joinReals types).grade := by
  obtain ⟨part, hfloat, hjoin, hbits⟩ := exists_part_of_joinReals types
  rw [hjoin]
  exact eq_or_grade_lt_ofPart hfloat (hbits type hmem) fun hcomplex =>
    List.any_eq_true.mpr ⟨type, hmem, hcomplex⟩

/-- A join is the operand or of a higher grade. -/
theorem eq_or_grade_lt_of_joinAll {types : List ScalarType} {type joined : ScalarType}
    (hmem : type ∈ types) (h : joinAll types = some joined) :
    joined = type ∨ type.grade < joined.grade := by
  unfold joinAll at h
  split at h
  · rename_i hall
    exact eq_or_grade_lt_of_joinIntegers hmem (List.all_eq_true.mp hall type hmem) h
  · cases h
    exact eq_or_grade_lt_joinReals hmem

/-- A join depends only on which types there are. -/
theorem joinAll_eq_of_mem_iff {left right : List ScalarType}
    (h : ∀ type, type ∈ left ↔ type ∈ right) : joinAll left = joinAll right := by
  have hall : left.all isInteger = right.all isInteger := by
    rw [Bool.eq_iff_iff]
    simp [h]
  have hany : left.any isComplex = right.any isComplex := by
    rw [Bool.eq_iff_iff]
    simp [h]
  have hsingle : left.contains float32 = right.contains float32 := by
    simp [h]
  simp only [joinAll, joinIntegers, joinReals, hall, hany, hsingle, greatestWidth_eq_of_mem_iff h]

/-- Scalars have a join unless there are none. -/
theorem exists_joinAll_of_ne_nil {types : List ScalarType} (h : types ≠ []) :
    ∃ joined, joinAll types = some joined := by
  unfold joinAll
  split
  · rename_i hall
    obtain ⟨type, hmem⟩ := List.exists_mem_of_ne_nil types h
    rcases joinsIntegers_or_forall_ne types with ⟨joined, hjoined, -⟩ | ⟨-, hnone⟩
    · exact ⟨joined, hjoined⟩
    · cases (hnone type hmem).symm.trans (List.all_eq_true.mp hall type hmem)
  · exact ⟨_, rfl⟩

end ScalarType

namespace StorageType

/-- How far a type has been widened; nothing is wider than a custom type. -/
def grade : StorageType → Nat
  | .scalar type => type.grade
  | .custom .. => 8

theorem grade_le (type : StorageType) : type.grade ≤ 8 := by
  cases type with
  | scalar type => exact Nat.le_succ_of_le type.grade_le
  | custom => exact Nat.le_refl 8

/-- The second type is the first or of a higher grade. -/
def WidensTo (narrow wide : StorageType) : Prop := wide = narrow ∨ narrow.grade < wide.grade

theorem WidensTo.trans {first second third : StorageType} (h : first.WidensTo second)
    (h' : second.WidensTo third) : first.WidensTo third := by
  rcases h with rfl | h
  · exact h'
  · rcases h' with rfl | h'
    · exact Or.inr h
    · exact Or.inr (Nat.lt_trans h h')

/-- Nothing but a custom type itself is as wide as it. -/
theorem WidensTo.eq_of_isCustom {custom wide : StorageType} (hcustom : custom.isCustom = true)
    (h : custom.WidensTo wide) : wide = custom := by
  rcases h with h | h
  · exact h
  · cases custom with
    | scalar => contradiction
    | custom => exact absurd (Nat.lt_of_lt_of_le h wide.grade_le) (Nat.lt_irrefl 8)

/-- With a custom operand a join is that operand, if all custom operands are the same. -/
theorem joinAll_eq_ok_iff_of_isCustom {types : List StorageType} {custom joined : StorageType}
    (hmem : custom ∈ types) (hcustom : custom.isCustom = true) :
    joinAll types = .ok joined ↔
      joined = custom ∧ ∀ other ∈ types, other.isCustom = true → other = custom := by
  have hfilter : custom ∈ types.filter (·.isCustom) := List.mem_filter.mpr ⟨hmem, hcustom⟩
  have hmem_iff : ∀ other, other ∈ types.filter (·.isCustom) ↔ other ∈ types ∧ other.isCustom = true :=
    fun other => List.mem_filter
  unfold joinAll
  split
  · rename_i first others hsplit
    rw [hsplit] at hfilter hmem_iff
    split
    · rename_i other hother
      have hne : other ≠ first := by simpa using List.find?_some hother
      have hotherMem := (hmem_iff other).mp (List.mem_cons_of_mem _ (List.mem_of_find?_eq_some hother))
      have hfirstMem := (hmem_iff first).mp List.mem_cons_self
      constructor
      · intro h
        cases h
      · intro hcustoms
        obtain ⟨-, hall⟩ := hcustoms
        have hfirst := hall first hfirstMem.1 hfirstMem.2
        exact absurd ((hall other hotherMem.1 hotherMem.2).trans hfirst.symm) hne
    · rename_i hnone
      have hsame : ∀ other ∈ first :: others, other = first := by
        intro other hother
        rcases List.mem_cons.mp hother with rfl | hother
        · rfl
        · simpa using List.find?_eq_none.mp hnone other hother
      obtain rfl := hsame custom hfilter
      simp only [Except.ok.injEq]
      constructor
      · intro heq
        subst heq
        exact ⟨rfl, fun other hother hothercustom =>
          hsame other ((hmem_iff other).mpr ⟨hother, hothercustom⟩)⟩
      · intro hcustoms
        obtain ⟨rfl, -⟩ := hcustoms
        rfl
  · rename_i hempty
    rw [hempty] at hfilter
    contradiction

/-- Scalars are joined as scalars. -/
theorem joinAll_eq_ok_iff_of_scalars {types : List StorageType} {joined : StorageType}
    (h : ∀ type ∈ types, type.isCustom = false) :
    joinAll types = .ok joined ↔
      ∃ scalar, joined = .scalar scalar ∧
        ScalarType.joinAll (types.filterMap (·.scalar?)) = some scalar := by
  have hempty : types.filter (·.isCustom) = [] := List.filter_eq_nil_iff.mpr fun type htype => by
    simp [h type htype]
  unfold joinAll
  rw [hempty]
  cases ScalarType.joinAll (types.filterMap (·.scalar?)) with
  | none => simp
  | some scalar => simp [eq_comm]

/-- Either all of some types are scalars or one of them is custom. -/
theorem scalars_or_exists_custom (types : List StorageType) :
    (∀ type ∈ types, type.isCustom = false) ∨ ∃ custom ∈ types, custom.isCustom = true := by
  by_cases h : ∃ custom ∈ types, custom.isCustom = true
  · exact Or.inr h
  · exact Or.inl fun type htype => by simpa using fun hcustom => h ⟨type, htype, hcustom⟩

/-- A join of scalars is a scalar. -/
theorem isCustom_of_joinAll {types : List StorageType} {joined : StorageType}
    (hscalars : ∀ type ∈ types, type.isCustom = false) (h : joinAll types = .ok joined) :
    joined.isCustom = false := by
  obtain ⟨scalar, rfl, -⟩ := (joinAll_eq_ok_iff_of_scalars hscalars).mp h
  rfl

/-- Scalars have a join unless there are none. -/
theorem exists_joinAll_of_scalars {types : List StorageType} (hne : types ≠ [])
    (hscalars : ∀ type ∈ types, type.isCustom = false) :
    ∃ scalar, joinAll types = .ok (.scalar scalar) ∧
      ScalarType.joinAll (types.filterMap (·.scalar?)) = some scalar := by
  obtain ⟨type, hmem⟩ := List.exists_mem_of_ne_nil types hne
  have hne' : types.filterMap (·.scalar?) ≠ [] := by
    cases type with
    | custom => cases hscalars _ hmem
    | scalar type => exact List.ne_nil_of_mem (List.mem_filterMap.mpr ⟨_, hmem, rfl⟩)
  obtain ⟨scalar, hscalar⟩ := ScalarType.exists_joinAll_of_ne_nil hne'
  exact ⟨scalar, (joinAll_eq_ok_iff_of_scalars hscalars).mpr ⟨scalar, rfl, hscalar⟩, hscalar⟩

/-- Whether types have a join, and which, depends only on which types there are. -/
theorem joinAll_eq_ok_of_mem_iff {left right : List StorageType} {joined : StorageType}
    (h : ∀ type, type ∈ left ↔ type ∈ right) (hleft : joinAll left = .ok joined) :
    joinAll right = .ok joined := by
  rcases scalars_or_exists_custom left with hscalars | ⟨custom, hmem, hcustom⟩
  · obtain ⟨scalar, rfl, hscalar⟩ := (joinAll_eq_ok_iff_of_scalars hscalars).mp hleft
    refine (joinAll_eq_ok_iff_of_scalars fun type htype => hscalars type ((h type).mpr htype)).mpr
      ⟨scalar, rfl, ?_⟩
    rw [← hscalar]
    exact (ScalarType.joinAll_eq_of_mem_iff fun type => by simp [h]).symm
  · obtain ⟨rfl, hall⟩ := (joinAll_eq_ok_iff_of_isCustom hmem hcustom).mp hleft
    exact (joinAll_eq_ok_iff_of_isCustom ((h _).mp hmem) hcustom).mpr
      ⟨rfl, fun other hother => hall other ((h other).mpr hother)⟩

/-- A join is the operand or of a higher grade. -/
theorem widensTo_of_joinAll {types : List StorageType} {type joined : StorageType}
    (hmem : type ∈ types) (h : joinAll types = .ok joined) : type.WidensTo joined := by
  rcases scalars_or_exists_custom types with hscalars | ⟨custom, hcustomMem, hcustom⟩
  · obtain ⟨scalar, rfl, hscalar⟩ := (joinAll_eq_ok_iff_of_scalars hscalars).mp h
    cases type with
    | custom => exact absurd (hscalars _ hmem) (by simp [isCustom])
    | scalar type =>
      have hscalarMem : type ∈ types.filterMap (·.scalar?) := List.mem_filterMap.mpr ⟨_, hmem, rfl⟩
      rcases ScalarType.eq_or_grade_lt_of_joinAll hscalarMem hscalar with rfl | hlt
      · exact Or.inl rfl
      · exact Or.inr hlt
  · obtain ⟨rfl, hall⟩ := (joinAll_eq_ok_iff_of_isCustom hcustomMem hcustom).mp h
    cases type with
    | custom => exact Or.inl (hall _ hmem rfl).symm
    | scalar type =>
      refine Or.inr (Nat.lt_of_le_of_lt type.grade_le ?_)
      cases joined with
      | scalar => contradiction
      | custom => exact Nat.lt_succ_self 7

end StorageType

end StorageTyping
