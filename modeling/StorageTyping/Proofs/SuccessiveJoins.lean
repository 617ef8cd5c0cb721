import Mathlib.Data.List.Induction
import StorageTyping.Proofs.Joins
import StorageTyping.StorageType.Layout

/-!
# Joins one after the other

Operands can be joined all at once, or from the left, each with the join of those before it. The two
agree if there is a custom operand, if all operands are integers, and if none is
(`StorageType.joinAll_eq_joinInTurn`). They do so step by step: the join of some operands stands for all of
them when one more is added (`ScalarType.joinAll_concat_of_integers`, `ScalarType.joinAll_concat_of_reals`,
`StorageType.joinAll_concat_of_isCustom`).

A custom operand also makes up for scalars before it that are joined differently: it does not matter which
scalar they are joined to. Where there are scalars only, integers and floating-point types among them, the
order in which they are joined shows.
-/

namespace StorageTyping

namespace ScalarType

/-- The greatest width with one more type is the greater of two. -/
theorem greatestWidth_concat (width : ScalarType → Nat) (types : List ScalarType) (type : ScalarType) :
    greatestWidth width (types ++ [type]) = max (greatestWidth width types) (width type) := by
  refine Nat.le_antisymm (greatestWidth_le_iff.mpr fun other hother => ?_) (Nat.max_le.mpr ⟨?_, ?_⟩)
  · rcases List.mem_append.mp hother with hother | hother
    · exact Nat.le_trans (le_greatestWidth hother) (Nat.le_max_left _ _)
    · rw [List.mem_singleton.mp hother]
      exact Nat.le_max_right _ _
  · exact greatestWidth_mono fun _ => List.mem_append_left _
  · exact le_greatestWidth (List.mem_append_right _ List.mem_cons_self)

/-- The greatest width is one of the widths that the types have, or zero. -/
theorem greatestWidth_mem {width : ScalarType → Nat} {types : List ScalarType} {widths : List Nat}
    (hzero : 0 ∈ widths) (h : ∀ type ∈ types, width type ∈ widths) : greatestWidth width types ∈ widths := by
  rcases Nat.eq_zero_or_pos (greatestWidth width types) with hnone | hpos
  · rwa [hnone]
  · obtain ⟨type, htype, hwidth⟩ := exists_mem_of_greatestWidth_pos hpos
    rw [← hwidth]
    exact h type htype

/-- The join of integer types whose widest signed and unsigned ones are of some widths. -/
def joinOfWidths (signed unsigned : Nat) : Option ScalarType :=
  match signedOfWidth? signed, unsignedOfWidth? unsigned with
  | some signed, some unsigned => some (joinMixedSign signed unsigned)
  | some signed, none => some signed
  | none, unsigned => unsigned

theorem joinIntegers_eq (types : List ScalarType) :
    joinIntegers types =
      joinOfWidths (greatestWidth (bitsIn .signed) types) (greatestWidth (bitsIn .unsigned) types) :=
  rfl

/-- Widths stand for the integers that they are taken from when one more integer is added. -/
theorem joinOfWidths_max {signed unsigned : Nat} {type : ScalarType} (hsigned : signed ∈ [0, 8, 16, 32, 64])
    (hunsigned : unsigned ∈ [0, 8, 16, 32, 64]) (hpos : 0 < signed ∨ 0 < unsigned)
    (htype : type.isInteger = true) :
    joinOfWidths (max signed (bitsIn .signed type)) (max unsigned (bitsIn .unsigned type)) =
      (joinOfWidths signed unsigned).bind fun joined => joinAll [joined, type] := by
  revert hpos htype
  simp only [List.mem_cons, List.not_mem_nil, or_false] at hsigned hunsigned
  rcases hsigned with rfl | rfl | rfl | rfl | rfl <;> rcases hunsigned with rfl | rfl | rfl | rfl | rfl <;>
    cases type <;> decide

/-- A real or complex type is of the width of its parts, whatever stands beside it. -/
theorem floatBits_of_real {single : Bool} {type : ScalarType} (htype : type.isInteger = false) :
    floatBits single type = type.part.bits := by
  simp [floatBits, htype]

/-- The width of parts stands for the types that it is taken from when one more real or complex type is
added. -/
theorem ofPart_max {width : Nat} {complex : Bool} {type : ScalarType} (hwidth : width ∈ [0, 16, 32, 64])
    (htype : type.isInteger = false) :
    some (ofPart (complex || type.isComplex) (floatOfWidth (max width type.part.bits))) =
      joinAll [ofPart complex (floatOfWidth width), type] := by
  revert htype
  simp only [List.mem_cons, List.not_mem_nil, or_false] at hwidth
  rcases hwidth with rfl | rfl | rfl | rfl <;> cases complex <;> cases type <;> decide

variable {types : List ScalarType} {type : ScalarType}

/-- The join of integers stands for all of them when one more integer is added. -/
theorem joinAll_concat_of_integers (hne : types ≠ []) (hall : ∀ other ∈ types, other.isInteger = true)
    (htype : type.isInteger = true) :
    joinAll (types ++ [type]) = (joinAll types).bind fun joined => joinAll [joined, type] := by
  have hpos : 0 < greatestWidth (bitsIn .signed) types ∨ 0 < greatestWidth (bitsIn .unsigned) types := by
    obtain ⟨other, hother⟩ := List.exists_mem_of_ne_nil types hne
    have hwide : 0 < bitsIn .signed other ∨ 0 < bitsIn .unsigned other := by
      have hinteger := hall other hother
      revert hinteger
      cases other <;> decide
    exact hwide.imp (fun h => Nat.lt_of_lt_of_le h (le_greatestWidth hother))
      fun h => Nat.lt_of_lt_of_le h (le_greatestWidth hother)
  have hbefore : types.all isInteger = true := List.all_eq_true.mpr hall
  have hafter : (types ++ [type]).all isInteger = true := by simp [hbefore, htype]
  have hsigned : greatestWidth (bitsIn .signed) types ∈ [0, 8, 16, 32, 64] :=
    greatestWidth_mem (by decide) fun other _ => by cases other <;> decide
  have hunsigned : greatestWidth (bitsIn .unsigned) types ∈ [0, 8, 16, 32, 64] :=
    greatestWidth_mem (by decide) fun other _ => by cases other <;> decide
  rw [joinAll, if_pos hafter, joinAll, if_pos hbefore, joinIntegers_eq, joinIntegers_eq,
    greatestWidth_concat, greatestWidth_concat]
  exact joinOfWidths_max hsigned hunsigned hpos htype

/-- The join of real and complex types is of the greatest width of their parts. -/
theorem joinAll_of_reals (hne : types ≠ []) (hall : ∀ other ∈ types, other.isInteger = false) :
    joinAll types = some (ofPart (types.any isComplex)
      (floatOfWidth (greatestWidth (fun other => other.part.bits) types))) := by
  have hwidth : greatestWidth (floatBits (types.contains float32)) types =
      greatestWidth (fun other => other.part.bits) types := by
    rw [greatestWidth, greatestWidth, List.map_congr_left fun other hother => floatBits_of_real (hall other hother)]
  obtain ⟨other, hother⟩ := List.exists_mem_of_ne_nil types hne
  rw [joinAll, if_neg, ← hwidth]
  · rfl
  · intro hintegers
    cases (hall other hother).symm.trans (List.all_eq_true.mp hintegers other hother)

/-- The join of real and complex types stands for all of them when one more is added. -/
theorem joinAll_concat_of_reals (hne : types ≠ []) (hall : ∀ other ∈ types, other.isInteger = false)
    (htype : type.isInteger = false) :
    joinAll (types ++ [type]) = (joinAll types).bind fun joined => joinAll [joined, type] := by
  have hmore : ∀ other ∈ types ++ [type], other.isInteger = false := by
    simpa [or_imp, forall_and] using ⟨hall, htype⟩
  have hwidth : greatestWidth (fun other => other.part.bits) types ∈ [0, 16, 32, 64] := by
    refine greatestWidth_mem (by decide) fun other hother => ?_
    have hreal := hall other hother
    revert hreal
    cases other <;> decide
  rw [joinAll_of_reals hne hall, joinAll_of_reals (by simp) hmore, greatestWidth_concat, List.any_append]
  simpa using ofPart_max hwidth htype

end ScalarType

namespace StorageType

/-- Types joined from the left, each with the join of those before it. -/
def joinInTurn (first : StorageType) (rest : List StorageType) : Except Cause StorageType :=
  rest.foldlM join first

variable {types rest : List StorageType} {first next custom : StorageType}

/-- The last type is joined with the join of those before it. -/
theorem joinInTurn_concat (first : StorageType) (rest : List StorageType) (next : StorageType) :
    joinInTurn first (rest ++ [next]) = joinInTurn first rest >>= fun joined => joined.join next := by
  simp only [joinInTurn, List.foldlM_append, List.foldlM_cons, List.foldlM_nil, bind_pure]

/-- The first of some custom types decides, unless another one differs from it. -/
theorem joinAll_of_customs {others : List StorageType} (h : types.filter (·.isCustom) = first :: others) :
    joinAll types =
      (others.find? (· ≠ first)).elim (.ok first) fun other => .error (.mismatch first other) := by
  simp only [joinAll, h]
  cases others.find? (· ≠ first) <;> rfl

/-- A scalar gives way to a custom type. -/
theorem join_of_scalar {scalar : StorageType} (hscalar : scalar.isCustom = false)
    (hcustom : custom.isCustom = true) : scalar.join custom = .ok custom := by
  cases scalar with
  | custom => contradiction
  | scalar =>
    cases custom with
    | scalar => contradiction
    | custom => rfl

/-- The join of types with a custom one among them stands for all of them when one more is added. -/
theorem joinAll_concat_of_isCustom (hmem : custom ∈ types) (hcustom : custom.isCustom = true)
    (next : StorageType) :
    joinAll (types ++ [next]) = joinAll types >>= fun joined => joined.join next := by
  obtain ⟨first, others, hfilter⟩ : ∃ first others, types.filter (·.isCustom) = first :: others :=
    List.exists_cons_of_ne_nil (List.ne_nil_of_mem (List.mem_filter.mpr ⟨hmem, hcustom⟩))
  have hfirst : first.isCustom = true := (List.mem_filter.mp (hfilter ▸ List.mem_cons_self)).2
  have hmore : (types ++ [next]).filter (·.isCustom) = first :: (others ++ [next].filter (·.isCustom)) := by
    rw [List.filter_append, hfilter, List.cons_append]
  rw [joinAll_of_customs hfilter, joinAll_of_customs hmore, List.find?_append]
  cases others.find? (· ≠ first) with
  | some other => rfl
  | none =>
    change _ = first.join next
    rw [join_of_isCustom hfirst]
    by_cases hnext : next.isCustom = true <;> by_cases hsame : next = first <;> simp [hnext, hsame]

/-- A single type is its own join. -/
theorem joinAll_singleton (type : StorageType) : joinAll [type] = .ok type := by
  cases type with
  | scalar scalar => cases scalar <;> rfl
  | custom => rfl

/-- Scalars can be joined in turn, whichever scalar they give. -/
theorem exists_joinInTurn_of_scalars (hscalars : ∀ type ∈ first :: rest, type.isCustom = false) :
    ∃ joined, joinInTurn first rest = .ok joined ∧ joined.isCustom = false := by
  induction rest using List.reverseRecOn with
  | nil => exact ⟨first, rfl, hscalars first List.mem_cons_self⟩
  | append_singleton rest next ih =>
    rw [← List.cons_append] at hscalars
    obtain ⟨before, hbefore, hscalar⟩ := ih fun type htype => hscalars type (List.mem_append_left _ htype)
    have hnext : next.isCustom = false := hscalars next (by simp)
    obtain ⟨joined, hjoined, -⟩ := exists_joinAll_of_scalars (List.cons_ne_nil before [next])
      (by simp [hscalar, hnext])
    rw [joinAll_pair] at hjoined
    exact ⟨.scalar joined, by rw [joinInTurn_concat, hbefore]; exact hjoined, rfl⟩

/-- With a custom type among them, types are joined in turn as they are all at once. -/
theorem joinInTurn_of_isCustom (h : ∃ custom ∈ first :: rest, custom.isCustom = true) :
    joinInTurn first rest = joinAll (first :: rest) := by
  induction rest using List.reverseRecOn with
  | nil => exact (joinAll_singleton first).symm
  | append_singleton rest next ih =>
    rw [← List.cons_append] at h ⊢
    rw [joinInTurn_concat]
    rcases scalars_or_exists_custom (first :: rest) with hscalars | ⟨custom, hmem, hcustom⟩
    · -- the scalars before the first custom type may be joined to another scalar than all at once
      have hnext : next.isCustom = true := by
        obtain ⟨custom, hmem, hcustom⟩ := h
        rcases List.mem_append.mp hmem with hmem | hmem
        · cases (hscalars custom hmem).symm.trans hcustom
        · rwa [← List.mem_singleton.mp hmem]
      obtain ⟨before, hbefore, hscalar⟩ := exists_joinInTurn_of_scalars hscalars
      have hall : joinAll ((first :: rest) ++ [next]) = .ok next := by
        refine (joinAll_eq_ok_iff_of_isCustom (by simp) hnext).mpr ⟨rfl, fun other hother hcustom => ?_⟩
        rcases List.mem_append.mp hother with hother | hother
        · cases (hscalars other hother).symm.trans hcustom
        · exact List.mem_singleton.mp hother
      rw [hbefore, hall]
      exact join_of_scalar hscalar hnext
    · rw [ih ⟨custom, hmem, hcustom⟩, joinAll_concat_of_isCustom hmem hcustom]

/-- Scalars of a kind are joined in turn as they are all at once, if the join of some of them stands for them
when one more is added. -/
theorem joinInTurn_scalars {kind : ScalarType → Prop}
    (hstands : ∀ {types : List ScalarType} {type : ScalarType}, types ≠ [] → (∀ other ∈ types, kind other) →
      kind type → ScalarType.joinAll (types ++ [type]) =
        (ScalarType.joinAll types).bind fun joined => ScalarType.joinAll [joined, type])
    {scalar : ScalarType} {scalars : List ScalarType} (hkind : ∀ type ∈ scalar :: scalars, kind type) :
    joinInTurn (.scalar scalar) (scalars.map .scalar) = joinAll ((scalar :: scalars).map .scalar) := by
  induction scalars using List.reverseRecOn with
  | nil => exact (joinAll_singleton (.scalar scalar)).symm
  | append_singleton scalars next ih =>
    rw [← List.cons_append] at hkind ⊢
    have hbefore : ∀ type ∈ scalar :: scalars, kind type := fun type htype =>
      hkind type (List.mem_append_left _ htype)
    rw [List.map_append, List.map_singleton, joinInTurn_concat, ih hbefore, joinAll_scalars, joinAll_scalars,
      hstands (List.cons_ne_nil _ _) hbefore (hkind next (by simp))]
    cases ScalarType.joinAll (scalar :: scalars) <;> rfl

theorem eq_map_scalar_of_scalars (hscalars : ∀ type ∈ types, type.isCustom = false) :
    ∃ scalars : List ScalarType, types = scalars.map .scalar := by
  induction types with
  | nil => exact ⟨[], rfl⟩
  | cons type rest ih =>
    obtain ⟨hscalar, hrest⟩ := List.forall_mem_cons.mp hscalars
    obtain ⟨scalars, rfl⟩ := ih hrest
    cases type with
    | scalar scalar => exact ⟨scalar :: scalars, rfl⟩
    | custom => cases hscalar

/-- Operands with a custom one among them, operands that are all integers, and operands of which none is
an integer are joined all at once as they are joined in turn from the left: to the same type, or with
the same failure, which names the same two types. -/
theorem joinAll_eq_joinInTurn
    (h : (∃ type ∈ first :: rest, type.isCustom = true) ∨
      (∀ type ∈ first :: rest, type.isInteger = true) ∨ ∀ type ∈ first :: rest, type.isInteger = false) :
    joinAll (first :: rest) = joinInTurn first rest := by
  rcases scalars_or_exists_custom (first :: rest) with hscalars | hcustom
  · have hkinds := h.resolve_left fun hcustom => by
      obtain ⟨custom, hmem, hcustom⟩ := hcustom
      cases (hscalars custom hmem).symm.trans hcustom
    obtain ⟨scalars, hmap⟩ := eq_map_scalar_of_scalars hscalars
    rw [hmap, List.forall_mem_map, List.forall_mem_map] at hkinds
    cases scalars with
    | nil => cases hmap
    | cons scalar scalars =>
      cases hmap
      rcases hkinds with hintegers | hreals
      · exact (joinInTurn_scalars ScalarType.joinAll_concat_of_integers hintegers).symm
      · exact (joinInTurn_scalars ScalarType.joinAll_concat_of_reals hreals).symm
  · exact (joinInTurn_of_isCustom hcustom).symm

/-- Integers of both signs are joined to `int16` and on to `float64`; floating-point and complex types
through the greatest width of their parts; and of three blobs the first is named with the one unlike it,
also after scalars whose order would show. -/
theorem joinAll_eq_joinInTurn_mixed :
    joinInTurn (.scalar .int8) [.scalar .uint8, .scalar .uint64, .scalar .int32] = .ok (.scalar .float64) ∧
      joinInTurn (.scalar .float16) [.scalar .complex64, .scalar .float64] = .ok (.scalar .complex128) ∧
        joinInTurn (.scalar .int32) [.scalar .complex64, .scalar .float32, blob "left" 1, .scalar .int8,
          blob "left" 1, blob "right" 1] = .error (.mismatch (blob "left" 1) (blob "right" 1)) := by
  refine ⟨(joinAll_eq_joinInTurn ?_).symm, (joinAll_eq_joinInTurn ?_).symm, (joinAll_eq_joinInTurn ?_).symm⟩
  · exact Or.inr (Or.inl (by decide))
  · exact Or.inr (Or.inr (by decide))
  · exact Or.inl ⟨blob "left" 1, by decide, rfl⟩

example : joinAll [.scalar .int32, .scalar .complex64, .scalar .float32] = .ok (.scalar .complex64) ∧
    joinInTurn (.scalar .int32) [.scalar .complex64, .scalar .float32] = .ok (.scalar .complex128) := ⟨rfl, rfl⟩

end StorageType

end StorageTyping
