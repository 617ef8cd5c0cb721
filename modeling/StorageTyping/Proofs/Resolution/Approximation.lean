import StorageTyping.Proofs.Provisional
import StorageTyping.Proofs.Resolution.Completeness
import StorageTyping.Proofs.Resolution.Consistency

/-!
# Approximation of a solution

If there are types for the temporaries with which all writers agree, a resolution should not fail.
But it goes through types that are not final: a temporary that is written in terms of itself is first
given the type of its other writers, and a call or a field need not exist for that type, nor need a
reduction have a result on it. And it finds types of its own, where others may solve the writes as well.

A solution excludes such failures if nothing but steady temporaries is read where exact types matter
(`Scope.SelectsSteadily`). A temporary is steady if its writers that do not read it already give its
type, and so it is with everything that it depends on. Then each table on the way approximates the
solution: its types anticipate those of the solution, and those of steady temporaries are the same
(`Scope.SteadilySolves.approximates_of_reached`). At such a table no temporary fails, and one that waits
does so for another one that it depends on; the operations of reductions may do on other types what they
like, since they are not asked about them.
-/

namespace StorageTyping

/-- The expressions written to a name that do not read it, in order. -/
def seedsOf (writes : List (String × Expr)) (name : String) : List Expr :=
  (writersOf writes name).filter fun writer => name ∉ writer.reads

namespace Scope

/-- Whether the writers of a temporary that do not read it already combine to its type. -/
def GivenBySeeds (scope : Scope) (writes : List (String × Expr)) (final : Table StorageType)
    (name : String) : Prop :=
  ∃ inferred type, (inferAll (scope.contextWith final) (seedsOf writes name)).result = .ok inferred ∧
    StorageType.joinAll inferred = .ok type ∧ final.find? name = some type

/-- Whether the type of a temporary, and of each one that it depends on, is given by such writers. -/
def IsSteady (scope : Scope) (writes : List (String × Expr)) (final : Table StorageType)
    (name : String) : Prop :=
  ∀ other, Relation.ReflTransGen (scope.DependsOn writes) name other →
    scope.GivenBySeeds writes final other

/-- Whether inference at a node may fail, or give another result, for types that only anticipate the
final ones. -/
def IsSelective (scope : Scope) : Expr → Prop
  | .field .. => True
  | .call callee _ => (scope.functions.find? callee.calleeName).getD [] ≠ []
  | .reduction op .. => ¬ op.KeepsType
  | _ => False

/-- Whether only steady temporaries are read below such nodes. -/
def SelectsSteadily (scope : Scope) (writes : List (String × Expr)) (final : Table StorageType) : Prop :=
  ∀ name writer, scope.Resolves writes name → (name, writer) ∈ writes →
    ∀ node ∈ writer.inspected, scope.IsSelective node → ∀ operand ∈ node.evaluated,
      ∀ other ∈ operand.reads, scope.Resolves writes other → scope.IsSteady writes final other

/-- Whether a type of a temporary anticipates the final one, and is final if the temporary is steady. -/
def Approaches (scope : Scope) (writes : List (String × Expr)) (final : Table StorageType) (name : String)
    (type : StorageType) : Prop :=
  ∃ wide, final.find? name = some wide ∧ type.Anticipates wide ∧
    (scope.IsSteady writes final name → type = wide)

/-- Whether each of some types approaches the final one. -/
def Approximates (scope : Scope) (writes : List (String × Expr)) (final types : Table StorageType) : Prop :=
  ∀ name type, types.find? name = some type → scope.Approaches writes final name type

/-- Whether a writer has a type at some approximation. -/
def Yields (scope : Scope) (writes : List (String × Expr)) (final : Table StorageType) (writer : Expr)
    (type : StorageType) : Prop :=
  ∃ types, scope.Approximates writes final types ∧ (scope.contextWith types).type? writer = some type

variable {scope : Scope} {writes : List (String × Expr)} {final types : Table StorageType} {name : String}

/-- What a steady temporary depends on is steady. -/
theorem IsSteady.of_dependsOn (h : scope.IsSteady writes final name) {other : String}
    (hdepends : scope.DependsOn writes name other) : scope.IsSteady writes final other :=
  fun last hlast => h last (.head hdepends hlast)

/-- Without declared functions, a call is one of the library, which carries over to types that
anticipate others. -/
theorem isGradual_of_not_isSelective {node : Expr} (h : ¬ scope.IsSelective node) :
    (scope.contextWith final).IsGradual node := by
  cases node with
  | call callee arguments =>
    intro narrows wides result htypes hresult
    have hnone : (scope.functions.find? callee.calleeName).getD [] = [] := by
      simpa [IsSelective] using h
    obtain ⟨signature, hsignature, rfl⟩ := Option.map_eq_some_iff.mp hresult
    rw [function?_of_declared_eq_nil hnone] at hsignature
    split at hsignature
    · rename_i hlibrary
      obtain ⟨found, hfound, hanticipates⟩ := MathLibrary.exists_function?_of_anticipates htypes hsignature
      refine ⟨found.result, Option.map_eq_some_iff.mpr ⟨found, ?_, rfl⟩, hanticipates⟩
      rw [function?_of_declared_eq_nil hnone, if_pos hlibrary, hfound]
    · cases hsignature
  | field => exact h trivial
  | reduction => exact not_not.mp h
  | _ => trivial

theorem Approximates.insert (h : scope.Approximates writes final types) {type : StorageType}
    (htype : scope.Approaches writes final name type) :
    scope.Approximates writes final (types.insert name type) := by
  intro other found hfound
  rw [Table.find?_insert] at hfound
  split at hfound
  · rename_i hname
    subst hname
    cases hfound
    exact htype
  · exact h other found hfound

/-- A solution that a resolution approximates on its way. -/
structure SteadilySolves (scope : Scope) (writes : List (String × Expr)) (final : Table StorageType) :
    Prop where
  seeded : scope.Seeded writes
  solution : scope.Solution writes final
  preserves : scope.Preserves writes final
  selects : scope.SelectsSteadily writes final

namespace SteadilySolves

/-- What a name stands for anticipates what it stands for in the end, if it is determined at all, and
is final unless the name is that of a temporary that is not steady. -/
theorem standing (hsolves : scope.SteadilySolves writes final) (h : scope.Approximates writes final types)
    {other : String} (hread : scope.Reads writes other)
    (hother : (∃ type, scope.standing .empty other = .known type) ∨ scope.Resolves writes other) :
    (∃ role, (scope.contextWith types).standing other = .undetermined role) ∨
      ∃ narrow wide, (scope.contextWith types).standing other = .known narrow ∧
        (scope.contextWith final).standing other = .known wide ∧ narrow.Anticipates wide ∧
          ((scope.Resolves writes other → scope.IsSteady writes final other) → narrow = wide) := by
  cases htype : types.find? other with
  | none =>
    rw [standing_contextWith_of_none htype]
    cases hstanding : (scope.contextWith .empty).standing other with
    | known known =>
      have hfinal := hsolves.preserves other hread known hstanding
      exact Or.inr ⟨known, known, rfl, hfinal, .refl known, fun _ => rfl⟩
    | undetermined role => exact Or.inl ⟨role, rfl⟩
    | unknown =>
      rcases hother with ⟨type, hknown⟩ | hresolves
      · cases hknown.symm.trans hstanding
      · exact absurd hstanding (standing_ne_unknown_of_isUntypedTemporary hresolves.1)
  | some type =>
    obtain ⟨wide, hwide, hanticipates, hsteady⟩ := h other type htype
    rcases scope.standing_contextWith_cases other with ⟨fixed, hfixed⟩ | hpending
    · exact Or.inr ⟨fixed, fixed, hfixed types, hfixed final, .refl fixed, fun _ => rfl⟩
    · have hresolves := (hsolves.solution.assigned other).mp (by simp [hwide])
      exact Or.inr ⟨type, wide, hpending types type htype, hpending final wide hwide, hanticipates,
        fun h => hsteady (h hresolves)⟩

/-- A writer has a type that anticipates the final one, and is final if its temporary is steady, or it
waits for a name that it reads and that has no type yet. -/
theorem infer_foreshadows (hsolves : scope.SteadilySolves writes final)
    (h : scope.Approximates writes final types) (hname : scope.Resolves writes name) {writer : Expr}
    (hwriter : writer ∈ writersOf writes name) :
    Foreshadows ((scope.contextWith types).IsMissing writer.reads)
      (fun narrow wide => narrow.Anticipates wide ∧ (scope.IsSteady writes final name → narrow = wide))
      (StorageTyping.infer (scope.contextWith types) writer).result
      (StorageTyping.infer (scope.contextWith final) writer).result := by
  have hcalls : (scope.contextWith types).callType? = (scope.contextWith final).callType? := rfl
  have htarget : (scope.contextWith types).target = (scope.contextWith final).target := rfl
  have hwrite := mem_writersOf_iff.mp hwriter
  have hstanding {other : String} (hother : other ∈ writer.reads) :=
    hsolves.standing h ⟨writer, ⟨name, hname.1, hwrite⟩, hother⟩
      (hsolves.seeded.closed name writer hname hwrite other hother)
  by_cases hsteady : scope.IsSteady writes final name
  · -- Everything that the writer reads is steady as well, so what is known of it is final.
    have hagrees : (scope.contextWith types).AgreesOn (scope.contextWith final) writer.reads := by
      intro other hother
      refine (hstanding hother).imp_right fun hknown => ?_
      obtain ⟨narrow, wide, hnarrow, hwide, -, hsame⟩ := hknown
      rw [hnarrow, hwide, hsame fun hresolves => ?_]
      by_cases hown : name = other
      · exact hown ▸ hsteady
      · exact hsteady.of_dependsOn ⟨hname, hresolves, hown, writer, hwrite, hother⟩
    refine (infer_foreshadows_of_agreesOn hcalls htarget writer hagrees).imp (fun _ => id)
      fun narrow wide hsame => ?_
    rw [hsame]
    exact ⟨.refl wide, fun _ => rfl⟩
  · have hanticipates : (scope.contextWith types).AnticipatesOn (scope.contextWith final) writer.reads := by
      intro other hother
      refine (hstanding hother).imp_right fun hknown => ?_
      obtain ⟨narrow, wide, hnarrow, hwide, hanticipates, -⟩ := hknown
      exact ⟨narrow, wide, hnarrow, hwide, hanticipates⟩
    refine (StorageTyping.infer_foreshadows hcalls htarget writer hanticipates fun node hnode => ?_).imp
      (fun _ => id) fun narrow wide hanticipates => ⟨hanticipates, fun h => absurd h hsteady⟩
    by_cases hselective : scope.IsSelective node
    · -- What is read below a selective node is steady.
      refine Or.inr fun operand hoperand other hother => ?_
      have hbelow := Expr.reads_subset_of_mem_evaluated hoperand hother
      refine (hstanding (Expr.mem_reads_of_mem_inspected hnode hbelow)).imp_right fun hknown => ?_
      obtain ⟨narrow, wide, hnarrow, hwide, -, hsame⟩ := hknown
      rw [hnarrow, hwide, hsame fun hresolves => hsolves.selects name writer hname hwrite node hnode
        hselective operand hoperand other hother hresolves]
    · exact Or.inl (isGradual_of_not_isSelective hselective)

/-- In the end the writers of a temporary have types that combine to its own. -/
theorem exists_inferAll (hsolves : scope.SteadilySolves writes final) (hname : scope.Resolves writes name) :
    ∃ wide, final.find? name = some wide ∧
      (∀ writer ∈ writersOf writes name, ((scope.contextWith final).type? writer).isSome) ∧
      StorageType.joinAll ((writersOf writes name).filterMap (scope.contextWith final).type?) = .ok wide := by
  obtain ⟨wide, hwide⟩ := Option.isSome_iff_exists.mp ((hsolves.solution.assigned name).mpr hname)
  obtain ⟨inferred, hinferred, hjoin⟩ := hsolves.solution.consistent name wide hwide
  obtain ⟨htyped, rfl⟩ := inferAll_eq_ok_iff.mp hinferred
  exact ⟨wide, hwide, htyped, hjoin⟩

/-- A writer does not fail for good. -/
theorem ne_rejected (hsolves : scope.SteadilySolves writes final) (h : scope.Approximates writes final types)
    (hname : scope.Resolves writes name) {writer : Expr} (hwriter : writer ∈ writersOf writes name)
    (cause : Cause) (location : Option String) :
    (StorageTyping.infer (scope.contextWith types) writer).result ≠ .error (.rejected cause location) := by
  intro hrejected
  obtain ⟨-, -, htyped, -⟩ := hsolves.exists_inferAll hname
  obtain ⟨type, htype⟩ := Option.isSome_iff_exists.mp (htyped writer hwriter)
  rcases hsolves.infer_foreshadows h hname hwriter type (Context.type?_eq_some_iff.mp htype) with
    ⟨_, _, -, hwaiting⟩ | ⟨_, hfound, -⟩
  · cases hrejected.symm.trans hwaiting
  · cases hrejected.symm.trans hfound

/-- A writer that waits does so for a name that it reads and that has no type yet. -/
theorem isMissing_of_waiting (hsolves : scope.SteadilySolves writes final)
    (h : scope.Approximates writes final types) (hname : scope.Resolves writes name) {writer : Expr}
    (hwriter : writer ∈ writersOf writes name) {other : String} {role : Role}
    (hwaiting : (StorageTyping.infer (scope.contextWith types) writer).result =
      .error (.waiting other role)) : (scope.contextWith types).IsMissing writer.reads other := by
  obtain ⟨-, -, htyped, -⟩ := hsolves.exists_inferAll hname
  obtain ⟨type, htype⟩ := Option.isSome_iff_exists.mp (htyped writer hwriter)
  rcases hsolves.infer_foreshadows h hname hwriter type (Context.type?_eq_some_iff.mp htype) with
    ⟨_, _, hmissing, hfound⟩ | ⟨_, hfound, -⟩
  · cases hwaiting.symm.trans hfound
    exact hmissing
  · cases hwaiting.symm.trans hfound

/-- A type that a writer yields anticipates its type in the end, and is final if its temporary is
steady. -/
theorem related_of_yields (hsolves : scope.SteadilySolves writes final) (hname : scope.Resolves writes name)
    {writer : Expr} (hwriter : writer ∈ writersOf writes name) {type : StorageType}
    (htype : scope.Yields writes final writer type) :
    ∃ wide, (scope.contextWith final).type? writer = some wide ∧ type.Anticipates wide ∧
      (scope.IsSteady writes final name → type = wide) := by
  obtain ⟨types, happroximates, htype⟩ := htype
  obtain ⟨-, -, htyped, -⟩ := hsolves.exists_inferAll hname
  obtain ⟨wide, hwide⟩ := Option.isSome_iff_exists.mp (htyped writer hwriter)
  exact ⟨wide, hwide, (hsolves.infer_foreshadows happroximates hname hwriter).related_of_eq_ok
    (Context.type?_eq_some_iff.mp htype) (Context.type?_eq_some_iff.mp hwide)⟩

/-- Types that some writers yield have a join that approaches the final type, if for a steady temporary
it is the final type. -/
theorem exists_joinAll (hsolves : scope.SteadilySolves writes final) (hname : scope.Resolves writes name)
    {found : List StorageType} (hne : found ≠ [])
    (hfound : ∀ type ∈ found, ∃ writer ∈ writersOf writes name, scope.Yields writes final writer type)
    (hsteady : scope.IsSteady writes final name → ∀ wide, final.find? name = some wide →
      StorageType.joinAll found = .ok wide) :
    ∃ joined, StorageType.joinAll found = .ok joined ∧ scope.Approaches writes final name joined := by
  obtain ⟨wide, hwide, -, hjoin⟩ := hsolves.exists_inferAll hname
  obtain ⟨joined, hjoined, hanticipates⟩ :=
    StorageType.exists_joinAll_of_anticipates hne (fun type htype => by
      obtain ⟨writer, hwriter, hyields⟩ := hfound type htype
      obtain ⟨other, hother, hanticipates, -⟩ := hsolves.related_of_yields hname hwriter hyields
      exact ⟨other, List.mem_filterMap.mpr ⟨writer, hwriter, hother⟩, hanticipates⟩) hjoin
  refine ⟨joined, hjoined, wide, hwide, hanticipates, fun h => ?_⟩
  exact Except.ok.inj (hjoined.symm.trans (hsteady h wide hwide))

/-- Types that all the writers yield, and they alone, have a join that approaches the final type. -/
theorem exists_joinAll_of_forall (hsolves : scope.SteadilySolves writes final)
    (hname : scope.Resolves writes name) {found : List StorageType}
    (hfound : ∀ type ∈ found, ∃ writer ∈ writersOf writes name, scope.Yields writes final writer type)
    (hall : ∀ writer ∈ writersOf writes name, ∃ type ∈ found, scope.Yields writes final writer type) :
    ∃ joined, StorageType.joinAll found = .ok joined ∧ scope.Approaches writes final name joined := by
  refine hsolves.exists_joinAll hname ?_ hfound fun hsteady wide hwide => ?_
  · obtain ⟨-, writer, hwriter⟩ := hname
    obtain ⟨type, htype, -⟩ := hall writer (mem_writersOf_iff.mpr hwriter)
    exact List.ne_nil_of_mem htype
  · obtain ⟨other, hother, -, hjoin⟩ := hsolves.exists_inferAll hname
    cases hwide.symm.trans hother
    refine StorageType.joinAll_eq_ok_of_mem_iff (fun type => ⟨fun htype => ?_, fun htype => ?_⟩) hjoin
    · obtain ⟨writer, hwriter, hfinal⟩ := List.mem_filterMap.mp htype
      obtain ⟨found, hmem, hyields⟩ := hall writer hwriter
      obtain ⟨other, hother, -, hsame⟩ := hsolves.related_of_yields hname hwriter hyields
      cases hfinal.symm.trans hother
      exact hsame hsteady ▸ hmem
    · obtain ⟨writer, hwriter, hyields⟩ := hfound type htype
      obtain ⟨other, hother, -, hsame⟩ := hsolves.related_of_yields hname hwriter hyields
      exact List.mem_filterMap.mpr ⟨writer, hwriter, hsame hsteady ▸ hother⟩

/-- The writers of a steady temporary that do not wait for it already combine to its type. -/
theorem joinAll_of_isSteady (hsolves : scope.SteadilySolves writes final)
    (h : scope.Approximates writes final types) (hname : scope.Resolves writes name)
    (hsteady : scope.IsSteady writes final name)
    (hsplit : ∀ writer ∈ writersOf writes name, ((scope.contextWith types).type? writer).isSome ∨
      (scope.contextWith types).defersOn name writer = true)
    {wide : StorageType} (hwide : final.find? name = some wide) :
    StorageType.joinAll ((writersOf writes name).filterMap (scope.contextWith types).type?) = .ok wide := by
  have hsame {writer : Expr} (hwriter : writer ∈ writersOf writes name)
      (htyped : ((scope.contextWith types).type? writer).isSome) :
      (scope.contextWith types).type? writer = (scope.contextWith final).type? writer := by
    obtain ⟨type, htype⟩ := Option.isSome_iff_exists.mp htyped
    obtain ⟨other, hother, -, heq⟩ := hsolves.related_of_yields hname hwriter ⟨types, h, htype⟩
    rw [htype, hother, heq hsteady]
  by_cases hknown : ∃ known, (scope.contextWith types).standing name = .known known
  · -- The name has a type already, as an argument or a constant may; so no writer waits for it.
    obtain ⟨known, hknown⟩ := hknown
    obtain ⟨found, hfound, -, hjoin⟩ := hsolves.exists_inferAll hname
    cases hwide.symm.trans hfound
    rw [← hjoin]
    refine congrArg _ (List.filterMap_congr fun writer hwriter => hsame hwriter ?_)
    refine (hsplit writer hwriter).resolve_right fun hdefers => ?_
    obtain ⟨role, hwaiting⟩ := Context.defersOn_iff.mp hdefers
    obtain ⟨-, _, hstanding⟩ := hsolves.isMissing_of_waiting h hname hwriter hwaiting
    cases hknown.symm.trans hstanding
  · -- The writers that wait for the name are those that read it.
    obtain ⟨inferred, type, hseeds, hjoin, htype⟩ := hsteady name .refl
    obtain ⟨-, rfl⟩ := inferAll_eq_ok_iff.mp hseeds
    cases hwide.symm.trans htype
    rw [← hjoin, seedsOf, List.filterMap_filter]
    refine congrArg _ (List.filterMap_congr fun writer hwriter => ?_)
    by_cases hread : name ∈ writer.reads
    · rw [if_neg (by simpa using hread)]
      refine Option.eq_none_iff_forall_ne_some.mpr fun found hfound => ?_
      exact hknown (known_of_mem_reads (Context.type?_eq_some_iff.mp hfound) hread)
    · rw [if_pos (by simpa using hread)]
      refine hsame hwriter ((hsplit writer hwriter).resolve_right fun hdefers => ?_)
      obtain ⟨role, hwaiting⟩ := Context.defersOn_iff.mp hdefers
      exact hread (hsolves.isMissing_of_waiting h hname hwriter hwaiting).1

/-- A round of widening from a type that approaches the final one gives another such type. -/
theorem exists_round (hsolves : scope.SteadilySolves writes final)
    (h : scope.Approximates writes final types) (hname : scope.Resolves writes name)
    (hsplit : ∀ writer ∈ writersOf writes name, ((scope.contextWith types).type? writer).isSome ∨
      (scope.contextWith types).defersOn name writer = true)
    {assumed : StorageType} (hassumed : scope.Approaches writes final name assumed)
    {ownTypes : List StorageType}
    (hown : (inferAll (scope.contextWith (types.insert name assumed))
      ((writersOf writes name).filter ((scope.contextWith types).defersOn name))).result = .ok ownTypes) :
    ∃ widened, StorageType.joinAll
        ((writersOf writes name).filterMap (scope.contextWith types).type? ++ ownTypes) = .ok widened ∧
      scope.Approaches writes final name widened := by
  obtain ⟨hownTyped, rfl⟩ := inferAll_eq_ok_iff.mp hown
  have hinsert := h.insert hassumed
  refine hsolves.exists_joinAll_of_forall hname (fun type htype => ?_) fun writer hwriter => ?_
  · rcases List.mem_append.mp htype with hmem | hmem
    · obtain ⟨writer, hwriter, hfound⟩ := List.mem_filterMap.mp hmem
      exact ⟨writer, hwriter, types, h, hfound⟩
    · obtain ⟨writer, hwriter, hfound⟩ := List.mem_filterMap.mp hmem
      exact ⟨writer, (List.mem_filter.mp hwriter).1, _, hinsert, hfound⟩
  · rcases hsplit writer hwriter with htyped | hdefers
    · obtain ⟨type, htype⟩ := Option.isSome_iff_exists.mp htyped
      exact ⟨type, List.mem_append_left _ (List.mem_filterMap.mpr ⟨writer, hwriter, htype⟩), types, h, htype⟩
    · have hreader := List.mem_filter.mpr ⟨hwriter, hdefers⟩
      obtain ⟨type, htype⟩ := Option.isSome_iff_exists.mp (hownTyped writer hreader)
      exact ⟨type, List.mem_append_right _ (List.mem_filterMap.mpr ⟨writer, hreader, htype⟩), _, hinsert,
        htype⟩

/-- Widening from a type that approaches the final one leads to another such type, or the temporary has
to wait, and then it depends on another one that has no type yet. -/
theorem widen_eq (hsolves : scope.SteadilySolves writes final)
    (h : scope.Approximates writes final types) (hname : scope.Resolves writes name)
    (hsplit : ∀ writer ∈ writersOf writes name, ((scope.contextWith types).type? writer).isSome ∨
      (scope.contextWith types).defersOn name writer = true)
    (rounds : Nat) {assumed : StorageType} (hassumed : scope.Approaches writes final name assumed) :
    (widen scope types name ((writersOf writes name).filterMap (scope.contextWith types).type?)
        ((writersOf writes name).filter ((scope.contextWith types).defersOn name)) rounds assumed).result =
          .ok none ∧ (∃ other, scope.DependsOn writes name other ∧ types.find? other = none) ∨
      ∃ type, (widen scope types name ((writersOf writes name).filterMap (scope.contextWith types).type?)
          ((writersOf writes name).filter ((scope.contextWith types).defersOn name)) rounds assumed).result =
            .ok (some type) ∧ scope.Approaches writes final name type := by
  induction rounds generalizing assumed with
  | zero => exact Or.inr ⟨assumed, rfl, hassumed⟩
  | succ rounds ih =>
    rw [result_widen_succ]
    split
    · rename_i other role hwaits
      obtain ⟨reader, hreader, hwaiting⟩ := exists_mem_of_inferAll_eq_error hwaits
      have hwriter := (List.mem_filter.mp hreader).1
      have hmissing := hsolves.isMissing_of_waiting (h.insert hassumed) hname hwriter hwaiting
      exact Or.inl ⟨rfl, other, hsolves.seeded.dependsOn_of_isMissing_insert hname hwriter hmissing⟩
    · rename_i cause location hrejected
      obtain ⟨writer, hwriter, hfailure⟩ := exists_mem_of_inferAll_eq_error hrejected
      exact absurd hfailure
        (hsolves.ne_rejected (h.insert hassumed) hname (List.mem_filter.mp hwriter).1 cause location)
    · rename_i ownTypes hown
      obtain ⟨widened, hwidened, happroaches⟩ := hsolves.exists_round h hname hsplit hassumed hown
      simp only [hwidened]
      split
      · exact Or.inr ⟨assumed, rfl, hassumed⟩
      · exact ih happroaches

/-- At an approximation of the solution a temporary gets a type that approaches its own, or has to wait, and
then it depends on another one that has no type yet. -/
theorem resolveOne_eq (hsolves : scope.SteadilySolves writes final)
    (h : scope.Approximates writes final types) (hname : scope.Resolves writes name) :
    (resolveOne scope types (name, writersOf writes name)).result = .ok none ∧
        (∃ other, scope.DependsOn writes name other ∧ types.find? other = none) ∨
      ∃ type, (resolveOne scope types (name, writersOf writes name)).result = .ok (some type) ∧
        scope.Approaches writes final name type := by
  rw [result_resolveOne]
  split
  · rename_i failure hfailure
    obtain ⟨before, writer, after, hwriters, -, cause, location, rfl, hrejected⟩ :=
      tryWriters_eq_error_iff.mp hfailure
    exact absurd hrejected (hsolves.ne_rejected h hname (by simp [hwriters]) cause location)
  · rename_i hnone
    obtain ⟨before, writer, after, hwriters, -, other, role, hne, hwaiting⟩ := tryWriters_eq_none_iff.mp hnone
    have hwriter : writer ∈ writersOf writes name := by simp [hwriters]
    have hmissing := hsolves.isMissing_of_waiting h hname hwriter hwaiting
    exact Or.inl ⟨rfl, other, hsolves.seeded.dependsOn_of_isMissing hname hwriter hne.symm hmissing⟩
  · -- All writers would wait for the temporary itself, but one of them does not read it.
    rename_i ownReaders htry
    obtain ⟨hsplit, htypes, -⟩ := tryWriters_eq_some_iff.mp htry
    obtain ⟨seed, hseed, hreads⟩ := hsolves.seeded.seed name hname
    have hwriter := mem_writersOf_iff.mpr hseed
    rcases hsplit seed hwriter with htyped | hdefers
    · obtain ⟨type, htype⟩ := Option.isSome_iff_exists.mp htyped
      exact absurd (List.mem_filterMap.mpr ⟨seed, hwriter, htype⟩) (htypes ▸ List.not_mem_nil)
    · obtain ⟨role, hwaiting⟩ := Context.defersOn_iff.mp hdefers
      exact absurd (hsolves.isMissing_of_waiting h hname hwriter hwaiting).1 hreads
  · rename_i found ownReaders hne htry
    obtain ⟨hsplit, rfl, rfl⟩ := tryWriters_eq_some_iff.mp htry
    have hfound : ∀ type ∈ (writersOf writes name).filterMap (scope.contextWith types).type?,
        ∃ writer ∈ writersOf writes name, scope.Yields writes final writer type := by
      intro type htype
      obtain ⟨writer, hwriter, hfound⟩ := List.mem_filterMap.mp htype
      exact ⟨writer, hwriter, types, h, hfound⟩
    obtain ⟨first, hfirst, happroaches⟩ := hsolves.exists_joinAll hname hne
      hfound fun hsteady wide hwide => hsolves.joinAll_of_isSteady h hname hsteady hsplit hwide
    simp only [hfirst]
    split
    · exact Or.inr ⟨first, rfl, happroaches⟩
    · exact hsolves.widen_eq h hname hsplit wideningRounds happroaches

/-- Each table on the way of a resolution approximates the solution. -/
theorem approximates_of_reached (hsolves : scope.SteadilySolves writes final)
    (h : scope.Reached (scope.writers writes).entries types) : scope.Approximates writes final types := by
  induction h with
  | start =>
    intro name type hsome
    cases hsome
  | insert hreached hmem hnew hresolve ih =>
    obtain ⟨hname, hwriters⟩ := resolves_of_mem_entries hmem
    dsimp only at hname hwriters
    subst hwriters
    rcases hsolves.resolveOne_eq ih hname with ⟨hnone, -⟩ | ⟨found, hfound, happroaches⟩
    · cases hnone.symm.trans hresolve
    · cases hfound.symm.trans hresolve
      exact ih.insert happroaches

end SteadilySolves

end Scope

end StorageTyping
