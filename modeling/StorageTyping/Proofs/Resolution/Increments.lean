import StorageTyping.Proofs.Resolution.Commitment
import StorageTyping.Proofs.Resolution.Confluence

/-!
# Resolution in increments

Writes may be resolved all at once, or in two steps: a first part of them, whose outcome is committed,
and then the rest. If the parts write to different names, and no written temporary is an argument as well,
then both ways have the same outcome (`Scope.resolve_append_iff`).

A run on the rest after the commitment is the end of a run on all writes, in which the temporaries of the
first part come first (`Scope.Increment.ends`). This need not be the order in which the batch tries them,
but the outcome does not depend on the order.
-/

namespace StorageTyping

section SameContexts

variable {scope other : Scope} {base : Table StorageType}
  (hcontext : ∀ more, other.contextWith more = scope.contextWith (base.overlay more))

include hcontext

/-- Widening is the same in a scope with the same surroundings. -/
theorem widen_eq_of_contextWith (more : Table StorageType) (name : String) (types : List StorageType)
    (ownReaders : List Expr) (rounds : Nat) (assumed : StorageType) :
    widen other more name types ownReaders rounds assumed =
      widen scope (base.overlay more) name types ownReaders rounds assumed := by
  induction rounds generalizing assumed with
  | zero => rfl
  | succ rounds ih => simp only [widen, hcontext, Table.overlay_insert, ih]

/-- A temporary is resolved alike in a scope with the same surroundings. -/
theorem resolveOne_eq_of_contextWith (more : Table StorageType) (written : Written) :
    resolveOne other more written = resolveOne scope (base.overlay more) written := by
  simp only [resolveOne, hcontext, widen_eq_of_contextWith hcontext]

end SameContexts

theorem writersOf_append (left right : List (String × Expr)) (name : String) :
    writersOf (left ++ right) name = writersOf left name ++ writersOf right name := by
  simp [writersOf]

namespace Scope

/-- Of two lists of writes, to different names and to no arguments, the first one is resolved. -/
structure Increment (scope : Scope) (left right : List (String × Expr)) (found : Table StorageType) :
    Prop where
  unshadowed : scope.Unshadowed (left ++ right)
  disjoint : ∀ write ∈ left, ∀ other ∈ right, write.1 ≠ other.1
  resolved : (scope.resolve left).result = .ok found

namespace Increment

variable {scope : Scope} {left right : List (String × Expr)} {found more : Table StorageType}

/-- A name is written in one of the lists only. -/
theorem writersOf_eq_nil_or (h : scope.Increment left right found) (name : String) :
    writersOf left name = [] ∨ writersOf right name = [] := by
  by_contra hboth
  rw [not_or] at hboth
  obtain ⟨writer, hwriter⟩ := List.exists_mem_of_ne_nil _ hboth.1
  obtain ⟨other, hother⟩ := List.exists_mem_of_ne_nil _ hboth.2
  exact h.disjoint _ (mem_writersOf_iff.mp hwriter) _ (mem_writersOf_iff.mp hother) rfl

/-- The temporaries of the first list are among those of both. -/
theorem mem_entries_of_left (h : scope.Increment left right found) {written : Written}
    (hwritten : written ∈ (scope.writers left).entries) :
    written ∈ (scope.writers (left ++ right)).entries := by
  obtain ⟨name, writers⟩ := written
  obtain ⟨huntyped, rfl, hne⟩ := mem_entries_writers_iff.mp hwritten
  have hright : writersOf right name = [] := (h.writersOf_eq_nil_or name).resolve_left hne
  apply mem_entries_writers_iff.mpr
  rw [writersOf_append, hright, List.append_nil]
  exact ⟨huntyped, rfl, hne⟩

/-- Once the first list is committed, the temporaries of the second one are those of both that were not
found. -/
theorem mem_entries_right_iff (h : scope.Increment left right found) (written : Written) :
    written ∈ ((scope.commit found).writers right).entries ↔
      written ∈ (scope.writers (left ++ right)).entries ∧ found.find? written.1 = none := by
  obtain ⟨name, writers⟩ := written
  rw [mem_entries_writers_iff, mem_entries_writers_iff, isUntypedTemporary_commit_iff, writersOf_append]
  constructor
  · intro hright
    obtain ⟨⟨huntyped, hnone⟩, rfl, hne⟩ := hright
    rw [(h.writersOf_eq_nil_or name).resolve_right hne, List.nil_append]
    exact ⟨⟨huntyped, rfl, hne⟩, hnone⟩
  · intro hboth
    obtain ⟨⟨huntyped, rfl, hne⟩, hnone⟩ := hboth
    have hleft : writersOf left name = [] := by
      by_contra hleft
      have hsome := (reached_of_resolve_eq_ok h.resolved).2 _
        (mem_entries_writers_iff.mpr ⟨huntyped, rfl, hleft⟩)
      simp [hnone] at hsome
    rw [hleft, List.nil_append] at hne ⊢
    exact ⟨⟨huntyped, hnone⟩, rfl, hne⟩

/-- The surroundings are the same with the first list committed and with its types pending. -/
theorem contextWith_eq (h : scope.Increment left right found) (more : Table StorageType) :
    (scope.commit found).contextWith more = scope.contextWith (found.overlay more) := by
  apply contextWith_commit fun _ => isSome_find?_temporaries_of_resolve h.resolved
  intro name hshadows
  obtain ⟨type, type?, htype, hargument, -⟩ := hshadows.differs
  have hunshadowed : scope.Unshadowed left := fun write hwrite =>
    h.unshadowed write (List.mem_append_left _ hwrite)
  have hnone := (reached_of_resolve_eq_ok h.resolved).1.find?_arguments hunshadowed htype
  cases hnone.symm.trans hargument

/-- A temporary is resolved alike with the first list committed and with its types pending. -/
theorem resolveOne_eq (h : scope.Increment left right found) (more : Table StorageType) (written : Written) :
    resolveOne (scope.commit found) more written = resolveOne scope (found.overlay more) written :=
  resolveOne_eq_of_contextWith h.contextWith_eq more written

/-- What the second list reaches, both reach with the types of the first list. -/
theorem reached (h : scope.Increment left right found)
    (hmore : (scope.commit found).Reached ((scope.commit found).writers right).entries more) :
    scope.Reached (scope.writers (left ++ right)).entries (found.overlay more) := by
  induction hmore with
  | start => exact (reached_of_resolve_eq_ok h.resolved).1.mono fun _ => h.mem_entries_of_left
  | insert _ hmem hnew hresolve ih =>
    obtain ⟨hwritten, hnone⟩ := (h.mem_entries_right_iff _).mp hmem
    rw [h.resolveOne_eq] at hresolve
    rw [Table.overlay_insert]
    exact .insert ih hwritten (by simp [hnew, hnone]) hresolve

/-- However the second list ends, both end with the types of the first list as well. -/
theorem ends (h : scope.Increment left right found) {outcome : Except Failure (Table StorageType)}
    (hends : (scope.commit found).Ends ((scope.commit found).writers right).entries outcome) :
    scope.Ends (scope.writers (left ++ right)).entries (outcome.map found.overlay) := by
  cases hends with
  | @resolved more hmore hall =>
    refine .resolved (h.reached hmore) fun written hwritten => ?_
    rw [Table.find?_overlay]
    cases hfound : found.find? written.1 with
    | some type => simp
    | none => simpa using hall written ((h.mem_entries_right_iff written).mpr ⟨hwritten, hfound⟩)
  | @stuck more waiting hmore hleft hdistinct hne hwaits =>
    refine .stuck (h.reached hmore) (fun written => ?_) hdistinct hne fun written hwritten => ?_
    · rw [hleft, h.mem_entries_right_iff, Table.find?_overlay, Option.or_eq_none_iff]
      tauto
    · rw [← h.resolveOne_eq]
      exact hwaits written hwritten
  | failed hmore hmem hnew hfailure =>
    obtain ⟨hwritten, hnone⟩ := (h.mem_entries_right_iff _).mp hmem
    rw [h.resolveOne_eq] at hfailure
    exact .failed (h.reached hmore) hwritten (by simp [hnew, hnone]) hfailure

end Increment

/-- Writes to other names than those of a list that is resolved can be resolved along with it or after its
types are committed. In both cases the types found are those of the list and those of the rest, which have
no name in common. In both cases the same temporaries are unresolved, if no operation fails for unresolved
temporaries. -/
theorem resolve_append_iff {scope : Scope} {left right : List (String × Expr)} {found : Table StorageType}
    (hunshadowed : scope.Unshadowed (left ++ right))
    (hdisjoint : ∀ write ∈ left, ∀ other ∈ right, write.1 ≠ other.1)
    (hleft : (scope.resolve left).result = .ok found) :
    (∀ types, (scope.resolve (left ++ right)).result = .ok types ↔
      ∃ more, ((scope.commit found).resolve right).result = .ok more ∧
        (∀ name, found.find? name = none ∨ more.find? name = none) ∧ types = found.overlay more) ∧
    (scope.ReducesBy (left ++ right) (·.NeverUnresolved) → ∀ names location,
      (scope.resolve (left ++ right)).result = .error (.rejected (.unresolved names) location) ↔
        ((scope.commit found).resolve right).result = .error (.rejected (.unresolved names) location)) := by
  have hincrement : scope.Increment left right found := ⟨hunshadowed, hdisjoint, hleft⟩
  have hbatch := scope.resolve_ends (left ++ right)
  have hrest := hincrement.ends ((scope.commit found).resolve_ends right)
  refine ⟨fun types => (hbatch.eq_ok_iff hunshadowed hrest types).trans ?_, fun hops names location =>
    ((hbatch.sameOutcome hunshadowed hops hrest).eq_unresolved_iff names location).trans map_eq_error_iff⟩
  cases hright : ((scope.commit found).resolve right).result with
  | error failure => simp [Except.map]
  | ok more =>
    have hapart (name : String) : found.find? name = none ∨ more.find? name = none := by
      cases hname : more.find? name with
      | none => exact Or.inr rfl
      | some type => exact Or.inl (find?_eq_none_of_resolve_commit hright (by simp [hname]))
    constructor
    · intro htypes
      cases htypes
      exact ⟨more, rfl, hapart, rfl⟩
    · intro hparts
      obtain ⟨_, hmore, -, rfl⟩ := hparts
      cases hmore
      rfl

end Scope

/-- The dot product is resolved alike if the type of its product is committed before its sum is resolved. -/
theorem resolve_append_iff_dotProduct :
    dotProductScope.Unshadowed (dotProductWrites.drop 2 ++ dotProductWrites.take 2) ∧
      (∀ write ∈ dotProductWrites.drop 2, ∀ other ∈ dotProductWrites.take 2, write.1 ≠ other.1) ∧
        (dotProductScope.resolve (dotProductWrites.drop 2)).result =
            .ok (.ofList [("term", .scalar .float64)]) ∧
          ((dotProductScope.commit (.ofList [("term", .scalar .float64)])).resolve
              (dotProductWrites.take 2)).result = .ok (.ofList [("sum", .scalar .float64)]) ∧
            (dotProductScope.resolve (dotProductWrites.drop 2 ++ dotProductWrites.take 2)).result =
              .ok dotProductTypes ∧
              ∀ names location,
                (dotProductScope.resolve (dotProductWrites.drop 2 ++ dotProductWrites.take 2)).result =
                    .error (.rejected (.unresolved names) location) ↔
                  ((dotProductScope.commit (.ofList [("term", .scalar .float64)])).resolve
                    (dotProductWrites.take 2)).result = .error (.rejected (.unresolved names) location) := by
  have hunshadowed : dotProductScope.Unshadowed (dotProductWrites.drop 2 ++ dotProductWrites.take 2) := by
    unfold Scope.Unshadowed
    decide +kernel
  have hdisjoint : ∀ write ∈ dotProductWrites.drop 2, ∀ other ∈ dotProductWrites.take 2,
      write.1 ≠ other.1 := by
    decide +kernel
  have hterm : (dotProductScope.resolve (dotProductWrites.drop 2)).result =
      .ok (.ofList [("term", .scalar .float64)]) :=
    result_settle_of_some (.scalar .float64) (by decide +kernel) (result_settle_nil _ _ _)
  have hsum : ((dotProductScope.commit (.ofList [("term", .scalar .float64)])).resolve
      (dotProductWrites.take 2)).result = .ok (.ofList [("sum", .scalar .float64)]) :=
    result_settle_of_some (.scalar .float64) (by decide +kernel) (result_settle_nil _ _ _)
  have hops : dotProductScope.ReducesBy (dotProductWrites.drop 2 ++ dotProductWrites.take 2)
      (·.NeverUnresolved) := Scope.reducesBy_of_builtIn [.sum] rfl Reduction.neverUnresolved
  obtain ⟨htypes, hunresolved⟩ := Scope.resolve_append_iff hunshadowed hdisjoint hterm
  refine ⟨hunshadowed, hdisjoint, hterm, hsum, (htypes _).mpr ⟨_, hsum, fun name => ?_, rfl⟩,
    hunresolved hops⟩
  by_cases hname : "term" = name
  · subst hname
    exact Or.inr (by decide +kernel)
  · exact Or.inl (by simp [Table.ofList, Table.insertAll, hname])

end StorageTyping
