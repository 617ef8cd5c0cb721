import StorageTyping.Proofs.Resolution.Grouping
import StorageTyping.Proofs.Resolution.Runs

/-!
# Answers along a run

A temporary gets its type at some table on the way, from less than is known in the end. The type is
the same in the end (`Scope.Reached.resolveOne_erase`): the temporary alone, tried once more with
the types of all others, gets the type that it has.

This needs that no type found on the way replaces one that its name had before, if a writer reads
the name (`Scope.Preserves`). A pending type takes precedence over an argument, so it is enough that no
temporary to be resolved is an argument as well (`Scope.Unshadowed`).
-/

namespace StorageTyping

namespace Scope

variable {scope : Scope} {writes : List (String × Expr)} {name : String}

/-- No name that a writer reads and that has a type stands for another type once these types are
pending. -/
def Preserves (scope : Scope) (writes : List (String × Expr)) (types : Table StorageType) : Prop :=
  ∀ name, scope.Reads writes name → ∀ known, (scope.contextWith .empty).standing name = .known known →
    (scope.contextWith types).standing name = .known known

/-- No written temporary without a type is an argument as well. -/
def Unshadowed (scope : Scope) (writes : List (String × Expr)) : Prop :=
  ∀ write ∈ writes, scope.isUntypedTemporary write.1 = true → scope.arguments.find? write.1 = none

/-- A temporary without a type is declared. -/
theorem standing_ne_unknown_of_isUntypedTemporary (h : scope.isUntypedTemporary name = true) :
    (scope.contextWith .empty).standing name ≠ .unknown := by
  have htemporary : scope.temporaries.find? name = some none := by
    simpa [isUntypedTemporary] using h
  by_cases hindex : scope.isIndex name = true
  · simp [contextWith, context, standing, hindex]
  · cases hsymbol : scope.symbol? name with
    | some symbol => simp [contextWith, context, standing, hindex, hsymbol]
    | none =>
      cases hargument : scope.arguments.find? name with
      | none =>
        simp [contextWith, context, standing, hindex, hsymbol, declaration?, htemporary, hargument,
          Standing.ofDeclaration?]
      | some type? =>
        cases type? <;>
          simp [contextWith, context, standing, hindex, hsymbol, declaration?, hargument,
            Standing.ofDeclaration?]

/-- A temporary without a type that is no argument has a type only as a loop index or a constant. -/
theorem preserves_of_forall {types : Table StorageType}
    (h : ∀ name, (types.find? name).isSome → scope.isUntypedTemporary name = true ∧
      scope.arguments.find? name = none) : scope.Preserves writes types := by
  intro name _ known hknown
  cases htype : types.find? name with
  | none => rw [standing_contextWith_of_none htype, hknown]
  | some type =>
    obtain ⟨huntyped, hargument⟩ := h name (by simp [htype])
    have htemporary : scope.temporaries.find? name = some none := by
      simpa [isUntypedTemporary] using huntyped
    rcases scope.standing_contextWith_cases name with ⟨fixed, hfixed⟩ | -
    · rw [hfixed, ← hfixed .empty, hknown]
    · simp only [contextWith, context, standing] at hknown ⊢
      split at hknown
      · rename_i hindex
        rw [if_pos hindex, hknown]
      · rename_i hindex
        rw [if_neg hindex]
        split at hknown
        · assumption
        · simp [declaration?, hargument, htemporary, Standing.ofDeclaration?] at hknown

namespace Reached

variable {types : Table StorageType} {type : StorageType}

/-- Only temporaries that are tried get a type. -/
theorem exists_mem {temporaries : List Written} (h : scope.Reached temporaries types)
    (hsome : types.find? name = some type) : ∃ writers, (name, writers) ∈ temporaries := by
  induction h with
  | start => cases hsome
  | insert hreached hmem hnew hresolve ih =>
    rw [Table.find?_insert] at hsome
    split at hsome
    · rename_i hname
      subst hname
      exact ⟨_, hmem⟩
    · exact ih hsome

/-- Whatever type a table has was found at a part of it. -/
theorem exists_step {temporaries : List Written} (h : scope.Reached temporaries types)
    (hsome : types.find? name = some type) :
    ∃ earlier writers, earlier.PartOf types ∧ earlier.find? name = none ∧
      (name, writers) ∈ temporaries ∧
        (resolveOne scope earlier (name, writers)).result = .ok (some type) := by
  induction h with
  | start => cases hsome
  | insert hreached hmem hnew hresolve ih =>
    rw [Table.find?_insert] at hsome
    split at hsome
    · rename_i hname
      subst hname
      cases hsome
      exact ⟨_, _, Table.partOf_insert hnew _, hnew, hmem, hresolve⟩
    · obtain ⟨earlier, writers, hpart, hrest⟩ := ih hsome
      exact ⟨earlier, writers, hpart.trans (Table.partOf_insert hnew _), hrest⟩

/-- Only temporaries without a type get one. -/
theorem isUntypedTemporary (h : scope.Reached (scope.writers writes).entries types)
    (hsome : types.find? name = some type) : scope.isUntypedTemporary name = true := by
  obtain ⟨writers, hwriters⟩ := h.exists_mem hsome
  exact (mem_entries_writers_iff.mp hwriters).1

/-- Without shadowed arguments no argument gets a type. -/
theorem find?_arguments (h : scope.Reached (scope.writers writes).entries types)
    (hunshadowed : scope.Unshadowed writes) (hsome : types.find? name = some type) :
    scope.arguments.find? name = none := by
  obtain ⟨writers, hwriters⟩ := h.exists_mem hsome
  obtain ⟨huntyped, rfl, hne⟩ := mem_entries_writers_iff.mp hwriters
  obtain ⟨expr, hexpr⟩ := List.exists_mem_of_ne_nil _ hne
  exact hunshadowed (name, expr) (mem_writersOf_iff.mp hexpr) huntyped

/-- Without shadowed arguments the types found leave all others as they are. -/
theorem preserves (h : scope.Reached (scope.writers writes).entries types)
    (hunshadowed : scope.Unshadowed writes) : scope.Preserves writes types := by
  refine preserves_of_forall fun name hsome => ?_
  obtain ⟨type, htype⟩ := Option.isSome_iff_exists.mp hsome
  exact ⟨h.isUntypedTemporary htype, h.find?_arguments hunshadowed htype⟩

/-- Between parts of a table, the larger grows from the smaller. -/
theorem grows (h : scope.Reached (scope.writers writes).entries types) (hkept : scope.Preserves writes types)
    {small large : Table StorageType} (hpart : small.PartOf large) (hlarge : large.PartOf types) :
    scope.Grows (scope.Reads writes) small large where
  kept := hpart
  fresh other hread _ hsome := by
    obtain ⟨type, htype⟩ := Option.isSome_iff_exists.mp hsome
    have hsame := hlarge other type htype
    rw [standing_contextWith_congr (htype.trans hsame.symm)]
    exact ⟨standing_ne_unknown_of_isUntypedTemporary (h.isUntypedTemporary hsame), hkept other hread⟩

/-- An answer found at a part of a table is the answer at the table without the name in question. -/
theorem resolveOne_erase_of_partOf (h : scope.Reached (scope.writers writes).entries types)
    (hkept : scope.Preserves writes types) {earlier : Table StorageType} (hpart : earlier.PartOf types)
    (hnew : earlier.find? name = none) {writers : List Expr}
    (hwriters : ∀ writer ∈ writers, scope.IsWriter writes writer)
    (hanswer : (resolveOne scope earlier (name, writers)).result ≠ .ok none) :
    (resolveOne scope (types.erase name) (name, writers)).result =
      (resolveOne scope earlier (name, writers)).result := by
  have hgrows := h.grows hkept (hpart.erase hnew) Table.erase_partOf
  have hreads : ∀ writer ∈ writers, ∀ read ∈ writer.reads, scope.Reads writes read :=
    fun writer hwriter read hread => ⟨writer, hwriters writer hwriter, hread⟩
  exact (resolveOne_persists hgrows hreads hnew (by simp)).resolve_left hanswer

/-- A temporary has the type that it gets from its writers and the types of all others. -/
theorem resolveOne_erase (h : scope.Reached (scope.writers writes).entries types)
    (hkept : scope.Preserves writes types) (hsome : types.find? name = some type) :
    (resolveOne scope (types.erase name) (name, writersOf writes name)).result = .ok (some type) := by
  obtain ⟨earlier, writers, hpart, hnew, hmem, hresolve⟩ := h.exists_step hsome
  have hwriters : ∀ writer ∈ writers, scope.IsWriter writes writer := fun _ => isWriter_of_mem_entries hmem
  obtain ⟨-, rfl, -⟩ := mem_entries_writers_iff.mp hmem
  rw [h.resolveOne_erase_of_partOf hkept hpart hnew hwriters (by simp [hresolve]), hresolve]

end Reached

/-- A resolution ends in one of the three ways. -/
theorem resolve_ends (scope : Scope) (writes : List (String × Expr)) :
    scope.Ends (scope.writers writes).entries (scope.resolve writes).result :=
  settle_empty_ends scope (List.Perm.refl _) (scope.writers writes).nodup_entries

/-- The table that a resolution gives is reached, and has all temporaries that are tried. -/
theorem reached_of_resolve_eq_ok {types : Table StorageType}
    (h : (scope.resolve writes).result = .ok types) :
    scope.Reached (scope.writers writes).entries types ∧
      ∀ written ∈ (scope.writers writes).entries, (types.find? written.1).isSome := by
  have hends := scope.resolve_ends writes
  rw [h] at hends
  cases hends with
  | resolved hreached hall => exact ⟨hreached, hall⟩

/-- A resolution finds types for exactly the temporaries that are written and have none. -/
theorem isSome_find?_iff_of_resolve {types : Table StorageType} (h : (scope.resolve writes).result = .ok types)
    (name : String) : (types.find? name).isSome ↔ scope.Resolves writes name := by
  obtain ⟨hreached, hall⟩ := reached_of_resolve_eq_ok h
  constructor
  · intro hsome
    obtain ⟨type, htype⟩ := Option.isSome_iff_exists.mp hsome
    obtain ⟨writers, hmem⟩ := hreached.exists_mem htype
    exact (resolves_of_mem_entries hmem).1
  · exact fun hresolves => hall _ hresolves.mem_entries

end Scope

/-- A kernel that adds up products of two arrays. -/
def dotProductScope : Scope :=
  ((((Scope.ofSettings .default).declareArgument "a" (some (.scalar .float64))).declareArgument "b"
    (some (.scalar .float32))).declareTemporary "sum" none).declareTemporary "term" none

/-- What is added up so far, and the sum of some more terms. -/
def dotProductReader : Expr :=
  .accumulation .sum [.reference "sum" none, .reduction Reduction.sum.operation (.reference "term" none) ["i"]]

/-- The sum starts at zero, and the products of two elements are added to it. -/
def dotProductWrites : List (String × Expr) :=
  [("sum", .literal (.integer 0)), ("sum", dotProductReader),
    ("term", .accumulation .product
      [.element .indexed (.reference "a" none) (.reference "i" none),
        .element .indexed (.reference "b" none) (.reference "i" none)])]

/-- The types of the dot product. -/
def dotProductTypes : Table StorageType :=
  .ofList [("sum", .scalar .float64), ("term", .scalar .float64)]

/-- The sum waits for the product, and is then widened from `int32`. -/
theorem resolve_dotProduct :
    (dotProductScope.resolve dotProductWrites).result = .ok dotProductTypes :=
  result_settle_of_none (by decide +kernel) <|
    result_settle_of_some (.scalar .float64) (by decide +kernel) <|
      result_settle_of_some (.scalar .float64) (by decide +kernel) (result_settle_nil _ _ _)

/-- The dot product reduces by built-in operations only. -/
theorem reducesBy_dotProduct {property : ReductionOperation → Prop}
    (hall : ∀ reduction : Reduction, property reduction.operation) :
    dotProductScope.ReducesBy dotProductWrites property :=
  Scope.reducesBy_of_builtIn [.sum] rfl hall

theorem unshadowed_dotProduct : dotProductScope.Unshadowed dotProductWrites := by
  unfold Scope.Unshadowed
  decide +kernel

end StorageTyping
