import Mathlib.Data.List.Induction
import StorageTyping.Proofs.Operations
import StorageTyping.Proofs.Tables
import StorageTyping.Resolution

/-!
# Writes by name

A resolution starts from a list of writes, and first collects what is written to each temporary
without a type. `writersOf` reads the same expressions off the list, in their order, and
`find?_writers_eq_some_iff` says that this is what the collected table holds.
-/

namespace StorageTyping

/-- The expressions written to a name, in order. -/
def writersOf (writes : List (String × Expr)) (name : String) : List Expr :=
  (writes.filter fun write => write.1 = name).map (·.2)

theorem mem_writersOf_iff {writes : List (String × Expr)} {name : String} {expr : Expr} :
    expr ∈ writersOf writes name ↔ (name, expr) ∈ writes := by
  simp [writersOf]

theorem writersOf_concat (writes : List (String × Expr)) (write : String × Expr) (name : String) :
    writersOf (writes ++ [write]) name =
      writersOf writes name ++ if write.1 = name then [write.2] else [] := by
  by_cases h : write.1 = name <;> simp [writersOf, h]

/-- Without the writes to some names, what is written to the others is the same. -/
theorem writersOf_filter (keep : String → Bool) (writes : List (String × Expr)) (name : String) :
    writersOf (writes.filter fun write => keep write.1) name =
      if keep name then writersOf writes name else [] := by
  unfold writersOf
  rw [List.filter_filter]
  split
  · rename_i hkeep
    refine congrArg (List.map Prod.snd) (List.filter_congr fun write _ => ?_)
    by_cases hname : write.1 = name <;> simp [hname, hkeep]
  · rename_i hkeep
    rw [List.filter_eq_nil_iff.mpr, List.map_nil]
    intro write _
    by_cases hname : write.1 = name <;> simp [hname, hkeep]

namespace Scope

/-- Whether a name is a temporary without a type that is written. -/
def Resolves (scope : Scope) (writes : List (String × Expr)) (name : String) : Prop :=
  scope.isUntypedTemporary name = true ∧ ∃ writer, (name, writer) ∈ writes

/-- Whether an expression is written to a temporary without a type. -/
def IsWriter (scope : Scope) (writes : List (String × Expr)) (writer : Expr) : Prop :=
  ∃ name, scope.isUntypedTemporary name = true ∧ (name, writer) ∈ writes

/-- Whether a name is read by an expression that is written to a temporary without a type. -/
def Reads (scope : Scope) (writes : List (String × Expr)) (name : String) : Prop :=
  ∃ writer, scope.IsWriter writes writer ∧ name ∈ writer.reads

/-- The operations that inference meets in what is written to temporaries without a type have a property. -/
def ReducesBy (scope : Scope) (writes : List (String × Expr)) (property : ReductionOperation → Prop) : Prop :=
  ∀ writer, scope.IsWriter writes writer → writer.ReducesBy property

variable {scope : Scope} {writes : List (String × Expr)} {name : String}

theorem writers_concat (scope : Scope) (writes : List (String × Expr)) (write : String × Expr) :
    scope.writers (writes ++ [write]) =
      if scope.isUntypedTemporary write.1 then
        (scope.writers writes).insert write.1
          (((scope.writers writes).find? write.1).getD [] ++ [write.2])
      else scope.writers writes := by
  simp only [writers, List.foldl_append, List.foldl_cons, List.foldl_nil]

/-- The collected writers of a name are the expressions written to it, if there are any and it is a
temporary without a type. -/
theorem find?_writers (scope : Scope) (writes : List (String × Expr)) (name : String) :
    (scope.writers writes).find? name =
      if scope.isUntypedTemporary name = true ∧ writersOf writes name ≠ [] then
        some (writersOf writes name)
      else none := by
  induction writes using List.reverseRecOn with
  | nil => simp [writers, writersOf]
  | append_singleton writes write ih =>
    rw [writers_concat, writersOf_concat]
    by_cases hname : write.1 = name
    · subst hname
      by_cases huntyped : scope.isUntypedTemporary write.1 = true
      · by_cases hnone : writersOf writes write.1 = [] <;> simp [ih, huntyped, hnone]
      · simp [ih, huntyped]
    · rw [if_neg hname, List.append_nil, ← ih]
      split
      · rw [Table.find?_insert, if_neg hname]
      · rfl

/-- A name with collected writers is a temporary without a type that is written. -/
theorem find?_writers_eq_some_iff {writers : List Expr} :
    (scope.writers writes).find? name = some writers ↔
      scope.isUntypedTemporary name = true ∧ writers = writersOf writes name ∧ writers ≠ [] := by
  rw [find?_writers]
  by_cases h : scope.isUntypedTemporary name = true ∧ writersOf writes name ≠ []
  · rw [if_pos h, Option.some.injEq]
    constructor
    · intro heq
      subst heq
      exact ⟨h.1, rfl, h.2⟩
    · intro hwritten
      obtain ⟨-, rfl, -⟩ := hwritten
      rfl
  · rw [if_neg h]
    constructor
    · intro hsome
      cases hsome
    · intro hwritten
      obtain ⟨huntyped, rfl, hne⟩ := hwritten
      exact absurd ⟨huntyped, hne⟩ h

/-- The temporaries that a resolution tries are those without a type that are written. -/
theorem mem_entries_writers_iff {writers : List Expr} :
    (name, writers) ∈ (scope.writers writes).entries ↔
      scope.isUntypedTemporary name = true ∧ writers = writersOf writes name ∧ writers ≠ [] := by
  rw [← Table.find?_eq_some_iff, find?_writers_eq_some_iff]

theorem isWriter_of_mem_entries {writers : List Expr} (h : (name, writers) ∈ (scope.writers writes).entries)
    {writer : Expr} (hwriter : writer ∈ writers) : scope.IsWriter writes writer := by
  obtain ⟨huntyped, rfl, -⟩ := mem_entries_writers_iff.mp h
  exact ⟨name, huntyped, mem_writersOf_iff.mp hwriter⟩

theorem ReducesBy.imp {property property' : ReductionOperation → Prop} (h : scope.ReducesBy writes property)
    (himp : ∀ op, property op → property' op) : scope.ReducesBy writes property' :=
  fun writer hwriter op hop => himp op (h writer hwriter op hop)

/-- The operations in what is written to a temporary that is tried have the property of all. -/
theorem ReducesBy.of_mem_entries {property : ReductionOperation → Prop} (h : scope.ReducesBy writes property)
    {writers : List Expr} (hmem : (name, writers) ∈ (scope.writers writes).entries) :
    ∀ writer ∈ writers, writer.ReducesBy property :=
  fun writer hwriter => h writer (isWriter_of_mem_entries hmem hwriter)

/-- Built-in operations have whatever property all of them have. -/
theorem reducesBy_of_builtIn {property : ReductionOperation → Prop} (reductions : List Reduction)
    (h : (writes.flatMap fun write => write.2.operations) = reductions.map (·.operation))
    (hall : ∀ reduction : Reduction, property reduction.operation) : scope.ReducesBy writes property := by
  have hbuiltIn : ∀ op ∈ writes.flatMap (fun write => write.2.operations), property op := by
    rw [h]
    exact List.forall_mem_map.mpr fun reduction _ => hall reduction
  intro writer hwriter op hop
  obtain ⟨written, -, hwrite⟩ := hwriter
  exact hbuiltIn op (List.mem_flatMap.mpr ⟨_, hwrite, hop⟩)

/-- A temporary without a type that is written is among those that a resolution tries. -/
theorem mem_entries_writers_of_write {expr : Expr} (huntyped : scope.isUntypedTemporary name = true)
    (hwrite : (name, expr) ∈ writes) : (name, writersOf writes name) ∈ (scope.writers writes).entries :=
  mem_entries_writers_iff.mpr ⟨huntyped, rfl, List.ne_nil_of_mem (mem_writersOf_iff.mpr hwrite)⟩

theorem Resolves.mem_entries (h : scope.Resolves writes name) :
    (name, writersOf writes name) ∈ (scope.writers writes).entries := by
  obtain ⟨huntyped, writer, hwriter⟩ := h
  exact mem_entries_writers_of_write huntyped hwriter

theorem resolves_of_mem_entries {written : Written} (h : written ∈ (scope.writers writes).entries) :
    scope.Resolves writes written.1 ∧ written.2 = writersOf writes written.1 := by
  obtain ⟨huntyped, hwriters, hne⟩ := mem_entries_writers_iff.mp h
  obtain ⟨writer, hwriter⟩ := List.exists_mem_of_ne_nil _ hne
  rw [hwriters] at hwriter
  exact ⟨⟨huntyped, writer, mem_writersOf_iff.mp hwriter⟩, hwriters⟩

/-- Without the writes to some names, the temporaries of the others are collected as before. -/
theorem writers_filter (scope : Scope) (keep : String → Bool) (writes : List (String × Expr)) :
    scope.writers (writes.filter fun write => keep write.1) = (scope.writers writes).restrict keep := by
  refine Table.ext_find? fun name => ?_
  rw [Table.find?_restrict, find?_writers, find?_writers, writersOf_filter]
  by_cases hkeep : keep name = true <;> simp [hkeep]

end Scope

end StorageTyping
