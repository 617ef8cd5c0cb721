import Mathlib.Data.Fintype.Card
import Mathlib.Data.Set.Finite.List
import Mathlib.Logic.Relation
import StorageTyping.Proofs.Resolution.Answers

/-!
# Completeness of the resolution

A resolution fails for unresolved temporaries only if these wait for each other or for names that
never get a type. `Scope.Seeded` excludes this: everything that is read has a type or is written,
each temporary has a writer that does not read it, and no temporary depends on itself by way of
others. Then a resolution finds all types, or there is a proper failure; the operations of reductions must
not wait or fail for unresolved temporaries on their own account, and the built-in ones do not.

A temporary that has to wait reads another one that has to wait, at whatever table a run is stuck
(`Scope.Seeded.exists_dependsOn_of_waits`). Among finitely many temporaries this leads back to where
it started.
-/

namespace StorageTyping

/-- Whether a name stands for something with a type. -/
def Standing.isKnown : Standing → Bool
  | .known _ => true
  | _ => false

theorem Standing.isKnown_iff {standing : Standing} :
    standing.isKnown = true ↔ ∃ type, standing = .known type := by
  cases standing <;> simp [isKnown]

namespace Scope

/-- Whether a temporary to be resolved is written in terms of another one. -/
def DependsOn (scope : Scope) (writes : List (String × Expr)) (name other : String) : Prop :=
  scope.Resolves writes name ∧ scope.Resolves writes other ∧ name ≠ other ∧
    ∃ writer, (name, writer) ∈ writes ∧ other ∈ writer.reads

/-- Writes from which the temporaries can be resolved one after the other. -/
structure Seeded (scope : Scope) (writes : List (String × Expr)) : Prop where
  closed : ∀ name writer, scope.Resolves writes name → (name, writer) ∈ writes →
    ∀ other ∈ writer.reads,
      (∃ type, scope.standing .empty other = .known type) ∨ scope.Resolves writes other
  seed : ∀ name, scope.Resolves writes name → ∃ writer, (name, writer) ∈ writes ∧ name ∉ writer.reads
  acyclic : ∀ name, ¬ Relation.TransGen (scope.DependsOn writes) name name

variable {scope : Scope} {writes : List (String × Expr)} {types : Table StorageType} {name : String}

/-- Writes are seeded if each temporary has a rank above those of the others that it is written in
terms of. -/
theorem seeded_of_rank (rank : String → Nat)
    (hclosed : ∀ write ∈ writes, ∀ read ∈ write.2.reads,
      (scope.standing .empty read).isKnown = true ∨
        scope.isUntypedTemporary read = true ∧ read ∈ writes.map (·.1))
    (hseed : ∀ write ∈ writes, ∃ seed ∈ writes, seed.1 = write.1 ∧ write.1 ∉ seed.2.reads)
    (hrank : ∀ write ∈ writes, ∀ read ∈ write.2.reads, scope.isUntypedTemporary read = true →
      write.1 ≠ read → rank read < rank write.1) : scope.Seeded writes where
  closed name writer _ hwriter other hother := by
    rcases hclosed _ hwriter other hother with hknown | ⟨huntyped, hwritten⟩
    · exact Or.inl (Standing.isKnown_iff.mp hknown)
    · obtain ⟨⟨_, expr⟩, hwrite, rfl⟩ := List.mem_map.mp hwritten
      exact Or.inr ⟨huntyped, expr, hwrite⟩
  seed name hname := by
    obtain ⟨-, writer, hwriter⟩ := hname
    obtain ⟨⟨_, expr⟩, hseed, rfl, hreads⟩ := hseed _ hwriter
    exact ⟨expr, hseed, hreads⟩
  acyclic name hcycle := by
    have hfalls {first last : String} (h : Relation.TransGen (scope.DependsOn writes) first last) :
        rank last < rank first := by
      have hstep {first second : String} (h : scope.DependsOn writes first second) :
          rank second < rank first := by
        obtain ⟨-, ⟨huntyped, -⟩, hne, writer, hwriter, hreads⟩ := h
        exact hrank _ hwriter second hreads huntyped hne
      induction h with
      | single h => exact hstep h
      | tail _ h ih => exact Nat.lt_trans (hstep h) ih
    exact Nat.lt_irrefl _ (hfalls hcycle)

/-- What a writer reads and is not determined is a temporary that has no type yet. -/
theorem Seeded.resolves_of_isMissing (h : scope.Seeded writes) (hname : scope.Resolves writes name)
    {writer : Expr} (hwriter : writer ∈ writersOf writes name) {other : String}
    (hmissing : (scope.contextWith types).IsMissing writer.reads other) :
    scope.Resolves writes other ∧ types.find? other = none := by
  obtain ⟨hreads, role, hstanding⟩ := hmissing
  have hnone : types.find? other = none := by
    refine Option.eq_none_iff_forall_ne_some.mpr fun type hsome => ?_
    obtain ⟨known, hknown⟩ := scope.known_of_find?_eq_some hsome
    cases hknown.symm.trans hstanding
  have hknown := h.closed name writer hname (mem_writersOf_iff.mp hwriter) other hreads
  refine ⟨hknown.resolve_left ?_, hnone⟩
  intro hresolves
  obtain ⟨type, hknown⟩ := hresolves
  rw [standing_contextWith_of_none hnone] at hstanding
  cases hknown.symm.trans hstanding

/-- What a writer of a temporary reads and is not determined is another temporary that it depends on, unless
it is the temporary itself. -/
theorem Seeded.dependsOn_of_isMissing (h : scope.Seeded writes) (hname : scope.Resolves writes name)
    {writer : Expr} (hwriter : writer ∈ writersOf writes name) {other : String} (hne : name ≠ other)
    (hmissing : (scope.contextWith types).IsMissing writer.reads other) :
    scope.DependsOn writes name other ∧ types.find? other = none := by
  obtain ⟨hother, hnone⟩ := h.resolves_of_isMissing hname hwriter hmissing
  exact ⟨⟨hname, hother, hne, writer, mem_writersOf_iff.mp hwriter, hmissing.1⟩, hnone⟩

/-- The same with a type assumed for the temporary, which is then determined. -/
theorem Seeded.dependsOn_of_isMissing_insert (h : scope.Seeded writes) (hname : scope.Resolves writes name)
    {writer : Expr} (hwriter : writer ∈ writersOf writes name) {other : String} {assumed : StorageType}
    (hmissing : (scope.contextWith (types.insert name assumed)).IsMissing writer.reads other) :
    scope.DependsOn writes name other ∧ types.find? other = none := by
  obtain ⟨hother, hnone⟩ := h.resolves_of_isMissing hname hwriter hmissing
  rw [Table.find?_insert] at hnone
  split at hnone
  · cases hnone
  · rename_i hne
    exact ⟨⟨hname, hother, hne, writer, mem_writersOf_iff.mp hwriter, hmissing.1⟩, hnone⟩

/-- If no operation waits, a temporary that has to wait depends on another one without a type. -/
theorem Seeded.exists_dependsOn_of_waits (h : scope.Seeded writes)
    (hops : scope.ReducesBy writes (·.NeverWaits)) (hname : scope.Resolves writes name)
    (hwaits : (resolveOne scope types (name, writersOf writes name)).result = .ok none) :
    ∃ other, scope.DependsOn writes name other ∧ types.find? other = none := by
  have hwriterOps := hops.of_mem_entries hname.mem_entries
  cases (resolveOne_eq_none_iff hwriterOps).mp hwaits with
  | @byOther before after writer other role hsplit hbefore hne hwaiting =>
    have hwriter : writer ∈ writersOf writes name := by simp [hsplit]
    exact ⟨other, h.dependsOn_of_isMissing hname hwriter hne.symm
      (isMissing_of_waiting (hwriterOps writer hwriter) hwaiting)⟩
  | byItself hall =>
    obtain ⟨writer, hwriter, hreads⟩ := h.seed name hname
    obtain ⟨role, hwaiting⟩ := Context.defersOn_iff.mp (hall writer (mem_writersOf_iff.mpr hwriter))
    have hwriterOps := hwriterOps writer (mem_writersOf_iff.mpr hwriter)
    exact absurd (mem_reads_of_waiting hwriterOps hwaiting) hreads
  | @underAssumption first before after reader other role hwriters hjoin hsplit hbefore hwaiting =>
    have hreader : reader ∈ (writersOf writes name).filter ((scope.contextWith types).defersOn name) := by
      simp [hsplit]
    have hwriter := (List.mem_filter.mp hreader).1
    exact ⟨other, h.dependsOn_of_isMissing_insert hname hwriter
      (isMissing_of_waiting (hwriterOps reader hwriter) hwaiting)⟩

end Scope

/-- Among finitely many elements, one is not related to any other if the relation has no cycle. -/
theorem exists_terminal_of_acyclic {α : Type} {r : α → α → Prop}
    (hacyclic : ∀ a, ¬ Relation.TransGen r a a) {elements : List α} (hne : elements ≠ []) :
    ∃ a ∈ elements, ∀ b ∈ elements, ¬ r a b := by
  let later (b a : {a // a ∈ elements}) : Prop := Relation.TransGen r a b
  have hfinite : Finite {a // a ∈ elements} := List.finite_toSet elements
  have htrans : IsTrans _ later := ⟨fun _ _ _ hfirst hsecond => hsecond.trans hfirst⟩
  have hirrefl : Std.Irrefl later := ⟨fun a => hacyclic a⟩
  obtain ⟨start, hstart⟩ := List.exists_mem_of_ne_nil elements hne
  obtain ⟨a, -, hlast⟩ := (Finite.wellFounded_of_trans_of_irrefl later).has_min Set.univ
    ⟨⟨start, hstart⟩, trivial⟩
  exact ⟨a, a.2, fun b hb hab => hlast ⟨b, hb⟩ trivial (.single hab)⟩

namespace Scope

variable {scope : Scope} {writes : List (String × Expr)}

/-- A resolution is not stuck at a table where each temporary that has to wait depends on another one. -/
theorem Seeded.not_stuck (h : scope.Seeded writes) {types : Table StorageType} {waiting : List Written}
    (hdepends : ∀ name, scope.Resolves writes name →
      (resolveOne scope types (name, writersOf writes name)).result = .ok none →
        ∃ other, scope.DependsOn writes name other ∧ types.find? other = none)
    (hleft : ∀ written, written ∈ waiting ↔
      written ∈ (scope.writers writes).entries ∧ types.find? written.1 = none)
    (hne : waiting ≠ [])
    (hwaits : ∀ written ∈ waiting, (resolveOne scope types written).result = .ok none) : False := by
  have hnames : waiting.map (·.1) ≠ [] := by simpa using hne
  obtain ⟨name, hname, hlast⟩ := exists_terminal_of_acyclic h.acyclic hnames
  obtain ⟨written, hwritten, rfl⟩ := List.mem_map.mp hname
  obtain ⟨hresolves, hwriters⟩ := resolves_of_mem_entries ((hleft written).mp hwritten).1
  obtain ⟨other, hother, hnone⟩ := hdepends _ hresolves (by
    rw [← hwriters]
    exact hwaits written hwritten)
  have hmem : (other, writersOf writes other) ∈ waiting :=
    (hleft _).mpr ⟨hother.2.1.mem_entries, hnone⟩
  exact hlast other (List.mem_map.mpr ⟨_, hmem, rfl⟩) hother

/-- From seeded writes all types are found, unless there is a failure of another kind than that
temporaries are unresolved. No operation may wait or fail for unresolved temporaries. -/
theorem resolve_complete (h : scope.Seeded writes)
    (hops : scope.ReducesBy writes fun op => op.NeverWaits ∧ op.NeverUnresolved) :
    (∃ types, (scope.resolve writes).result = .ok types ∧
      ∀ name, scope.Resolves writes name → (types.find? name).isSome) ∨
    ∃ failure, (scope.resolve writes).result = .error failure ∧ failure.IsHard := by
  have hends := scope.resolve_ends writes
  generalize (scope.resolve writes).result = outcome at hends ⊢
  cases hends with
  | resolved hreached hall => exact Or.inl ⟨_, rfl, fun name hname => hall _ hname.mem_entries⟩
  | stuck hreached hleft hdistinct hne hwaits =>
    have hwaitsOps := hops.imp fun _ => And.left
    exact (h.not_stuck (fun _ => h.exists_dependsOn_of_waits hwaitsOps) hleft hne hwaits).elim
  | failed hreached hmem hnew hfailure =>
    have hwriterOps := (hops.imp fun _ => And.right).of_mem_entries hmem
    exact Or.inr ⟨_, rfl, isHard_of_resolveOne_eq_error hwriterOps hfailure⟩

end Scope

/-- The dot product reads its arrays and the two temporaries, and only the sum depends on another
temporary. -/
theorem seeded_dotProduct : dotProductScope.Seeded dotProductWrites :=
  Scope.seeded_of_rank (fun name => if name = "sum" then 1 else 0) (by decide +kernel) (by decide +kernel)
    (by decide +kernel)

/-- The dot product is resolved: of the two outcomes it has the first. -/
theorem resolve_complete_dotProduct :
    dotProductScope.Seeded dotProductWrites ∧
      dotProductScope.ReducesBy dotProductWrites (fun op => op.NeverWaits ∧ op.NeverUnresolved) ∧
        ∃ types, (dotProductScope.resolve dotProductWrites).result = .ok types ∧
          ∀ name, dotProductScope.Resolves dotProductWrites name → (types.find? name).isSome := by
  have hops : dotProductScope.ReducesBy dotProductWrites fun op => op.NeverWaits ∧ op.NeverUnresolved :=
    reducesBy_dotProduct fun reduction => ⟨reduction.neverWaits, reduction.neverUnresolved⟩
  refine ⟨seeded_dotProduct, hops, (Scope.resolve_complete seeded_dotProduct hops).resolve_right ?_⟩
  intro hfails
  obtain ⟨failure, hfailure, -⟩ := hfails
  cases resolve_dotProduct.symm.trans hfailure

end StorageTyping
