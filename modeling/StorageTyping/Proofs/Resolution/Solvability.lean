import StorageTyping.Proofs.Resolution.Approximation

/-!
# Writes that have a solution

From seeded writes with a solution that is approximated on the way, a resolution finds types, though
not necessarily those of the solution (`Scope.resolve_of_solution`).

That the writes have a solution is not enough. Six ways in which a resolution is refused all the same
are collected in `refusals`, among them one for each condition that the theorem puts on the solution.
-/

namespace StorageTyping

namespace Scope

variable {scope : Scope} {writes : List (String × Expr)} {final : Table StorageType}

/-- A resolution finds types if the writes have a solution, of which what is read where exact types
matter is steady, and which replaces no other types that are read. To such places belong the operands of
reductions that do not keep their type, and nothing more is asked of the operations. -/
theorem resolve_of_solution (hseeded : scope.Seeded writes) (hsolution : scope.Solution writes final)
    (hkept : scope.Preserves writes final) (hselects : scope.SelectsSteadily writes final) :
    ∃ types, (scope.resolve writes).result = .ok types := by
  have hsolves : scope.SteadilySolves writes final := ⟨hseeded, hsolution, hkept, hselects⟩
  have hends := scope.resolve_ends writes
  generalize (scope.resolve writes).result = outcome at hends ⊢
  cases hends with
  | resolved => exact ⟨_, rfl⟩
  | stuck hreached hleft hdistinct hne hwaits =>
    refine (hseeded.not_stuck (fun name hname hnone => ?_) hleft hne hwaits).elim
    rcases hsolves.resolveOne_eq (hsolves.approximates_of_reached hreached) hname with
      ⟨-, hdepends⟩ | ⟨_, hfound, -⟩
    · exact hdepends
    · cases hnone.symm.trans hfound
  | failed hreached hmem hnew hfailure =>
    obtain ⟨hname, hwriters⟩ := resolves_of_mem_entries hmem
    dsimp only at hname hwriters
    subst hwriters
    rcases hsolves.resolveOne_eq (hsolves.approximates_of_reached hreached) hname with
      ⟨hnone, -⟩ | ⟨_, hfound, -⟩
    · cases hnone.symm.trans hfailure
    · cases hfound.symm.trans hfailure

end Scope

/-- Whether types are consistent for a name can be computed. -/
instance Scope.decidableConsistentAt (scope : Scope) (writes : List (String × Expr))
    (types : Table StorageType) (name : String) (type : StorageType) :
    Decidable (scope.ConsistentAt writes types name type) :=
  decidable_of_iff
    (∃ inferred ∈ (inferAll (scope.contextWith types) (writersOf writes name)).result.toOption,
      StorageType.joinAll inferred = .ok type) (by
    unfold ConsistentAt
    cases (inferAll (scope.contextWith types) (writersOf writes name)).result <;>
      simp [Except.toOption])

/-- A table is a solution if its entries are consistent and it has one for each temporary. -/
theorem Scope.solution_of_forall {scope : Scope} {writes : List (String × Expr)} {final : Table StorageType}
    (hentries : ∀ entry ∈ final.entries, scope.isUntypedTemporary entry.1 = true ∧
      entry.1 ∈ writes.map (·.1) ∧ scope.ConsistentAt writes final entry.1 entry.2)
    (hwrites : ∀ write ∈ writes, scope.isUntypedTemporary write.1 = true →
      (final.find? write.1).isSome = true) : scope.Solution writes final where
  assigned name := by
    constructor
    · intro hsome
      obtain ⟨type, htype⟩ := Option.isSome_iff_exists.mp hsome
      obtain ⟨huntyped, hwritten, -⟩ := hentries _ (Table.find?_eq_some_iff.mp htype)
      obtain ⟨⟨_, writer⟩, hwriter, rfl⟩ := List.mem_map.mp hwritten
      exact ⟨huntyped, writer, hwriter⟩
    · intro hresolves
      obtain ⟨huntyped, writer, hwriter⟩ := hresolves
      exact hwrites _ hwriter huntyped
  consistent name type hsome := (hentries _ (Table.find?_eq_some_iff.mp hsome)).2.2

/-- Whether a node is a field, a call or a reduction. -/
def Expr.isSelector : Expr → Bool
  | .field .. | .call .. | .reduction .. => true
  | _ => false

theorem Scope.IsSelective.isSelector {scope : Scope} {node : Expr} (h : scope.IsSelective node) :
    node.isSelector = true := by
  cases node <;> first | rfl | exact h.elim

/-- A scope with a function for `float64` only, and with an argument that has the name of a temporary. -/
def selectiveScope : Scope :=
  (((((((Scope.ofSettings .default).declareArgument "x" (some (.scalar .float64))).declareArgument "p"
    (some (.record "point" [("x", .scalar .float32)]))).declareArgument "u"
    (some (.scalar .complex64))).declareTemporary "s" none).declareTemporary "t" none).declareTemporary "u"
    none).declareFunction "g" ⟨"g", [.scalar .float64], .scalar .float64⟩

/-- An operation that is not built in: the geometric mean, which is not for integers. -/
def geometricMean : ReductionOperation where
  name := "geomean"
  resultType _ type _ :=
    if type.isInteger then .error (.rejected (.mismatch type (.scalar .float64)) none) else .ok type

/-- The values of the function at the means of some elements of an array are added up. -/
def steadyWrites : List (String × Expr) :=
  [("s", .element .indexed (.reference "x" none) (.reference "i" none)), ("t", .literal (.integer 0)),
    ("t", .accumulation .sum [.reference "t" none,
      .call (.reference "g" none) [.reduction geometricMean (.reference "s" none) ["i"]]])]

/-- The types of the element and of the sum. -/
def steadyTypes : Table StorageType := .ofList [("s", .scalar .float64), ("t", .scalar .float64)]

/-- The mean and the function are taken of an element of an array, which does not depend on the sum. -/
theorem selectsSteadily_steady : selectiveScope.SelectsSteadily steadyWrites steadyTypes := by
  have honly : ∀ write ∈ steadyWrites, ∀ node ∈ write.2.inspected, node.isSelector = true →
      ∀ operand ∈ node.evaluated, ∀ other ∈ operand.reads, other = "s" := by
    decide +kernel
  intro name writer _ hwriter node hnode hselective operand hoperand other hother _
  obtain rfl := honly _ hwriter node hnode hselective.isSelector operand hoperand other hother
  intro last hlast
  rcases Relation.ReflTransGen.cases_head hlast with rfl | ⟨next, hnext, -⟩
  · exact ⟨[.scalar .float64], .scalar .float64, by decide +kernel, by decide +kernel, by decide +kernel⟩
  · have hnone : ∀ write ∈ steadyWrites, write.1 = "s" → ∀ read ∈ write.2.reads,
        selectiveScope.isUntypedTemporary read = false := by
      decide +kernel
    obtain ⟨-, ⟨huntyped, -⟩, -, writer, hwriter, hread⟩ := hnext
    cases huntyped.symm.trans (hnone _ hwriter rfl next hread)

/-- The sum over the values of the function is resolved, since the mean is taken of a steady temporary. -/
theorem resolve_of_solution_steady :
    selectiveScope.Seeded steadyWrites ∧ selectiveScope.Solution steadyWrites steadyTypes ∧
      selectiveScope.Preserves steadyWrites steadyTypes ∧
        selectiveScope.SelectsSteadily steadyWrites steadyTypes ∧
        ∃ types, (selectiveScope.resolve steadyWrites).result = .ok types := by
  have hseeded : selectiveScope.Seeded steadyWrites :=
    Scope.seeded_of_rank (["s", "t"].idxOf ·) (by decide +kernel) (by decide +kernel) (by decide +kernel)
  have hsolution : selectiveScope.Solution steadyWrites steadyTypes :=
    Scope.solution_of_forall (by decide +kernel) (by decide +kernel)
  have hkept : selectiveScope.Preserves steadyWrites steadyTypes := by
    refine Scope.preserves_of_forall fun name hsome => ?_
    have hentries : ∀ entry ∈ steadyTypes.entries, selectiveScope.isUntypedTemporary entry.1 = true ∧
        selectiveScope.arguments.find? entry.1 = none := by
      decide +kernel
    obtain ⟨type, htype⟩ := Option.isSome_iff_exists.mp hsome
    exact hentries _ (Table.find?_eq_some_iff.mp htype)
  exact ⟨hseeded, hsolution, hkept, selectsSteadily_steady,
    Scope.resolve_of_solution hseeded hsolution hkept selectsSteadily_steady⟩

/-- Writes with a solution, and the failure of their resolution all the same. -/
structure Refusal where
  writes : List (String × Expr)
  solution : Table StorageType
  cause : Cause
  location : String

/-- Refusals of a call, a field, the place of an extreme value and a mean for a type that is not final; of a
call for an argument that is replaced; and of a call for the least type where a wider one would do. -/
def refusals : List Refusal :=
  [{ writes := [("t", .literal (.integer 0)), ("t", .call (.reference "g" none) [.reference "t" none])]
     solution := .ofList [("t", .scalar .float64)]
     cause := .unknownSignature "g" [.scalar .int32]
     location := "g(t)" },
   { writes := [("t", .literal (.integer 0)),
       ("t", .accumulation .sum [.reference "t" none, .reference "p" none]),
       ("t", .field (.reference "t" none) "x")]
     solution := .ofList [("t", .record "point" [("x", .scalar .float32)])]
     cause := .notRecord (.scalar .int32) "x"
     location := "t.x" },
   { writes := [("t", .literal (.integer 0)),
       ("t", .field (.conditional (.literal (.integer 1))
         (.reduction Reduction.argmax.operation (.reference "t" none) ["i"])
         (.reduction Reduction.argmax.operation (.reference "x" none) ["i"])) "value")]
     solution := .ofList [("t", .scalar .float64)]
     cause := .mismatch (Reduction.valueIndexPair (.scalar .int32))
       (Reduction.valueIndexPair (.scalar .float64))
     location := "If(1, argmax(i, t), argmax(i, x))" },
   { writes := [("t", .literal (.integer 0)), ("t", .reduction geometricMean (.reference "t" none) ["i"])]
     solution := .ofList [("t", .scalar .float64)]
     cause := .mismatch (.scalar .int32) (.scalar .float64)
     location := "geomean(i, t)" },
   { writes := [("s", .call (.reference "sqrt" none) [.reference "u" none]), ("u", .literal (.integer 0))]
     solution := .ofList [("s", .scalar .float64), ("u", .scalar .int32)]
     cause := .unknownSignature "sqrt" [.scalar .complex64]
     location := "sqrt(u)" },
   { writes := [("s", .literal (.integer 0)),
       ("s", .accumulation .sum [.reference "s" none, .literal (.integer 1)]),
       ("t", .call (.reference "g" none) [.reference "s" none])]
     solution := .ofList [("s", .scalar .float64), ("t", .scalar .float64)]
     cause := .unknownSignature "g" [.scalar .int32]
     location := "g(s)" }]

/-- That seeded writes have a solution does not exclude that their resolution fails. -/
theorem refused_despite_solution :
    (∀ refusal ∈ refusals,
      selectiveScope.Seeded refusal.writes ∧ selectiveScope.Solution refusal.writes refusal.solution ∧
        (selectiveScope.resolve refusal.writes).result =
          .error (.rejected refusal.cause (some refusal.location))) ∧
      ¬ ∀ (scope : Scope) (writes : List (String × Expr)) (final : Table StorageType),
        scope.Seeded writes → scope.Solution writes final →
          ∃ types, (scope.resolve writes).result = .ok types := by
  have hclosed : ∀ refusal ∈ refusals, ∀ write ∈ refusal.writes, ∀ read ∈ write.2.reads,
      (selectiveScope.standing .empty read).isKnown = true ∨
        selectiveScope.isUntypedTemporary read = true ∧ read ∈ refusal.writes.map (·.1) := by
    decide +kernel
  have hseed : ∀ refusal ∈ refusals, ∀ write ∈ refusal.writes, ∃ seed ∈ refusal.writes,
      seed.1 = write.1 ∧ write.1 ∉ seed.2.reads := by
    decide +kernel
  have hrank : ∀ refusal ∈ refusals, ∀ write ∈ refusal.writes, ∀ read ∈ write.2.reads,
      selectiveScope.isUntypedTemporary read = true → write.1 ≠ read →
        ["u", "s", "t"].idxOf read < ["u", "s", "t"].idxOf write.1 := by
    decide +kernel
  have hentries : ∀ refusal ∈ refusals, ∀ entry ∈ refusal.solution.entries,
      selectiveScope.isUntypedTemporary entry.1 = true ∧ entry.1 ∈ refusal.writes.map (·.1) ∧
        selectiveScope.ConsistentAt refusal.writes refusal.solution entry.1 entry.2 := by
    decide +kernel
  have hassigned : ∀ refusal ∈ refusals, ∀ write ∈ refusal.writes,
      selectiveScope.isUntypedTemporary write.1 = true →
        (refusal.solution.find? write.1).isSome = true := by
    decide +kernel
  have hresolve : ∀ refusal ∈ refusals, (selectiveScope.resolve refusal.writes).result =
      .error (.rejected refusal.cause (some refusal.location)) := by
    simp only [refusals, List.forall_mem_cons, List.not_mem_nil, false_implies, implies_true, and_true]
    refine ⟨?_, ?_, ?_, ?_, ?_, ?_⟩
    · exact result_settle_of_error (by decide +kernel)
    · exact result_settle_of_error (by decide +kernel)
    · exact result_settle_of_error (by decide +kernel)
    · exact result_settle_of_error (by decide +kernel)
    · exact result_settle_of_error (by decide +kernel)
    · exact result_settle_of_some (.scalar .int32) (by decide +kernel)
        (result_settle_of_error (by decide +kernel))
  have hrefused : ∀ refusal ∈ refusals, selectiveScope.Seeded refusal.writes ∧
      selectiveScope.Solution refusal.writes refusal.solution ∧
        (selectiveScope.resolve refusal.writes).result =
          .error (.rejected refusal.cause (some refusal.location)) := fun refusal hmem =>
    ⟨Scope.seeded_of_rank (["u", "s", "t"].idxOf ·) (hclosed refusal hmem) (hseed refusal hmem)
        (hrank refusal hmem),
      Scope.solution_of_forall (hentries refusal hmem) (hassigned refusal hmem), hresolve refusal hmem⟩
  refine ⟨hrefused, fun h => ?_⟩
  obtain ⟨hseeded, hsolution, hfailure⟩ := hrefused _ List.mem_cons_self
  obtain ⟨types, htypes⟩ := h _ _ _ hseeded hsolution
  cases hfailure.symm.trans htypes

end StorageTyping
