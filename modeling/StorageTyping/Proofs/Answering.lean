import Mathlib.Data.Finset.Card
import Mathlib.Data.Finset.Dedup
import StorageTyping.Proofs.Stability

/-!
# Answering deferrals

A deferral names what inference waits for: a name that the expression reads, that is neither a loop index nor
a constant, and whose first declaration has no type (`Scope.standing_eq_undetermined_iff`). It can be answered
by a pending declaration of the name with some type, whichever it is. Pending declarations come first, so
inference never waits for the name again. All this is said of expressions in which no operation of a reduction
waits, as the built-in ones do not.

Whoever answers one deferral after the other therefore comes to an end (`Scope.Answering.exists_done`). Each
answer takes a name out of those that are read and have no pending type, and it puts none back.
-/

namespace StorageTyping

/-- Whether a name is pending with a type. -/
def Pending.isTyped (pending : Pending) (name : String) : Bool :=
  (pending.find? name).any (·.type?.isSome)

/-- The names that an expression reads and that no pending declaration gives a type. -/
def Expr.openReads (expr : Expr) (pending : Pending) : Finset String :=
  expr.reads.toFinset.filter fun name => pending.isTyped name = false

namespace Scope

/-- Inference of an expression waits for some name. -/
def Waits (scope : Scope) (pending : Pending) (expr : Expr) : Prop :=
  ∃ name role, (scope.infer pending expr).result = .error (.waiting name role)

/-- What is pending from round to round, if every name that inference waits for is declared with some type. -/
def Answering (scope : Scope) (expr : Expr) (rounds : Nat → Pending) : Prop :=
  ∀ round name role, (scope.infer (rounds round) expr).result = .error (.waiting name role) →
    ∃ answer type, rounds (round + 1) = (rounds round).insert name ⟨answer, some type⟩

variable {scope : Scope} {pending : Pending} {expr : Expr} {name : String}

/-- An undetermined name is neither an index nor a constant, and its first declaration has no type. -/
theorem standing_eq_undetermined_iff {role : Role} :
    scope.standing pending name = .undetermined role ↔
      scope.isIndex name = false ∧ scope.symbol? name = none ∧
        scope.declaration? pending name = some ⟨role, none⟩ := by
  unfold standing
  cases scope.isIndex name with
  | true => simp
  | false =>
    cases scope.symbol? name with
    | some symbol => simp
    | none =>
      rcases scope.declaration? pending name with _ | ⟨role', _ | type⟩ <;>
        simp [Standing.ofDeclaration?]

/-- A name that is pending with a type is not waited for. -/
theorem isTyped_of_waiting (hops : expr.ReducesBy (·.NeverWaits)) {role : Role}
    (h : (scope.infer pending expr).result = .error (.waiting name role)) : pending.isTyped name = false := by
  obtain ⟨-, -, hdeclared⟩ := standing_eq_undetermined_iff.mp (standing_of_waiting hops h)
  unfold declaration? at hdeclared
  unfold Pending.isTyped
  cases hpending : pending.find? name with
  | none => rfl
  | some declaration =>
    rw [hpending, Option.some_or, Option.some.injEq] at hdeclared
    rw [hdeclared]
    rfl

theorem isTyped_insert (pending : Pending) (name other : String) (answer : Role) (type : StorageType) :
    Pending.isTyped (pending.insert name ⟨answer, some type⟩) other =
      (decide (name = other) || pending.isTyped other) := by
  unfold Pending.isTyped
  by_cases hname : name = other <;> simp [hname]

/-- An answer takes the name that was waited for out of the open ones. -/
theorem openReads_insert_ssubset (hops : expr.ReducesBy (·.NeverWaits)) {role : Role}
    (h : (scope.infer pending expr).result = .error (.waiting name role)) (answer : Role) (type : StorageType) :
    expr.openReads (pending.insert name ⟨answer, some type⟩) ⊂ expr.openReads pending := by
  have hopen : name ∈ expr.openReads pending :=
    Finset.mem_filter.mpr ⟨List.mem_toFinset.mpr (mem_reads_of_waiting hops h), isTyped_of_waiting hops h⟩
  refine Finset.ssubset_iff_of_subset (fun other hother => ?_) |>.mpr ⟨name, hopen, fun hname => ?_⟩
  · obtain ⟨hread, huntyped⟩ := Finset.mem_filter.mp hother
    rw [isTyped_insert, Bool.or_eq_false_iff] at huntyped
    exact Finset.mem_filter.mpr ⟨hread, huntyped.2⟩
  · have huntyped := (Finset.mem_filter.mp hname).2
    simp [isTyped_insert] at huntyped

/-- After the first round the rest is answered as well. -/
theorem Answering.tail {rounds : Nat → Pending} (h : scope.Answering expr rounds) :
    scope.Answering expr fun round => rounds (round + 1) :=
  fun round => h (round + 1)

/-- If every deferral is answered, there is one for each open name at most before inference does not wait. -/
theorem Answering.exists_done (hops : expr.ReducesBy (·.NeverWaits)) {rounds : Nat → Pending}
    (h : scope.Answering expr rounds) :
    ∃ count ≤ (expr.openReads (rounds 0)).card,
      (∀ round < count, scope.Waits (rounds round) expr) ∧ ¬ scope.Waits (rounds count) expr := by
  induction hcard : (expr.openReads (rounds 0)).card using Nat.strong_induction_on generalizing rounds with
  | _ card ih =>
    by_cases hwaits : scope.Waits (rounds 0) expr
    · obtain ⟨name, role, hwaiting⟩ := hwaits
      obtain ⟨answer, type, hnext⟩ := h 0 name role hwaiting
      have hfewer : (expr.openReads (rounds 1)).card < card := by
        rw [← hcard, hnext]
        exact Finset.card_lt_card (openReads_insert_ssubset hops hwaiting answer type)
      obtain ⟨count, hcount, hbefore, hdone⟩ := ih _ hfewer h.tail rfl
      refine ⟨count + 1, Nat.lt_of_le_of_lt hcount hfewer, fun round hround => ?_, hdone⟩
      cases round with
      | zero => exact ⟨name, role, hwaiting⟩
      | succ round => exact hbefore round (Nat.lt_of_succ_lt_succ hround)
    · exact ⟨0, Nat.zero_le _, fun round hround => absurd hround (Nat.not_lt_zero _), hwaits⟩

/-- If no operation waits, a deferral names what an expression reads and what is declared without a type: it
is neither a loop index nor a constant, and its first declaration is of the role named and has no type. Once
a declaration of it with a type is pending, no inference waits for it, whatever else is pending. If every
deferral is answered by such a declaration, there are no more of them than names that the expression reads. -/
theorem waits_once_for_each_name (scope : Scope) {expr : Expr} (hops : expr.ReducesBy (·.NeverWaits)) :
    (∀ pending name role, (scope.infer pending expr).result = .error (.waiting name role) →
        name ∈ expr.reads ∧ scope.isIndex name = false ∧ scope.symbol? name = none ∧
          scope.declaration? pending name = some ⟨role, none⟩) ∧
      (∀ (pending more : Pending) name answer type, (pending.insert name ⟨answer, some type⟩).PartOf more →
        ∀ role, (scope.infer more expr).result ≠ .error (.waiting name role)) ∧
        ∀ rounds, scope.Answering expr rounds → ∃ count ≤ expr.reads.toFinset.card,
          (∀ round < count, scope.Waits (rounds round) expr) ∧ ¬ scope.Waits (rounds count) expr := by
  refine ⟨fun pending name role h => ?_, fun pending more name answer type hmore role h => ?_,
    fun rounds h => ?_⟩
  · exact ⟨mem_reads_of_waiting hops h, standing_eq_undetermined_iff.mp (standing_of_waiting hops h)⟩
  · have hpending : more.find? name = some ⟨answer, some type⟩ := hmore name _ (by simp)
    have huntyped := isTyped_of_waiting hops h
    simp [Pending.isTyped, hpending] at huntyped
  · obtain ⟨count, hcount, hrounds⟩ := h.exists_done hops
    exact ⟨count, hcount.trans (Finset.card_filter_le _ _), hrounds⟩

end Scope

/-- A scope with an argument and a temporary whose types are not determined. -/
def undeterminedScope : Scope :=
  ((Scope.ofSettings .default).declareArgument "n" none).declareTemporary "t" none

/-- The argument is used twice, once below a reduction, and once as an index, where it is not looked at. -/
def undeterminedSum : Expr :=
  .accumulation .sum [.reduction Reduction.product.operation (.reference "n" none) ["i"],
    .element .indexed (.reference "t" none) (.reference "n" none), .reference "n" none]

/-- First the argument is declared as a temporary of type `float32`, then the temporary as an argument. -/
def undeterminedRounds : Nat → Pending
  | 0 => .empty
  | 1 => Table.empty.insert "n" ⟨.temporary, some (.scalar .float32)⟩
  | _ => (Table.empty.insert "n" ⟨.temporary, some (.scalar .float32)⟩).insert "t"
      ⟨.argument, some (.scalar .int64)⟩

/-- The sum waits for the argument and then for the temporary, and after these two answers it waits no more. -/
theorem waits_once_for_each_name_undetermined :
    undeterminedSum.ReducesBy (·.NeverWaits) ∧
      (undeterminedScope.infer .empty undeterminedSum).result = .error (.waiting "n" .argument) ∧
      undeterminedScope.declaration? .empty "n" = some ⟨.argument, none⟩ ∧
        undeterminedScope.Answering undeterminedSum undeterminedRounds ∧
          ∃ count ≤ 2, (∀ round < count, undeterminedScope.Waits (undeterminedRounds round) undeterminedSum) ∧
            ¬ undeterminedScope.Waits (undeterminedRounds count) undeterminedSum := by
  have hfirst : (undeterminedScope.infer .empty undeterminedSum).result =
      .error (.waiting "n" .argument) := by decide +kernel
  have hsecond : (undeterminedScope.infer (undeterminedRounds 1) undeterminedSum).result =
      .error (.waiting "t" .temporary) := by decide +kernel
  have hlast : (undeterminedScope.infer (undeterminedRounds 2) undeterminedSum).result =
      .ok (.scalar .float64) := by decide +kernel
  have hanswering : undeterminedScope.Answering undeterminedSum undeterminedRounds := by
    intro round name role h
    match round with
    | 0 =>
      cases hfirst.symm.trans h
      exact ⟨_, _, rfl⟩
    | 1 =>
      cases hsecond.symm.trans h
      exact ⟨_, _, rfl⟩
    | round + 2 => cases hlast.symm.trans h
  have hops : undeterminedSum.ReducesBy (·.NeverWaits) :=
    Expr.reducesBy_of_builtIn [.product] rfl Reduction.neverWaits
  obtain ⟨hdeclared, -, hends⟩ := undeterminedScope.waits_once_for_each_name hops
  have hcard : undeterminedSum.reads.toFinset.card = 2 := by decide
  exact ⟨hops, hfirst, (hdeclared _ _ _ hfirst).2.2.2, hanswering, hcard ▸ hends _ hanswering⟩

end StorageTyping
