import StorageTyping.Proofs.Resolution.Completeness

/-!
# Unresolved temporaries

A resolution that can make no more progress reports the temporaries that are left. The report is
exact: without the writes to these temporaries all others are resolved, and with the types found for
the others each temporary of the report is blocked (`Scope.unresolved_exact`). The operations of
reductions, which know of no names, must neither wait for one nor report temporaries themselves.

A temporary that is put off is put behind all others that are left, so the order in which the others
are tried does not depend on it. The run without the reported temporaries therefore goes through the
same tables as the run with them (`Scope.Midway.exists_stuck`). This holds whatever shadows what.
-/

namespace StorageTyping

theorem mem_namesInOrder_iff {name : String} {temporaries : List Written} :
    name ∈ namesInOrder temporaries ↔ ∃ written ∈ temporaries, written.1 = name := by
  rw [(namesInOrder_perm temporaries).mem_iff, List.mem_map]

/-- Distinct names in order ascend strictly. -/
theorem pairwise_lt_namesInOrder {temporaries : List Written}
    (hdistinct : (temporaries.map (·.1)).Nodup) : (namesInOrder temporaries).Pairwise (· < ·) := by
  have hnodup : (namesInOrder temporaries).Nodup := (namesInOrder_perm temporaries).nodup_iff.mpr hdistinct
  refine ((pairwise_namesInOrder temporaries).and hnodup).imp fun hle => ?_
  exact String.not_le.mp fun hge => hle.2 (String.le_antisymm hle.1 hge)

namespace Scope

variable {scope : Scope} {writes : List (String × Expr)}

/-- A run that is stuck in the end is one of the other temporaries only, if those that it is stuck with
are left out from the start. -/
theorem Midway.exists_stuck {temporaries : List Written} {resolved : Table StorageType}
    {waiting todo : List Written} {names : List String} {location : Option String}
    (h : scope.Midway temporaries resolved waiting todo)
    (hops : ∀ written ∈ temporaries, ∀ writer ∈ written.2, writer.ReducesBy (·.NeverUnresolved))
    (hstuck : (settle scope resolved waiting todo).result = .error (.rejected (.unresolved names) location)) :
    ∃ final stuck, names = namesInOrder stuck ∧ stuck ≠ [] ∧ stuck ⊆ todo ++ waiting ∧
      (stuck.map (·.1)).Nodup ∧ (∀ written ∈ stuck, (resolveOne scope final written).result = .ok none) ∧
        (settle scope resolved (waiting.filter fun written => written.1 ∉ names)
          (todo.filter fun written => written.1 ∉ names)).result = .ok final := by
  induction resolved, waiting, todo using settle.induct with
  | case1 resolved waiting hempty =>
    rw [result_settle_nil, if_pos hempty] at hstuck
    cases hstuck
  | case2 resolved waiting hempty =>
    rw [result_settle_nil, if_neg hempty] at hstuck
    cases hstuck
    refine ⟨resolved, waiting, rfl, by simpa using hempty, List.Subset.refl _, h.distinct, h.waits, ?_⟩
    have hnone : waiting.filter (fun written => written.1 ∉ namesInOrder waiting) = [] := by
      refine List.filter_eq_nil_iff.mpr fun written hwritten => ?_
      simpa using mem_namesInOrder_iff.mpr ⟨written, hwritten, rfl⟩
    rw [hnone, List.filter_nil, result_settle_nil]
    rfl
  | case3 resolved waiting written rest ih_settled ih_putOff =>
    rw [result_settle_cons] at hstuck
    split at hstuck
    · rename_i failure hfailure
      obtain ⟨hmem, -⟩ := (h.left written).mp List.mem_cons_self
      obtain ⟨cause, _, hcause, rfl⟩ := isHard_of_resolveOne_eq_error (hops written hmem) hfailure
      cases hstuck
      cases hcause
    · rename_i hnone
      obtain ⟨final, stuck, hnames, hne, hsubset, hdistinct, hwaits, hothers⟩ :=
        ih_putOff (h.putOff hnone) hstuck
      refine ⟨final, stuck, hnames, hne, fun other hother => ?_, hdistinct, hwaits, ?_⟩
      · have hmem := hsubset hother
        simp only [List.mem_append, List.mem_cons, List.not_mem_nil, or_false] at hmem ⊢
        tauto
      · rw [List.filter_append] at hothers
        by_cases hname : written.1 ∈ names
        · simpa [hname] using hothers
        · rw [List.filter_cons_of_pos (by simpa using hname)]
          exact result_settle_of_none hnone (by simpa [hname] using hothers)
    · rename_i type hsome
      obtain ⟨final, stuck, hnames, hne, hsubset, hdistinct, hwaits, hothers⟩ :=
        ih_settled type (h.settled hsome) hstuck
      rw [List.append_nil] at hsubset
      have hname : written.1 ∉ names := by
        intro hname
        rw [hnames] at hname
        obtain ⟨other, hother, hsame⟩ := mem_namesInOrder_iff.mp hname
        have hdistinct := h.distinct
        rw [List.cons_append, List.map_cons, List.nodup_cons] at hdistinct
        exact hdistinct.1 (List.mem_map.mpr ⟨other, hsubset hother, hsame⟩)
      refine ⟨final, stuck, hnames, hne, fun other hother => List.mem_cons_of_mem _ (hsubset hother),
        hdistinct, hwaits, ?_⟩
      rw [List.filter_cons_of_pos (by simpa using hname)]
      exact result_settle_of_some type hsome (by simpa using hothers)

/-- Before a run all temporaries are left to try. -/
theorem midway_start (scope : Scope) (writes : List (String × Expr)) :
    scope.Midway (scope.writers writes).entries .empty [] (scope.writers writes).entries where
  reached := .start
  left written := by simp
  distinct := by simpa using (scope.writers writes).nodup_entries
  waits _ hwritten := by cases hwritten

/-- Unresolved temporaries are reported in strictly ascending order. All others are resolved without
them, and with the types of the others each of them is blocked. -/
theorem unresolved_exact (hops : scope.ReducesBy writes fun op => op.NeverWaits ∧ op.NeverUnresolved)
    {names : List String} {location : Option String}
    (h : (scope.resolve writes).result = .error (.rejected (.unresolved names) location)) :
    names ≠ [] ∧ names.Pairwise (· < ·) ∧ (∀ name ∈ names, scope.Resolves writes name) ∧
      ∃ types, (scope.resolve (writes.filter fun write => write.1 ∉ names)).result = .ok types ∧
        ∀ name ∈ names, scope.Blocked types name (writersOf writes name) := by
  obtain ⟨types, stuck, hnames, hne, hsubset, hdistinct, hwaits, hothers⟩ :=
    (scope.midway_start writes).exists_stuck
      (fun _ hwritten => (hops.imp fun _ => And.right).of_mem_entries hwritten) h
  have hentries {name : String} (hname : name ∈ names) :
      (name, writersOf writes name) ∈ stuck ∧ scope.Resolves writes name := by
    rw [hnames] at hname
    obtain ⟨written, hwritten, rfl⟩ := mem_namesInOrder_iff.mp hname
    obtain ⟨hresolves, hwriters⟩ := resolves_of_mem_entries (by simpa using hsubset hwritten)
    rw [← hwriters]
    exact ⟨hwritten, hresolves⟩
  refine ⟨?_, hnames ▸ pairwise_lt_namesInOrder hdistinct, fun name hname => (hentries hname).2, types,
    ?_, fun name hname => ?_⟩
  · obtain ⟨written, hwritten⟩ := List.exists_mem_of_ne_nil stuck hne
    exact List.ne_nil_of_mem (hnames ▸ mem_namesInOrder_iff.mpr ⟨written, hwritten, rfl⟩)
  · rw [resolve, scope.writers_filter (fun name => name ∉ names)]
    exact hothers
  · obtain ⟨hstuck, hresolves⟩ := hentries hname
    have hwriterOps := (hops.imp fun _ => And.left).of_mem_entries hresolves.mem_entries
    exact (resolveOne_eq_none_iff hwriterOps).mp (hwaits _ hstuck)

end Scope

/-- A scope with an array and three temporaries. -/
def cyclicScope : Scope :=
  ((((Scope.ofSettings .default).declareArgument "a" (some (.scalar .float64))).declareTemporary "left"
    none).declareTemporary "right" none).declareTemporary "scale" none

/-- Two of the temporaries are written in terms of each other, and the third one is not. -/
def cyclicWrites : List (String × Expr) :=
  [("left", .accumulation .sum
      [.reduction Reduction.max.operation (.reference "right" none) ["i"], .reference "scale" none]),
    ("right", .accumulation .product [.reference "left" none, .reference "left" none]),
    ("scale", .element .indexed (.reference "a" none) (.reference "i" none))]

/-- The two temporaries are tried again once the third one has its type. -/
theorem resolve_cyclic : (cyclicScope.resolve cyclicWrites).result =
    .error (.rejected (.unresolved ["left", "right"]) none) :=
  result_settle_of_none (by decide +kernel) <|
    result_settle_of_none (by decide +kernel) <|
      result_settle_of_some (.scalar .float64) (by decide +kernel) <|
        result_settle_of_none (by decide +kernel) <|
          result_settle_of_none (by decide +kernel) <| by
            rw [result_settle_nil, namesInOrder, List.mergeSort_of_pairwise (by decide +kernel)]
            rfl

/-- Without the two temporaries the third one is resolved, and then they wait for each other. -/
theorem unresolved_exact_cyclic :
    cyclicScope.ReducesBy cyclicWrites (fun op => op.NeverWaits ∧ op.NeverUnresolved) ∧
    (cyclicScope.resolve cyclicWrites).result =
        .error (.rejected (.unresolved ["left", "right"]) none) ∧
      ["left", "right"] ≠ [] ∧ ["left", "right"].Pairwise (· < ·) ∧
        (∀ name ∈ ["left", "right"], cyclicScope.Resolves cyclicWrites name) ∧
          ∃ types, (cyclicScope.resolve (cyclicWrites.filter fun write =>
              write.1 ∉ ["left", "right"])).result = .ok types ∧
            ∀ name ∈ ["left", "right"], cyclicScope.Blocked types name (writersOf cyclicWrites name) := by
  have hops : cyclicScope.ReducesBy cyclicWrites fun op => op.NeverWaits ∧ op.NeverUnresolved :=
    Scope.reducesBy_of_builtIn [.max] rfl fun reduction => ⟨reduction.neverWaits, reduction.neverUnresolved⟩
  exact ⟨hops, resolve_cyclic, Scope.unresolved_exact hops resolve_cyclic⟩

end StorageTyping
