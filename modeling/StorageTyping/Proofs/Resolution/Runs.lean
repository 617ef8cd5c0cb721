import StorageTyping.Proofs.Resolution.Failing

/-!
# Runs of the resolution

A resolution tries temporaries in some order, and the table of types grows by one entry with each
success. `Scope.Reached` holds of the tables that can be built up in this way, in whatever order,
and `settle_ends` says how a run ends: with a table of all temporaries, with a table at which every
temporary that is left has to wait, or with the failure of one temporary at a table reached before.
-/

namespace StorageTyping

theorem result_settle_nil (scope : Scope) (resolved : Table StorageType) (waiting : List Written) :
    (settle scope resolved waiting []).result =
      if waiting.isEmpty then .ok resolved
      else .error (.rejected (.unresolved (namesInOrder waiting)) none) := by
  unfold settle
  split <;> rfl

/-- How the next temporary is dealt with, and what is left to try then. -/
theorem result_settle_cons (scope : Scope) (resolved : Table StorageType) (waiting : List Written)
    (written : Written) (rest : List Written) :
    (settle scope resolved waiting (written :: rest)).result =
      match (resolveOne scope resolved written).result with
      | .error failure => .error failure
      | .ok none => (settle scope resolved (waiting ++ [written]) rest).result
      | .ok (some type) =>
        (settle scope (resolved.insert written.1 type) [] (rest ++ waiting)).result := by
  rw [settle, Logged.result_bind]
  rcases (resolveOne scope resolved written).result with failure | (_ | type)
  · rfl
  · rfl
  · simp [Except.bind]

section Steps

variable {scope : Scope} {resolved : Table StorageType} {waiting rest : List Written} {written : Written}
  {outcome : Except Failure (Table StorageType)}

/-- The run goes on with a type for the next temporary. -/
theorem result_settle_of_some (type : StorageType)
    (hsome : (resolveOne scope resolved written).result = .ok (some type))
    (hrest : (settle scope (resolved.insert written.1 type) [] (rest ++ waiting)).result = outcome) :
    (settle scope resolved waiting (written :: rest)).result = outcome := by
  rw [result_settle_cons, hsome]
  exact hrest

/-- The run goes on with the next temporary put off. -/
theorem result_settle_of_none (hnone : (resolveOne scope resolved written).result = .ok none)
    (hrest : (settle scope resolved (waiting ++ [written]) rest).result = outcome) :
    (settle scope resolved waiting (written :: rest)).result = outcome := by
  rw [result_settle_cons, hnone]
  exact hrest

/-- The run ends with the failure of the next temporary. -/
theorem result_settle_of_error {failure : Failure}
    (hfailure : (resolveOne scope resolved written).result = .error failure) :
    (settle scope resolved waiting (written :: rest)).result = .error failure := by
  rw [result_settle_cons, hfailure]

end Steps

/-- The tables of types that can be built up by giving one temporary after the other its type. -/
inductive Scope.Reached (scope : Scope) (temporaries : List Written) : Table StorageType → Prop
  | start : Reached scope temporaries .empty
  | insert {resolved : Table StorageType} {name : String} {writers : List Expr} {type : StorageType}
      (hreached : Reached scope temporaries resolved) (hmem : (name, writers) ∈ temporaries)
      (hnew : resolved.find? name = none)
      (hresolve : (resolveOne scope resolved (name, writers)).result = .ok (some type)) :
      Reached scope temporaries (resolved.insert name type)

/-- With more temporaries to try, more tables can be built up. -/
theorem Scope.Reached.mono {scope : Scope} {temporaries more : List Written} {types : Table StorageType}
    (h : scope.Reached temporaries types) (hmem : ∀ written ∈ temporaries, written ∈ more) :
    scope.Reached more types := by
  induction h with
  | start => exact .start
  | insert _ hwritten hnew hresolve ih => exact .insert ih (hmem _ hwritten) hnew hresolve

/-- How a resolution of some temporaries can end. -/
inductive Scope.Ends (scope : Scope) (temporaries : List Written) :
    Except Failure (Table StorageType) → Prop
  | resolved {resolved : Table StorageType} (hreached : scope.Reached temporaries resolved)
      (hall : ∀ written ∈ temporaries, (resolved.find? written.1).isSome) :
      Ends scope temporaries (.ok resolved)
  | stuck {resolved : Table StorageType} {waiting : List Written}
      (hreached : scope.Reached temporaries resolved)
      (hleft : ∀ written, written ∈ waiting ↔ written ∈ temporaries ∧ resolved.find? written.1 = none)
      (hdistinct : (waiting.map (·.1)).Nodup) (hne : waiting ≠ [])
      (hwaits : ∀ written ∈ waiting, (resolveOne scope resolved written).result = .ok none) :
      Ends scope temporaries (.error (.rejected (.unresolved (namesInOrder waiting)) none))
  | failed {resolved : Table StorageType} {name : String} {writers : List Expr} {failure : Failure}
      (hreached : scope.Reached temporaries resolved) (hmem : (name, writers) ∈ temporaries)
      (hnew : resolved.find? name = none)
      (hfailure : (resolveOne scope resolved (name, writers)).result = .error failure) :
      Ends scope temporaries (.error failure)

/-- What holds between two steps of a run: the temporaries without a type are those left to try and
those put off, and the latter have to wait for more types than there are. -/
structure Scope.Midway (scope : Scope) (temporaries : List Written) (resolved : Table StorageType)
    (waiting todo : List Written) : Prop where
  reached : scope.Reached temporaries resolved
  left : ∀ written, written ∈ todo ++ waiting ↔ written ∈ temporaries ∧ resolved.find? written.1 = none
  distinct : ((todo ++ waiting).map (·.1)).Nodup
  waits : ∀ written ∈ waiting, (resolveOne scope resolved written).result = .ok none

namespace Scope.Midway

variable {scope : Scope} {temporaries : List Written} {resolved : Table StorageType}
  {waiting rest : List Written} {written : Written}

/-- A temporary that has to wait is put off. -/
theorem putOff (h : scope.Midway temporaries resolved waiting (written :: rest))
    (hnone : (resolveOne scope resolved written).result = .ok none) :
    scope.Midway temporaries resolved (waiting ++ [written]) rest := by
  have hperm : (rest ++ (waiting ++ [written])).Perm (written :: rest ++ waiting) := by
    rw [← List.append_assoc]
    exact List.perm_append_singleton written (rest ++ waiting)
  refine ⟨h.reached, fun other => hperm.mem_iff.trans (h.left other),
    (hperm.map (·.1)).nodup_iff.mpr h.distinct, fun other hother => ?_⟩
  rcases List.mem_append.mp hother with hother | hother
  · exact h.waits other hother
  · rw [List.mem_singleton.mp hother, hnone]

/-- A temporary that has a type enters the table, and those put off are tried again. -/
theorem settled (h : scope.Midway temporaries resolved waiting (written :: rest)) {type : StorageType}
    (hsome : (resolveOne scope resolved written).result = .ok (some type)) :
    scope.Midway temporaries (resolved.insert written.1 type) [] (rest ++ waiting) := by
  obtain ⟨hmem, hnew⟩ := (h.left written).mp List.mem_cons_self
  have hdistinct := h.distinct
  rw [List.cons_append, List.map_cons, List.nodup_cons] at hdistinct
  refine ⟨.insert h.reached hmem hnew hsome, fun other => ?_, ?_, fun _ hother => ?_⟩
  · rw [List.append_nil, Table.find?_insert]
    constructor
    · intro hother
      have hname : written.1 ≠ other.1 := fun heq =>
        hdistinct.1 (List.mem_map.mpr ⟨other, hother, heq.symm⟩)
      rw [if_neg hname]
      exact (h.left other).mp (List.mem_cons_of_mem _ hother)
    · intro hother
      obtain ⟨hother, hnone⟩ := hother
      split at hnone
      · cases hnone
      · rename_i hname
        rcases List.mem_cons.mp ((h.left other).mpr ⟨hother, hnone⟩) with heq | hrest
        · exact absurd (congrArg Prod.fst heq.symm) hname
        · exact hrest
  · rw [List.append_nil]
    exact hdistinct.2
  · cases hother

end Scope.Midway

/-- A run ends in one of the three ways. -/
theorem settle_ends {scope : Scope} {temporaries : List Written} {resolved : Table StorageType}
    {waiting todo : List Written} (h : scope.Midway temporaries resolved waiting todo) :
    scope.Ends temporaries (settle scope resolved waiting todo).result := by
  induction resolved, waiting, todo using settle.induct with
  | case1 resolved waiting hempty =>
    rw [result_settle_nil, if_pos hempty]
    refine .resolved h.reached fun written hwritten => ?_
    refine Option.isSome_iff_ne_none.mpr fun hnone => ?_
    have hleft := (h.left written).mpr ⟨hwritten, hnone⟩
    rw [List.isEmpty_iff.mp hempty] at hleft
    cases hleft
  | case2 resolved waiting hempty =>
    rw [result_settle_nil, if_neg hempty]
    exact .stuck h.reached h.left h.distinct (by simpa using hempty) h.waits
  | case3 resolved waiting written rest ih_settled ih_putOff =>
    rw [result_settle_cons]
    split
    · rename_i failure hfailure
      obtain ⟨hmem, hnew⟩ := (h.left written).mp List.mem_cons_self
      exact .failed h.reached hmem hnew hfailure
    · rename_i hnone
      exact ih_putOff (h.putOff hnone)
    · rename_i type hsome
      exact ih_settled type (h.settled hsome)

/-- A run over all temporaries, in whatever order, ends in one of the three ways. -/
theorem settle_empty_ends (scope : Scope) {temporaries todo : List Written}
    (hperm : todo.Perm temporaries) (hdistinct : (temporaries.map (·.1)).Nodup) :
    scope.Ends temporaries (settle scope .empty [] todo).result := by
  refine settle_ends ⟨.start, fun written => ?_, ?_, fun _ hwritten => ?_⟩
  · rw [List.append_nil, hperm.mem_iff, Table.find?_empty]
    exact (and_iff_left rfl).symm
  · rw [List.append_nil]
    exact (hperm.map (·.1)).nodup_iff.mpr hdistinct
  · cases hwritten

/-- The names of some temporaries are those put in order. -/
theorem namesInOrder_perm (temporaries : List Written) :
    (namesInOrder temporaries).Perm (temporaries.map (·.1)) :=
  List.mergeSort_perm _ _

/-- Names in order ascend. -/
theorem pairwise_namesInOrder (temporaries : List Written) :
    (namesInOrder temporaries).Pairwise (· ≤ ·) := by
  have hsorted : (namesInOrder temporaries).Pairwise fun a b => decide (a ≤ b) = true :=
    List.pairwise_mergeSort
      (fun a b c hab hbc => by simpa using String.le_trans (by simpa using hab) (by simpa using hbc))
      (fun a b => by simpa using String.le_total a b) (temporaries.map (·.1))
  exact hsorted.imp fun hle => by simpa using hle

/-- The names of the same temporaries in another order are the same when put in order. -/
theorem namesInOrder_eq_of_perm {left right : List Written}
    (h : (left.map (·.1)).Perm (right.map (·.1))) : namesInOrder left = namesInOrder right := by
  have hperm : (namesInOrder left).Perm (namesInOrder right) :=
    (namesInOrder_perm left).trans (h.trans (namesInOrder_perm right).symm)
  exact hperm.eq_of_pairwise (fun _ _ _ _ hab hba => String.le_antisymm hab hba)
    (pairwise_namesInOrder left) (pairwise_namesInOrder right)

end StorageTyping
