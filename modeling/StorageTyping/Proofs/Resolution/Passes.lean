import StorageTyping.Proofs.Resolution.Completeness
import StorageTyping.Proofs.Resolution.Reporting

/-!
# Passes over the queue

A resolution goes through its queue in passes. A pass tries one temporary after the other with the same
types known, until one of them gets a type, which starts the next pass over the others: first those that
were not tried, then those that were put off. `Scope.Passes` describes a run by its passes, with its
whole log, and `settle_passes` says that every run is of this kind.

How a run ends is then read off its passes by induction (`Scope.resolve_outcome`). The types known
in the last pass are those that the run has reported as resolved; the run gives them all if nothing is left
in the queue, and otherwise it fails, either with the whole queue or as one temporary of it does.
-/

namespace StorageTyping

namespace Scope

/-- All temporaries of a queue have to wait for more types. -/
def AllWait (scope : Scope) (resolved : Table StorageType) (queue : List Written) : Prop :=
  ∀ written ∈ queue, (resolveOne scope resolved written).result = .ok none

/-- What is reported when temporaries are tried one after the other. -/
def eventsOfTrying (scope : Scope) (resolved : Table StorageType) (queue : List Written) : List Event :=
  queue.flatMap fun written => (resolveOne scope resolved written).events

/-- The passes of a run over a queue of temporaries, each with the temporaries that it tries, and the log
and the result of the run. -/
inductive Passes (scope : Scope) :
    Table StorageType → List Written → List (List Written) → Logged (Table StorageType) → Prop
  /-- Without temporaries there is nothing to try. -/
  | finished (resolved : Table StorageType) : Passes scope resolved [] [] (pure resolved)
  /-- A pass over the whole queue ends the run if all have to wait. -/
  | stuck {resolved : Table StorageType} {queue : List Written} (hne : queue ≠ [])
      (hwait : scope.AllWait resolved queue) :
      Passes scope resolved queue [queue]
        ⟨scope.eventsOfTrying resolved queue, .error (.rejected (.unresolved (namesInOrder queue)) none)⟩
  /-- The failure of a temporary ends the run. -/
  | failed {resolved : Table StorageType} {before after : List Written} {written : Written}
      {failure : Failure} (hwait : scope.AllWait resolved before)
      (hfailure : (resolveOne scope resolved written).result = .error failure) :
      Passes scope resolved (before ++ written :: after) [before ++ [written]]
        ⟨scope.eventsOfTrying resolved (before ++ [written]), .error failure⟩
  /-- A temporary that gets a type ends the pass, and the rest of the queue is gone through with it. -/
  | settled {resolved : Table StorageType} {before after : List Written} {written : Written}
      {type : StorageType} {passes : List (List Written)} {rest : Logged (Table StorageType)}
      (hwait : scope.AllWait resolved before)
      (hsome : (resolveOne scope resolved written).result = .ok (some type))
      (hrest : Passes scope (resolved.insert written.1 type) (after ++ before) passes rest) :
      Passes scope resolved (before ++ written :: after) ((before ++ [written]) :: passes)
        ⟨scope.eventsOfTrying resolved (before ++ [written]) ++ .resolved written.1 type :: rest.events,
          rest.result⟩

variable {scope : Scope} {resolved : Table StorageType} {queue : List Written}

theorem eventsOfTrying_concat (scope : Scope) (resolved : Table StorageType) (queue : List Written)
    (written : Written) :
    scope.eventsOfTrying resolved (queue ++ [written]) =
      scope.eventsOfTrying resolved queue ++ (resolveOne scope resolved written).events := by
  simp [eventsOfTrying]

/-- To try temporaries is not to report that one is resolved. -/
theorem resolutions_eventsOfTrying (scope : Scope) (resolved : Table StorageType) (queue : List Written) :
    (scope.eventsOfTrying resolved queue).filterMap Event.resolution? = [] := by
  refine List.filterMap_eq_nil_iff.mpr fun event hevent => ?_
  obtain ⟨written, -, hevent⟩ := List.mem_flatMap.mp hevent
  exact resolveOne_reportsOnly scope resolved written event hevent

end Scope

/-- What is reported about the next temporary, and then about what is left to try. -/
theorem events_settle_cons (scope : Scope) (resolved : Table StorageType) (waiting : List Written)
    (written : Written) (rest : List Written) :
    (settle scope resolved waiting (written :: rest)).events =
      (resolveOne scope resolved written).events ++
        match (resolveOne scope resolved written).result with
        | .error _ => []
        | .ok none => (settle scope resolved (waiting ++ [written]) rest).events
        | .ok (some type) => .resolved written.1 type ::
            (settle scope (resolved.insert written.1 type) [] (rest ++ waiting)).events := by
  rw [settle, Logged.events_bind]
  rcases (resolveOne scope resolved written).result with failure | (_ | type)
  · rfl
  · rfl
  · simp [Logged.report]

/-- A run goes through its queue in passes. -/
theorem settle_passes (scope : Scope) (resolved : Table StorageType) (waiting todo : List Written)
    (hwait : scope.AllWait resolved waiting) :
    ∃ passes, scope.Passes resolved (waiting ++ todo) passes
      ⟨scope.eventsOfTrying resolved waiting ++ (settle scope resolved waiting todo).events,
        (settle scope resolved waiting todo).result⟩ := by
  induction resolved, waiting, todo using settle.induct with
  | case1 resolved waiting hempty =>
    rw [List.isEmpty_iff.mp hempty, settle]
    exact ⟨[], .finished resolved⟩
  | case2 resolved waiting hempty =>
    rw [List.append_nil, settle, if_neg hempty]
    refine ⟨[waiting], ?_⟩
    simpa [Logged.fail] using Scope.Passes.stuck (by simpa using hempty) hwait
  | case3 resolved waiting written rest ih_settled ih_putOff =>
    rw [result_settle_cons, events_settle_cons, ← List.append_assoc, ← Scope.eventsOfTrying_concat]
    rcases hresult : (resolveOne scope resolved written).result with failure | (_ | type)
    · rw [List.append_nil]
      exact ⟨_, .failed hwait hresult⟩
    · -- A temporary that is put off still belongs to the pass that is going on.
      obtain ⟨passes, hpasses⟩ :=
        ih_putOff (List.forall_mem_append.mpr ⟨hwait, List.forall_mem_singleton.mpr hresult⟩)
      rw [List.append_assoc] at hpasses
      exact ⟨passes, hpasses⟩
    · obtain ⟨passes, hpasses⟩ := ih_settled type (List.forall_mem_nil _)
      exact ⟨_, .settled hwait hresult hpasses⟩

namespace Scope

variable {scope : Scope} {resolved : Table StorageType} {queue : List Written}
  {passes : List (List Written)} {log : Logged (Table StorageType)}

/-- A pass that ends at a temporary tries a part of the queue. -/
theorem sublist_of_pass (before after : List Written) (written : Written) :
    (before ++ [written]).Sublist (before ++ written :: after) :=
  ((List.nil_sublist after).cons_cons written).append_left before

/-- The queue of the next pass is that of the last one without the temporary that got a type. -/
theorem perm_of_pass (before after : List Written) (written : Written) :
    (before ++ written :: after).Perm (written :: (after ++ before)) :=
  List.perm_append_comm

/-- No pass tries a temporary twice. -/
theorem Passes.nodup (h : scope.Passes resolved queue passes log) (hdistinct : (queue.map (·.1)).Nodup) :
    ∀ pass ∈ passes, (pass.map (·.1)).Nodup := by
  induction h with
  | finished => exact List.forall_mem_nil _
  | stuck => exact List.forall_mem_singleton.mpr hdistinct
  | @failed _ before after written =>
    exact List.forall_mem_singleton.mpr (hdistinct.sublist ((sublist_of_pass before after written).map _))
  | @settled _ before after written _ _ _ _ _ _ ih =>
    refine List.forall_mem_cons.mpr ⟨hdistinct.sublist ((sublist_of_pass before after written).map _), ?_⟩
    have hrest := ((perm_of_pass before after written).map (·.1)).nodup_iff.mp hdistinct
    exact ih (List.nodup_cons.mp hrest).2

/-- The queue gets shorter with each pass, so a queue of a given length takes no more attempts than the
passes over all shorter ones together. -/
theorem Passes.length_flatten_le (h : scope.Passes resolved queue passes log) :
    2 * passes.flatten.length ≤ queue.length * (queue.length + 1) := by
  have hpass (length : Nat) (hpos : 0 < length) : 2 * length ≤ length * (length + 1) := by
    rw [Nat.mul_comm 2]
    exact Nat.mul_le_mul_left length (Nat.succ_le_succ hpos)
  induction h with
  | finished => exact Nat.le_refl 0
  | stuck hne => simpa using hpass _ (List.length_pos_iff.mpr hne)
  | @failed _ before after written =>
    have hle := (sublist_of_pass before after written).length_le
    have hqueue := hpass (before ++ written :: after).length (List.length_pos_iff.mpr (by simp))
    simp only [List.flatten_cons, List.flatten_nil, List.append_nil]
    omega
  | @settled _ before after written _ passes _ _ _ _ ih =>
    have hle := (sublist_of_pass before after written).length_le
    rw [(perm_of_pass before after written).length_eq, List.length_cons] at hle ⊢
    rw [List.flatten_cons, List.length_append]
    calc 2 * ((before ++ [written]).length + passes.flatten.length)
        = 2 * (before ++ [written]).length + 2 * passes.flatten.length := Nat.mul_add _ _ _
      _ ≤ 2 * ((after ++ before).length + 1) + (after ++ before).length * ((after ++ before).length + 1) :=
        Nat.add_le_add (Nat.mul_le_mul_left 2 hle) ih
      _ = ((after ++ before).length + 1) * ((after ++ before).length + 1 + 1) := by
        rw [← Nat.add_mul, Nat.mul_comm, Nat.add_comm 2]

/-- A run ends with the types that it has reported, beside those known before. -/
theorem Passes.exists_found (h : scope.Passes resolved queue passes log)
    (hdistinct : (queue.map (·.1)).Nodup) (hnew : ∀ written ∈ queue, resolved.find? written.1 = none) :
    ∃ found : Table StorageType,
      (log.events.filterMap Event.resolution? ++ resolved.entries).Perm found.entries ∧
        (log.result = .ok found ∨
          (∃ names, log.result = .error (.rejected (.unresolved names) none)) ∨
          ∃ written ∈ queue, ∃ failure, found.find? written.1 = none ∧
            (resolveOne scope found written).result = .error failure ∧ log.result = .error failure) := by
  induction h with
  | finished resolved => exact ⟨resolved, by simp, Or.inl rfl⟩
  | @stuck resolved queue hne hwait =>
    refine ⟨resolved, ?_, Or.inr (Or.inl ⟨_, rfl⟩)⟩
    rw [resolutions_eventsOfTrying, List.nil_append]
  | @failed resolved before after written failure hwait hfailure =>
    refine ⟨resolved, ?_, Or.inr (Or.inr ⟨written, by simp, failure, hnew written (by simp), hfailure, rfl⟩)⟩
    rw [resolutions_eventsOfTrying, List.nil_append]
  | @settled resolved before after written type passes rest hwait hsome hrest ih =>
    have hperm := perm_of_pass before after written
    have hdistinct' := (hperm.map (·.1)).nodup_iff.mp hdistinct
    rw [List.map_cons, List.nodup_cons] at hdistinct'
    -- The rest of the queue has other names, so it is still without types once this one has its type.
    have hothers : ∀ other ∈ after ++ before, (resolved.insert written.1 type).find? other.1 = none := by
      intro other hother
      have hne : written.1 ≠ other.1 := fun heq => hdistinct'.1 (List.mem_map.mpr ⟨other, hother, heq.symm⟩)
      rw [Table.find?_insert, if_neg hne]
      exact hnew other (hperm.mem_iff.mpr (List.mem_cons_of_mem _ hother))
    obtain ⟨found, hfound, hends⟩ := ih hdistinct'.2 hothers
    refine ⟨found, ?_, ?_⟩
    · rw [List.filterMap_append, resolutions_eventsOfTrying, List.nil_append, List.filterMap_cons]
      have hinsert := Table.entries_insert_perm (hnew written (by simp)) type
      exact (List.perm_middle.symm.trans (hinsert.symm.append_left _)).trans hfound
    · refine hends.imp_right (Or.imp_right fun hfails => ?_)
      obtain ⟨other, hother, hfailure⟩ := hfails
      exact ⟨other, hperm.mem_iff.mpr (List.mem_cons_of_mem _ hother), hfailure⟩

/-- A resolution goes through its queue in passes, none of which tries a temporary twice. Its log reports
each temporary as resolved that it finds a type for, with this type and once. In the end it gives the
types found, for all temporaries that are written and have none; or it fails with those that are unresolved,
or else as one of them does with the types found, which is a failure of another kind unless an operation
fails for unresolved temporaries itself. It never fails by a deferral, whatever the operations do. -/
theorem resolve_outcome (scope : Scope) (writes : List (String × Expr)) :
    (∃ passes, scope.Passes .empty (scope.writers writes).entries passes (scope.resolve writes) ∧
        (∀ pass ∈ passes, (pass.map (·.1)).Nodup) ∧
        2 * passes.flatten.length ≤
          (scope.writers writes).entries.length * ((scope.writers writes).entries.length + 1)) ∧
      (∀ name role, (scope.resolve writes).result ≠ .error (.waiting name role)) ∧
      ∃ found : Table StorageType,
        ((scope.resolve writes).events.filterMap Event.resolution?).Perm found.entries ∧
          ((scope.resolve writes).result = .ok found ∧
              (∀ name, (found.find? name).isSome ↔ scope.Resolves writes name) ∨
            (∃ names, (scope.resolve writes).result = .error (.rejected (.unresolved names) none)) ∨
            ∃ name failure, scope.Resolves writes name ∧ found.find? name = none ∧
              (scope.ReducesBy writes (·.NeverUnresolved) → failure.IsHard) ∧
              (scope.resolve writes).result = .error failure ∧
                scope.Fails found name (writersOf writes name) failure) := by
  have hdistinct := (scope.writers writes).nodup_entries
  obtain ⟨passes, hpasses⟩ : ∃ passes,
      scope.Passes .empty (scope.writers writes).entries passes (scope.resolve writes) :=
    settle_passes scope .empty [] (scope.writers writes).entries (List.forall_mem_nil _)
  obtain ⟨found, hfound, hends⟩ := hpasses.exists_found hdistinct fun _ _ => rfl
  refine ⟨⟨passes, hpasses, hpasses.nodup hdistinct, hpasses.length_flatten_le⟩, ?_, found, ?_, ?_⟩
  · rcases hends with hok | ⟨names, hunresolved⟩ | ⟨⟨name, writers⟩, -, failure, -, hfailure, hresult⟩
    · simp [hok]
    · simp [hunresolved]
    · obtain ⟨cause, location, rfl⟩ := (resolveOne_eq_error_iff.mp hfailure).exists_rejected
      simp [hresult]
  · rwa [show (Table.empty : Table StorageType).entries = [] from rfl, List.append_nil] at hfound
  · refine hends.imp (fun hok => ⟨hok, isSome_find?_iff_of_resolve hok⟩) (Or.imp_right fun hfails => ?_)
    obtain ⟨⟨name, writers⟩, hmem, failure, hnone, hfailure, hresult⟩ := hfails
    obtain ⟨hresolves, hwriters⟩ := resolves_of_mem_entries hmem
    dsimp only at hwriters
    subst hwriters
    have hfails := resolveOne_eq_error_iff.mp hfailure
    have hhard (hops : scope.ReducesBy writes (·.NeverUnresolved)) : failure.IsHard :=
      hfails.isHard (hops.of_mem_entries hmem)
    exact ⟨name, failure, hresolves, hnone, hhard, hresult, hfails⟩

end Scope

end StorageTyping
