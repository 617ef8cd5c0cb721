import StorageTyping.Proofs.Resolution.Writers

/-!
# Rounds of widening

A temporary that is written in terms of itself is given an assumed type, and a round gives the
type that its writers combine to under that assumption. Widening repeats this: it ends with a type
that a round agrees with, or else with the type after the last round (`widen_eq_some_iff`).
-/

namespace StorageTyping

/-- What one round of widening makes of an assumed type. -/
def Scope.Round (scope : Scope) (resolved : Table StorageType) (name : String)
    (types : List StorageType) (ownReaders : List Expr) (assumed widened : StorageType) : Prop :=
  ∃ ownTypes,
    (inferAll (scope.contextWith (resolved.insert name assumed)) ownReaders).result = .ok ownTypes ∧
      StorageType.joinAll (types ++ ownTypes) = .ok widened

/-- A number of rounds, each of which changes the value that it is given. -/
inductive Changes {α : Type} (round : α → α → Prop) : Nat → α → α → Prop
  | none (a : α) : Changes round 0 a a
  | more {rounds : Nat} {a b c : α} (hround : round a b) (hne : b ≠ a) (hrest : Changes round rounds b c) :
      Changes round (rounds + 1) a c

section Widening

variable {scope : Scope} {resolved : Table StorageType} {name : String} {types : List StorageType}
  {ownReaders : List Expr}

theorem result_widen_succ (rounds : Nat) (assumed : StorageType) :
    (widen scope resolved name types ownReaders (rounds + 1) assumed).result =
      match (inferAll (scope.contextWith (resolved.insert name assumed)) ownReaders).result with
      | .error (.waiting ..) => .ok none
      | .error (.rejected cause location) => .error (.rejected cause location)
      | .ok ownTypes =>
        match StorageType.joinAll (types ++ ownTypes) with
        | .error cause => .error (.rejected cause none)
        | .ok widened =>
          if widened = assumed then .ok (some assumed)
          else (widen scope resolved name types ownReaders rounds widened).result := by
  rw [widen, Logged.result_bind, result_tryOwnReaders]
  rcases (inferAll (scope.contextWith (resolved.insert name assumed)) ownReaders).result with
    (_ | _) | ownTypes
  · rfl
  · rfl
  · cases hjoin : StorageType.joinAll (types ++ ownTypes) with
    | error cause => simp [Except.bind, hjoin, Logged.ofRule]
    | ok widened =>
      by_cases h : widened = assumed <;>
        simp [Except.bind, hjoin, h, Logged.ofRule, Logged.value]

/-- Widening goes on with what a round gives, unless this is the assumed type. -/
theorem result_widen_of_round {rounds : Nat} {assumed widened : StorageType}
    (h : scope.Round resolved name types ownReaders assumed widened) :
    (widen scope resolved name types ownReaders (rounds + 1) assumed).result =
      if widened = assumed then .ok (some assumed)
      else (widen scope resolved name types ownReaders rounds widened).result := by
  obtain ⟨ownTypes, hown, hjoin⟩ := h
  rw [result_widen_succ]
  simp only [hown, hjoin]

/-- Widening has a type only if a round gives one. -/
theorem exists_round_of_widen_eq_some {rounds : Nat} {assumed final : StorageType}
    (h : (widen scope resolved name types ownReaders (rounds + 1) assumed).result = .ok (some final)) :
    ∃ widened, scope.Round resolved name types ownReaders assumed widened := by
  rw [result_widen_succ] at h
  split at h
  · cases h
  · cases h
  · rename_i ownTypes hown
    split at h
    · cases h
    · rename_i widened hjoin
      exact ⟨widened, ownTypes, hown, hjoin⟩

/-- Widening ends with a type that a round agrees with, after fewer rounds than there are, or with
the type that the last round gives. -/
theorem widen_eq_some_iff {rounds : Nat} {assumed final : StorageType} :
    (widen scope resolved name types ownReaders rounds assumed).result = .ok (some final) ↔
      (∃ count < rounds, Changes (scope.Round resolved name types ownReaders) count assumed final ∧
          scope.Round resolved name types ownReaders final final) ∨
        Changes (scope.Round resolved name types ownReaders) rounds assumed final := by
  induction rounds generalizing assumed with
  | zero =>
    constructor
    · intro h
      cases h
      exact Or.inr (.none _)
    · intro hrounds
      rcases hrounds with ⟨count, hlt, -⟩ | hchanges
      · exact absurd hlt (Nat.not_lt_zero count)
      · cases hchanges
        rfl
  | succ rounds ih =>
    constructor
    · intro h
      obtain ⟨widened, hround⟩ := exists_round_of_widen_eq_some h
      rw [result_widen_of_round hround] at h
      split at h
      · rename_i hsame
        subst hsame
        cases h
        exact Or.inl ⟨0, Nat.succ_pos rounds, .none _, hround⟩
      · rename_i hne
        rcases ih.mp h with ⟨count, hlt, hchanges, hfinal⟩ | hchanges
        · exact Or.inl ⟨count + 1, Nat.succ_lt_succ hlt, .more hround hne hchanges, hfinal⟩
        · exact Or.inr (.more hround hne hchanges)
    · intro hrounds
      rcases hrounds with ⟨count, hlt, hchanges, hfinal⟩ | hchanges
      · cases hchanges with
        | none => rw [result_widen_of_round hfinal, if_pos rfl]
        | more hround hne hrest =>
          rw [result_widen_of_round hround, if_neg hne]
          exact ih.mpr (Or.inl ⟨_, Nat.lt_of_succ_lt_succ hlt, hrest, hfinal⟩)
      · cases hchanges with
        | more hround hne hrest =>
          rw [result_widen_of_round hround, if_neg hne]
          exact ih.mpr (Or.inr hrest)

/-- A writer that has a type under one assumption does not wait under another, if no operation waits. -/
theorem ne_waiting_of_insert {writer : Expr} (hops : writer.ReducesBy (·.NeverWaits))
    {assumed assumed' type : StorageType}
    (h : (infer (scope.contextWith (resolved.insert name assumed)) writer).result = .ok type)
    (blocking : String) (role : Role) :
    (infer (scope.contextWith (resolved.insert name assumed')) writer).result ≠
      .error (.waiting blocking role) := by
  intro hwaiting
  obtain ⟨hread, hundetermined⟩ := reads_and_standing_of_waiting hops hwaiting
  obtain ⟨known, hknown⟩ := known_of_mem_reads h hread
  by_cases hname : name = blocking
  · obtain ⟨other, hother⟩ := scope.known_of_find?_eq_some
      (show (resolved.insert name assumed').find? blocking = some assumed' by simp [hname])
    cases hother.symm.trans hundetermined
  · rw [Scope.standing_contextWith_congr (show (resolved.insert name assumed).find? blocking =
      (resolved.insert name assumed').find? blocking by simp [hname]), hundetermined] at hknown
    cases hknown

/-- If no operation waits, widening is left without an answer in its first round, if at all. -/
theorem widen_eq_none_iff (hops : ∀ reader ∈ ownReaders, reader.ReducesBy (·.NeverWaits)) {rounds : Nat}
    {assumed : StorageType} :
    (widen scope resolved name types ownReaders (rounds + 1) assumed).result = .ok none ↔
      ∃ blocking role, (inferAll (scope.contextWith (resolved.insert name assumed)) ownReaders).result =
        .error (.waiting blocking role) := by
  constructor
  · intro h
    induction rounds generalizing assumed with
    | zero =>
      rw [result_widen_succ] at h
      split at h
      · rename_i blocking role hwaiting
        exact ⟨blocking, role, hwaiting⟩
      · cases h
      · split at h
        · cases h
        · split at h <;> cases h
    | succ rounds ih =>
      rw [result_widen_succ] at h
      split at h
      · rename_i blocking role hwaiting
        exact ⟨blocking, role, hwaiting⟩
      · cases h
      · rename_i ownTypes hown
        split at h
        · cases h
        · split at h
          · cases h
          · obtain ⟨blocking, role, hwaiting⟩ := ih h
            obtain ⟨writer, hwriter, hlater⟩ := exists_mem_of_inferAll_eq_error hwaiting
            obtain ⟨type, -, htype⟩ := exists_infer_of_mem hown hwriter
            exact absurd hlater (ne_waiting_of_insert (hops writer hwriter) htype blocking role)
  · intro h
    obtain ⟨blocking, role, hwaiting⟩ := h
    rw [result_widen_succ, hwaiting]

/-- The answer of widening is kept when more temporaries have types. -/
theorem widen_persists {reads : String → Prop} {larger : Table StorageType}
    (h : scope.Grows reads resolved larger) (hreads : ∀ reader ∈ ownReaders, ∀ name ∈ reader.reads, reads name)
    (rounds : Nat) (assumed : StorageType) :
    Persists (widen scope resolved name types ownReaders rounds assumed).result
      (widen scope larger name types ownReaders rounds assumed).result := by
  induction rounds generalizing assumed with
  | zero => exact Or.inr rfl
  | succ rounds ih =>
    rw [result_widen_succ, result_widen_succ]
    rcases inferAll_keeps_of_forall fun reader hreader =>
      infer_keeps ((h.insert name assumed).extends.mono (hreads reader hreader)) with
      hsame | ⟨blocking, role, hwaiting, -⟩
    · rw [hsame]
      split
      · exact Or.inl rfl
      · exact Or.inr rfl
      · split
        · exact Or.inr rfl
        · split
          · exact Or.inr rfl
          · exact ih _
    · rw [hwaiting]
      exact Or.inl rfl

end Widening

end StorageTyping
