import StorageTyping.Proofs.Resolution.Temporary

/-!
# How a temporary fails

A temporary without a type either gets one, or has to wait, or fails. The first two cases are
characterized by `resolveOne_eq_some_iff` and `resolveOne_eq_none_iff`; here is the third
(`resolveOne_eq_error_iff`). A failure comes from one writer or from the combination of the types of
the writers. Beside the types known so far only one type takes part in it: the provisional type of the
temporary itself, which the rounds of widening have reached by then.
-/

namespace StorageTyping

/-- How a round of widening fails: a writer that reads the temporary is rejected, or the types of the
writers cannot be combined. -/
inductive Scope.RoundFails (scope : Scope) (resolved : Table StorageType) (name : String)
    (types : List StorageType) (ownReaders : List Expr) (assumed : StorageType) : Failure → Prop
  | byReader {before after : List Expr} {reader : Expr} {cause : Cause} {location : Option String}
      (hsplit : ownReaders = before ++ reader :: after)
      (hbefore : ∀ earlier ∈ before,
        ((scope.contextWith (resolved.insert name assumed)).type? earlier).isSome)
      (hfailure : (StorageTyping.infer (scope.contextWith (resolved.insert name assumed)) reader).result =
        .error (.rejected cause location)) :
      RoundFails scope resolved name types ownReaders assumed (.rejected cause location)
  | byTypes {ownTypes : List StorageType} {cause : Cause}
      (hown : (inferAll (scope.contextWith (resolved.insert name assumed)) ownReaders).result = .ok ownTypes)
      (hjoin : StorageType.joinAll (types ++ ownTypes) = .error cause) :
      RoundFails scope resolved name types ownReaders assumed (.rejected cause none)

/-- How the inference of a temporary fails, with the types of some others known. -/
inductive Scope.Fails (scope : Scope) (resolved : Table StorageType) (name : String)
    (writers : List Expr) : Failure → Prop
  /-- A writer is rejected, and those before it have types or wait for the temporary. -/
  | byWriter {before after : List Expr} {writer : Expr} {cause : Cause} {location : Option String}
      (hsplit : writers = before ++ writer :: after)
      (hbefore : ∀ earlier ∈ before, ((scope.contextWith resolved).type? earlier).isSome ∨
        (scope.contextWith resolved).defersOn name earlier = true)
      (hfailure : (StorageTyping.infer (scope.contextWith resolved) writer).result =
        .error (.rejected cause location)) : Fails scope resolved name writers (.rejected cause location)
  /-- The types of the writers that do not wait cannot be combined. -/
  | byTypes {cause : Cause}
      (hwriters : ∀ writer ∈ writers, ((scope.contextWith resolved).type? writer).isSome ∨
        (scope.contextWith resolved).defersOn name writer = true)
      (hne : writers.filterMap (scope.contextWith resolved).type? ≠ [])
      (hjoin : StorageType.joinAll (writers.filterMap (scope.contextWith resolved).type?) = .error cause) :
      Fails scope resolved name writers (.rejected cause none)
  /-- The writers that do not wait have a first type, and a round of widening fails on what earlier rounds
  have made of it. -/
  | byRound {first provisional : StorageType} {count : Nat} {failure : Failure}
      (hwriters : ∀ writer ∈ writers, ((scope.contextWith resolved).type? writer).isSome ∨
        (scope.contextWith resolved).defersOn name writer = true)
      (hjoin : StorageType.joinAll (writers.filterMap (scope.contextWith resolved).type?) = .ok first)
      (hlt : count < wideningRounds)
      (hchanges : Changes (scope.Round resolved name (writers.filterMap (scope.contextWith resolved).type?)
        (writers.filter ((scope.contextWith resolved).defersOn name))) count first provisional)
      (hround : scope.RoundFails resolved name (writers.filterMap (scope.contextWith resolved).type?)
        (writers.filter ((scope.contextWith resolved).defersOn name)) provisional failure) :
      Fails scope resolved name writers failure

section Failing

variable {scope : Scope} {resolved : Table StorageType} {name : String} {writers ownReaders : List Expr}
  {types : List StorageType} {failure : Failure}

/-- Widening fails in its first round, or goes on and fails later. -/
theorem widen_succ_eq_error_iff {rounds : Nat} {assumed : StorageType} :
    (widen scope resolved name types ownReaders (rounds + 1) assumed).result = .error failure ↔
      scope.RoundFails resolved name types ownReaders assumed failure ∨
        ∃ widened, scope.Round resolved name types ownReaders assumed widened ∧ widened ≠ assumed ∧
          (widen scope resolved name types ownReaders rounds widened).result = .error failure := by
  constructor
  · intro h
    rw [result_widen_succ] at h
    split at h
    · cases h
    · rename_i cause location hown
      cases h
      obtain ⟨before, reader, after, hsplit, hbefore, hfailure⟩ := inferAll_eq_error_iff.mp hown
      exact Or.inl (.byReader hsplit hbefore hfailure)
    · rename_i ownTypes hown
      split at h
      · rename_i cause hjoin
        cases h
        exact Or.inl (.byTypes hown hjoin)
      · rename_i widened hjoin
        split at h
        · cases h
        · rename_i hne
          exact Or.inr ⟨widened, ⟨ownTypes, hown, hjoin⟩, hne, h⟩
  · intro h
    rcases h with hfails | ⟨widened, hround, hne, hlater⟩
    · rw [result_widen_succ]
      cases hfails with
      | byReader hsplit hbefore hfailure =>
        rw [inferAll_eq_error_iff.mpr ⟨_, _, _, hsplit, hbefore, hfailure⟩]
      | byTypes hown hjoin => simp only [hown, hjoin]
    · rw [result_widen_of_round hround, if_neg hne, hlater]

/-- Widening fails in one of its rounds. -/
theorem widen_eq_error_iff {rounds : Nat} {assumed : StorageType} :
    (widen scope resolved name types ownReaders rounds assumed).result = .error failure ↔
      ∃ provisional, (∃ count < rounds,
          Changes (scope.Round resolved name types ownReaders) count assumed provisional) ∧
        scope.RoundFails resolved name types ownReaders provisional failure := by
  induction rounds generalizing assumed with
  | zero => simp [widen]
  | succ rounds ih =>
    rw [widen_succ_eq_error_iff]
    constructor
    · intro h
      rcases h with hfails | ⟨widened, hround, hne, hlater⟩
      · exact ⟨assumed, ⟨0, Nat.succ_pos rounds, .none _⟩, hfails⟩
      · obtain ⟨provisional, ⟨count, hlt, hchanges⟩, hfails⟩ := ih.mp hlater
        exact ⟨provisional, ⟨count + 1, Nat.succ_lt_succ hlt, .more hround hne hchanges⟩, hfails⟩
    · intro h
      obtain ⟨provisional, ⟨count, hlt, hchanges⟩, hfails⟩ := h
      cases hchanges with
      | none => exact Or.inl hfails
      | more hround hne hrest =>
        exact Or.inr ⟨_, hround, hne, ih.mpr ⟨provisional, ⟨_, Nat.lt_of_succ_lt_succ hlt, hrest⟩, hfails⟩⟩

/-- A round fails on a writer that reads the temporary, if the others have a first type. -/
theorem Scope.RoundFails.ne_nil {first provisional : StorageType}
    (h : scope.RoundFails resolved name types ownReaders provisional failure)
    (hjoin : StorageType.joinAll types = .ok first) : ownReaders ≠ [] := by
  intro hnil
  subst hnil
  cases h with
  | byReader hsplit => simp at hsplit
  | byTypes hown hjoin' =>
    cases hown
    rw [List.append_nil, hjoin] at hjoin'
    cases hjoin'

/-- What happens to a temporary once some of its writers have types. -/
theorem result_resolveOne_of_types
    (htry : (tryWriters (scope.contextWith resolved) name writers).result = .ok (some (types, ownReaders)))
    (hne : types ≠ []) :
    (resolveOne scope resolved (name, writers)).result =
      match StorageType.joinAll types with
      | .error cause => .error (.rejected cause none)
      | .ok first =>
        if ownReaders.isEmpty then .ok (some first)
        else (widen scope resolved name types ownReaders wideningRounds first).result := by
  rw [result_resolveOne, htry]
  cases types with
  | nil => exact absurd rfl hne
  | cons => rfl

/-- The inference of a temporary fails in one of these ways. -/
theorem resolveOne_eq_error_iff :
    (resolveOne scope resolved (name, writers)).result = .error failure ↔
      scope.Fails resolved name writers failure := by
  constructor
  · intro h
    rw [result_resolveOne] at h
    split at h
    · rename_i htry
      cases h
      obtain ⟨before, writer, after, hsplit, hbefore, cause, location, rfl, hfailure⟩ :=
        tryWriters_eq_error_iff.mp htry
      exact .byWriter hsplit hbefore hfailure
    · cases h
    · cases h
    · rename_i types ownReaders hne htry
      obtain ⟨hwriters, rfl, rfl⟩ := tryWriters_eq_some_iff.mp htry
      split at h
      · rename_i cause hjoin
        cases h
        exact .byTypes hwriters hne hjoin
      · rename_i first hjoin
        split at h
        · cases h
        · obtain ⟨provisional, ⟨count, hlt, hchanges⟩, hround⟩ := widen_eq_error_iff.mp h
          exact .byRound hwriters hjoin hlt hchanges hround
  · intro h
    cases h with
    | byWriter hsplit hbefore hfailure =>
      rw [result_resolveOne,
        tryWriters_eq_error_iff.mpr ⟨_, _, _, hsplit, hbefore, _, _, rfl, hfailure⟩]
    | byTypes hwriters hne hjoin =>
      rw [result_resolveOne_of_types (tryWriters_eq_some_iff.mpr ⟨hwriters, rfl, rfl⟩) hne, hjoin]
    | byRound hwriters hjoin hlt hchanges hround =>
      have hne : writers.filterMap (scope.contextWith resolved).type? ≠ [] := by
        intro hnil
        rw [hnil] at hjoin
        cases hjoin
      have hreaders := hround.ne_nil hjoin
      rw [result_resolveOne_of_types (tryWriters_eq_some_iff.mpr ⟨hwriters, rfl, rfl⟩) hne, hjoin]
      rw [← List.isEmpty_eq_false_iff] at hreaders
      simp only [hreaders, Bool.false_eq_true, if_false]
      exact widen_eq_error_iff.mpr ⟨_, ⟨_, hlt, hchanges⟩, hround⟩

/-- The inference of a temporary does not fail by a deferral. -/
theorem Scope.Fails.exists_rejected (h : scope.Fails resolved name writers failure) :
    ∃ cause location, failure = .rejected cause location := by
  cases h with
  | byWriter | byTypes => exact ⟨_, _, rfl⟩
  | byRound _ _ _ _ hround => cases hround <;> exact ⟨_, _, rfl⟩

/-- If no operation does, the inference of a temporary does not fail with unresolved temporaries. -/
theorem Scope.Fails.isHard (hops : ∀ writer ∈ writers, writer.ReducesBy (·.NeverUnresolved))
    (h : scope.Fails resolved name writers failure) : failure.IsHard := by
  cases h with
  | @byWriter before after writer _ _ hsplit _ hfailure =>
    exact ⟨_, _, isUnresolved_of_infer (hops writer (by simp [hsplit])) hfailure, rfl⟩
  | byTypes _ _ hjoin => exact ⟨_, _, isUnresolved_of_joinAll hjoin, rfl⟩
  | byRound _ _ _ _ hround =>
    cases hround with
    | @byReader before after reader _ _ hsplit _ hfailure =>
      have hreader : reader ∈ writers.filter ((scope.contextWith resolved).defersOn name) := by simp [hsplit]
      exact ⟨_, _, isUnresolved_of_infer (hops reader (List.mem_filter.mp hreader).1) hfailure, rfl⟩
    | byTypes _ hjoin => exact ⟨_, _, isUnresolved_of_joinAll hjoin, rfl⟩

theorem isHard_of_resolveOne_eq_error (hops : ∀ writer ∈ writers, writer.ReducesBy (·.NeverUnresolved))
    (h : (resolveOne scope resolved (name, writers)).result = .error failure) : failure.IsHard :=
  (resolveOne_eq_error_iff.mp h).isHard hops

end Failing

end StorageTyping
