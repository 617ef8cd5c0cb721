import StorageTyping.Proofs.Resolution.Rounds

/-!
# The resolution of one temporary

`resolveOne_eq_some_iff` says what type a temporary gets: its writers either have a type or wait
for the temporary itself, the former give a first type, and this is changed round by round until
a round agrees with it or the rounds are used up. `resolveOne_eq_none_iff` says when it has to wait
(`Scope.Blocked`).

An answer, a type or a failure, stays the same when more temporaries have types
(`resolveOne_persists`).
-/

namespace StorageTyping

/-- Why a temporary has no type yet, with the types of some others known. -/
inductive Scope.Blocked (scope : Scope) (resolved : Table StorageType) (name : String)
    (writers : List Expr) : Prop
  /-- A writer waits for another name, and those before it have types or wait for the temporary. -/
  | byOther {before after : List Expr} {writer : Expr} {blocking : String} {role : Role}
      (hsplit : writers = before ++ writer :: after)
      (hbefore : ∀ earlier ∈ before, ((scope.contextWith resolved).type? earlier).isSome ∨
        (scope.contextWith resolved).defersOn name earlier = true)
      (hne : blocking ≠ name)
      (hwaiting : (StorageTyping.infer (scope.contextWith resolved) writer).result =
        .error (.waiting blocking role)) : Blocked scope resolved name writers
  /-- Every writer waits for the temporary itself. -/
  | byItself (hall : ∀ writer ∈ writers, (scope.contextWith resolved).defersOn name writer = true) :
      Blocked scope resolved name writers
  /-- Once the type that the other writers combine to is assumed for the temporary, one of those that
  wait for it still waits, and those before it have types. -/
  | underAssumption {first : StorageType} {before after : List Expr} {reader : Expr} {blocking : String}
      {role : Role}
      (hwriters : ∀ writer ∈ writers, ((scope.contextWith resolved).type? writer).isSome ∨
        (scope.contextWith resolved).defersOn name writer = true)
      (hjoin : StorageType.joinAll (writers.filterMap (scope.contextWith resolved).type?) = .ok first)
      (hsplit : writers.filter ((scope.contextWith resolved).defersOn name) = before ++ reader :: after)
      (hbefore : ∀ earlier ∈ before,
        ((scope.contextWith (resolved.insert name first)).type? earlier).isSome)
      (hwaiting : (StorageTyping.infer (scope.contextWith (resolved.insert name first)) reader).result =
        .error (.waiting blocking role)) : Blocked scope resolved name writers

section ResolveOne

variable {scope : Scope} {resolved : Table StorageType} {name : String} {writers : List Expr}

theorem result_resolveOne (scope : Scope) (resolved : Table StorageType) (name : String)
    (writers : List Expr) :
    (resolveOne scope resolved (name, writers)).result =
      match (tryWriters (scope.contextWith resolved) name writers).result with
      | .error failure => .error failure
      | .ok none => .ok none
      | .ok (some ([], _)) => .ok none
      | .ok (some (types, ownReaders)) =>
        match StorageType.joinAll types with
        | .error cause => .error (.rejected cause none)
        | .ok first =>
          if ownReaders.isEmpty then .ok (some first)
          else (widen scope resolved name types ownReaders wideningRounds first).result := by
  rw [resolveOne, Logged.result_bind]
  rcases (tryWriters (scope.contextWith resolved) name writers).result with
    failure | (_ | ⟨_ | ⟨type, types⟩, ownReaders⟩)
  · rfl
  · rfl
  · rfl
  · cases hjoin : StorageType.joinAll (type :: types) with
    | error cause => simp [Except.bind, hjoin, Logged.ofRule]
    | ok first => cases ownReaders <;> simp [Except.bind, Except.map, hjoin, Logged.ofRule, Logged.value]

/-- Without writers that read the temporary itself every round gives the first type. -/
theorem Scope.round_nil_iff {types : List StorageType} {assumed widened : StorageType} :
    scope.Round resolved name types [] assumed widened ↔ StorageType.joinAll types = .ok widened := by
  simp [Scope.Round, inferAll]

/-- A temporary gets the type that the rounds of widening lead to from the first type. -/
theorem resolveOne_eq_some_iff {type : StorageType} :
    (resolveOne scope resolved (name, writers)).result = .ok (some type) ↔
      ∃ types ownReaders first,
        (tryWriters (scope.contextWith resolved) name writers).result = .ok (some (types, ownReaders)) ∧
          StorageType.joinAll types = .ok first ∧
          ((∃ count < wideningRounds,
              Changes (scope.Round resolved name types ownReaders) count first type ∧
                scope.Round resolved name types ownReaders type type) ∨
            Changes (scope.Round resolved name types ownReaders) wideningRounds first type) := by
  rw [result_resolveOne]
  constructor
  · intro h
    split at h
    · cases h
    · cases h
    · cases h
    · rename_i types ownReaders _ htry
      split at h
      · cases h
      · rename_i first hjoin
        refine ⟨types, ownReaders, first, htry, hjoin, ?_⟩
        split at h
        · rename_i hempty
          cases h
          obtain rfl := List.isEmpty_iff.mp hempty
          exact Or.inl ⟨0, by decide, .none _, Scope.round_nil_iff.mpr hjoin⟩
        · exact widen_eq_some_iff.mp h
  · intro h
    obtain ⟨types, ownReaders, first, htry, hjoin, hrounds⟩ := h
    rw [htry]
    cases types with
    | nil => cases hjoin
    | cons head tail =>
      simp only [hjoin]
      cases ownReaders with
      | cons reader rest => simpa using widen_eq_some_iff.mpr hrounds
      | nil =>
        have hsame : type = first := by
          rcases hrounds with ⟨count, -, hchanges, hfinal⟩ | hchanges
          · exact Except.ok.inj ((Scope.round_nil_iff.mp hfinal).symm.trans hjoin)
          · cases hchanges with
            | more hround hne _ =>
              exact absurd (Except.ok.inj ((Scope.round_nil_iff.mp hround).symm.trans hjoin)) hne
        simp [hsame]

/-- If no operation waits, a temporary has to wait exactly if it is blocked. -/
theorem resolveOne_eq_none_iff (hops : ∀ writer ∈ writers, writer.ReducesBy (·.NeverWaits)) :
    (resolveOne scope resolved (name, writers)).result = .ok none ↔
      scope.Blocked resolved name writers := by
  have hownOps : ∀ reader ∈ writers.filter ((scope.contextWith resolved).defersOn name),
      reader.ReducesBy (·.NeverWaits) := fun reader hreader => hops reader (List.mem_filter.mp hreader).1
  rw [result_resolveOne]
  constructor
  · intro h
    split at h
    · cases h
    · rename_i htry
      obtain ⟨before, writer, after, hsplit, hbefore, blocking, role, hne, hwaiting⟩ :=
        tryWriters_eq_none_iff.mp htry
      exact .byOther hsplit hbefore hne hwaiting
    · rename_i ownReaders htry
      obtain ⟨hwriters, htypes, -⟩ := tryWriters_eq_some_iff.mp htry
      refine .byItself fun writer hwriter => (hwriters writer hwriter).resolve_left fun hsome => ?_
      obtain ⟨type, htype⟩ := Option.isSome_iff_exists.mp hsome
      exact List.not_mem_nil (htypes ▸ List.mem_filterMap.mpr ⟨writer, hwriter, htype⟩)
    · rename_i types ownReaders _ htry
      obtain ⟨hwriters, rfl, rfl⟩ := tryWriters_eq_some_iff.mp htry
      split at h
      · cases h
      · rename_i first hjoin
        split at h
        · cases h
        · obtain ⟨blocking, role, hreaders⟩ := (widen_eq_none_iff hownOps).mp h
          obtain ⟨before, reader, after, hsplit, hbefore, hwaiting⟩ := inferAll_eq_error_iff.mp hreaders
          exact .underAssumption hwriters hjoin hsplit hbefore hwaiting
  · intro h
    cases h with
    | byOther hsplit hbefore hne hwaiting =>
      rw [tryWriters_eq_none_iff.mpr ⟨_, _, _, hsplit, hbefore, _, _, hne, hwaiting⟩]
    | byItself hall =>
      have hnone : writers.filterMap (scope.contextWith resolved).type? = [] := by
        refine List.filterMap_eq_nil_iff.mpr fun writer hwriter => ?_
        obtain ⟨role, hwaiting⟩ := Context.defersOn_iff.mp (hall writer hwriter)
        exact Context.type?_eq_none_iff.mpr ⟨_, hwaiting⟩
      rw [tryWriters_eq_some_iff.mpr ⟨fun writer hwriter => Or.inr (hall writer hwriter), rfl, rfl⟩, hnone]
    | @underAssumption first before after reader blocking role hwriters hjoin hsplit hbefore hwaiting =>
      rw [tryWriters_eq_some_iff.mpr ⟨hwriters, rfl, rfl⟩]
      have hreaders := inferAll_eq_error_iff.mpr ⟨before, reader, after, hsplit, hbefore, hwaiting⟩
      have hreader : reader ∈ writers.filter ((scope.contextWith resolved).defersOn name) := by simp [hsplit]
      cases htypes : writers.filterMap (scope.contextWith resolved).type? with
      | nil => rfl
      | cons type types =>
        rw [htypes] at hjoin
        simp only [hjoin]
        rw [if_neg fun hempty => List.ne_nil_of_mem hreader (List.isEmpty_iff.mp hempty),
          show wideningRounds = 12 + 1 by decide]
        exact (widen_eq_none_iff hownOps).mpr ⟨blocking, role, hreaders⟩

/-- The answer for a temporary is kept when more temporaries, but not it, have types. -/
theorem resolveOne_persists {reads : String → Prop} {larger : Table StorageType}
    (h : scope.Grows reads resolved larger) (hreads : ∀ writer ∈ writers, ∀ name ∈ writer.reads, reads name)
    (hresolved : resolved.find? name = none) (hlarger : larger.find? name = none) :
    Persists (resolveOne scope resolved (name, writers)).result
      (resolveOne scope larger (name, writers)).result := by
  rw [result_resolveOne, result_resolveOne]
  have hname : (scope.contextWith larger).standing name = (scope.contextWith resolved).standing name :=
    Scope.standing_contextWith_congr (hlarger.trans hresolved.symm)
  rcases tryWriters_persists hname fun writer hwriter => h.extends.mono (hreads writer hwriter) with
    hnone | hsame
  · exact Or.inl (by rw [hnone])
  · rw [hsame]
    split
    · exact Or.inr rfl
    · exact Or.inl rfl
    · exact Or.inl rfl
    · rename_i types ownReaders _ htry
      obtain ⟨-, -, rfl⟩ := tryWriters_eq_some_iff.mp htry
      split
      · exact Or.inr rfl
      · split
        · exact Or.inr rfl
        · exact widen_persists h (fun reader hreader => hreads reader (List.mem_filter.mp hreader).1) _ _

end ResolveOne

end StorageTyping
