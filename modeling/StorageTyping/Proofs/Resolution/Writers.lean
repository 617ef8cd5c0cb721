import StorageTyping.Proofs.Stability

/-!
# The writers of a temporary

Each writer of a temporary has a type, or waits for the temporary itself, or waits for another
name, or fails. Writers of the first two kinds split into types and own readers
(`tryWriters_eq_some_iff`); one of the third kind puts the temporary off.

An answer, a split or a failure, stays the same when more temporaries have types
(`tryWriters_persists`); only the absence of an answer may change.
-/

namespace StorageTyping

/-- An answer is kept, unless there was none yet. -/
def Persists {α : Type} (before after : Except Failure (Option α)) : Prop :=
  before = .ok none ∨ after = before

/-- A failure that ends a resolution, other than that temporaries are unresolved. -/
def Failure.IsHard (failure : Failure) : Prop :=
  ∃ (cause : Cause) (location : Option String),
    cause.isUnresolved = false ∧ failure = .rejected cause location

namespace Context

/-- Whether the inference of an expression defers on a name. -/
def defersOn (context : Context) (name : String) (expr : Expr) : Bool :=
  match (infer context expr).result with
  | .ok _ => false
  | .error failure => failure.blockingName? = some name

theorem defersOn_iff {context : Context} {name : String} {expr : Expr} :
    context.defersOn name expr = true ↔
      ∃ role, (infer context expr).result = .error (.waiting name role) := by
  unfold defersOn
  cases (infer context expr).result with
  | ok type => simp
  | error failure => cases failure <;> simp [Failure.blockingName?]

end Context

theorem map_eq_some_iff {α β : Type} {answer : Except Failure (Option α)} {f : α → β} {b : β} :
    answer.map (·.map f) = .ok (some b) ↔ ∃ a, answer = .ok (some a) ∧ f a = b := by
  rcases answer with failure | (_ | a) <;> simp [Except.map]

theorem map_eq_error_iff {α β : Type} {answer : Except Failure α} {f : α → β} {failure : Failure} :
    answer.map f = .error failure ↔ answer = .error failure := by
  cases answer <;> simp [Except.map]

/-- How a writer is dealt with, and the writers after it. -/
theorem result_tryWriters_cons (context : Context) (name : String) (writer : Expr) (rest : List Expr) :
    (tryWriters context name (writer :: rest)).result =
      match (infer context writer).result with
      | .ok type => (tryWriters context name rest).result.map
          (·.map fun (types, ownReaders) => (type :: types, ownReaders))
      | .error (.waiting blocking _) =>
        if blocking = name then (tryWriters context name rest).result.map
          (·.map fun (types, ownReaders) => (types, writer :: ownReaders))
        else .ok none
      | .error (.rejected cause location) => .error (.rejected cause location) := by
  rw [tryWriters, Logged.result_bind, Logged.result_outcome]
  cases (infer context writer).result with
  | ok type => simp [Except.bind]
  | error failure =>
    cases failure with
    | rejected cause location => rfl
    | waiting blocking role =>
      by_cases hname : blocking = name
      · simp [hname, Except.bind]
      · simp [hname, Except.bind, Except.map]

/-- The writers of a temporary split if each has a type or waits for the temporary. -/
theorem tryWriters_eq_some_iff {context : Context} {name : String} {writers : List Expr}
    {types : List StorageType} {ownReaders : List Expr} :
    (tryWriters context name writers).result = .ok (some (types, ownReaders)) ↔
      (∀ writer ∈ writers, (context.type? writer).isSome ∨ context.defersOn name writer = true) ∧
        types = writers.filterMap context.type? ∧
        ownReaders = writers.filter (context.defersOn name) := by
  induction writers generalizing types ownReaders with
  | nil =>
    simp only [tryWriters, Logged.result_pure, Except.ok.injEq, Option.some.injEq, Prod.mk.injEq,
      List.not_mem_nil, false_implies, implies_true, true_and, List.filterMap_nil, List.filter_nil]
    exact and_congr eq_comm eq_comm
  | cons writer rest ih =>
    rw [result_tryWriters_cons, List.filterMap_cons, List.filter_cons, List.forall_mem_cons]
    cases hwriter : (infer context writer).result with
    | ok type =>
      have htype : context.type? writer = some type := Context.type?_eq_some_iff.mpr hwriter
      have hdefers : context.defersOn name writer = false := by simp [Context.defersOn, hwriter]
      simp only [map_eq_some_iff, Prod.exists, ih, Prod.mk.injEq, htype, hdefers, Option.isSome_some,
        true_or, true_and, Bool.false_eq_true, if_false]
      grind
    | error failure =>
      have htype : context.type? writer = none := Context.type?_eq_none_iff.mpr ⟨failure, hwriter⟩
      cases failure with
      | rejected cause location =>
        have hdefers : context.defersOn name writer = false := by
          simp [Context.defersOn, hwriter, Failure.blockingName?]
        simp [htype, hdefers]
      | waiting blocking role =>
        by_cases hname : blocking = name
        · have hdefers : context.defersOn name writer = true :=
            Context.defersOn_iff.mpr ⟨role, hname ▸ hwriter⟩
          simp only [hname, if_true, map_eq_some_iff, Prod.exists, ih, Prod.mk.injEq, htype, hdefers,
            or_true, true_and]
          grind
        · have hdefers : context.defersOn name writer = false := by
            simp [Context.defersOn, hwriter, Failure.blockingName?, hname]
          simp [hname, htype, hdefers]

/-- All writers have types or wait for the temporary, or there is a first one that fails in another way. -/
theorem forall_or_exists_first (context : Context) (name : String) (writers : List Expr) :
    (∀ writer ∈ writers, (context.type? writer).isSome ∨ context.defersOn name writer = true) ∨
      ∃ before writer after failure, writers = before ++ writer :: after ∧
        (∀ earlier ∈ before, (context.type? earlier).isSome ∨ context.defersOn name earlier = true) ∧
          (infer context writer).result = .error failure ∧ failure.blockingName? ≠ some name := by
  induction writers with
  | nil => exact Or.inl (List.forall_mem_nil _)
  | cons writer rest ih =>
    by_cases hwriter : (context.type? writer).isSome ∨ context.defersOn name writer = true
    · refine ih.imp (fun hrest => List.forall_mem_cons.mpr ⟨hwriter, hrest⟩) fun hfirst => ?_
      obtain ⟨before, other, after, failure, rfl, hbefore, hfailure⟩ := hfirst
      exact ⟨writer :: before, other, after, failure, rfl, List.forall_mem_cons.mpr ⟨hwriter, hbefore⟩,
        hfailure⟩
    · obtain ⟨huntyped, hdefers⟩ := not_or.mp hwriter
      cases hresult : (infer context writer).result with
      | ok type => exact absurd (by simp [Context.type?_eq_some_iff.mpr hresult]) huntyped
      | error failure =>
        refine Or.inr ⟨[], writer, rest, failure, rfl, List.forall_mem_nil _, hresult, fun hblocking => ?_⟩
        exact hdefers (by simp [Context.defersOn, hresult, hblocking])

/-- The first writer that fails in another way than by waiting for the temporary ends the attempt. -/
theorem result_tryWriters_of_first {context : Context} {name : String} {before after : List Expr}
    {writer : Expr} {failure : Failure}
    (hbefore : ∀ earlier ∈ before, (context.type? earlier).isSome ∨ context.defersOn name earlier = true)
    (hfailure : (infer context writer).result = .error failure)
    (hblocking : failure.blockingName? ≠ some name) :
    (tryWriters context name (before ++ writer :: after)).result =
      if failure.isDeferral then .ok none else .error failure := by
  induction before with
  | nil =>
    rw [List.nil_append, result_tryWriters_cons, hfailure]
    cases failure with
    | waiting other role => exact if_neg fun hname => hblocking (congrArg some hname)
    | rejected cause location => rfl
  | cons first before ih =>
    obtain ⟨hfirst, hbefore⟩ := List.forall_mem_cons.mp hbefore
    rw [List.cons_append, result_tryWriters_cons, ih hbefore]
    rcases hfirst with htyped | hdefers
    · obtain ⟨type, htype⟩ := Option.isSome_iff_exists.mp htyped
      rw [Context.type?_eq_some_iff.mp htype]
      cases failure <;> rfl
    · obtain ⟨role, hwaiting⟩ := Context.defersOn_iff.mp hdefers
      rw [hwaiting]
      cases failure <;> exact if_pos rfl

/-- Writers are left without an answer if one of them waits for another name, and those before it have
types or wait for the temporary. -/
theorem tryWriters_eq_none_iff {context : Context} {name : String} {writers : List Expr} :
    (tryWriters context name writers).result = .ok none ↔
      ∃ before writer after, writers = before ++ writer :: after ∧
        (∀ earlier ∈ before, (context.type? earlier).isSome ∨ context.defersOn name earlier = true) ∧
          ∃ blocking role, blocking ≠ name ∧
            (infer context writer).result = .error (.waiting blocking role) := by
  constructor
  · intro h
    rcases forall_or_exists_first context name writers with hall | hfirst
    · cases (tryWriters_eq_some_iff.mpr ⟨hall, rfl, rfl⟩).symm.trans h
    · obtain ⟨before, writer, after, failure, rfl, hbefore, hfailure, hblocking⟩ := hfirst
      rw [result_tryWriters_of_first hbefore hfailure hblocking] at h
      cases failure with
      | rejected cause location => cases h
      | waiting other role =>
        have hne : other ≠ name := fun hname => hblocking (congrArg some hname)
        exact ⟨before, writer, after, rfl, hbefore, other, role, hne, hfailure⟩
  · intro h
    obtain ⟨before, writer, after, rfl, hbefore, blocking, role, hne, hwaiting⟩ := h
    exact result_tryWriters_of_first hbefore hwaiting fun hblocking => hne (Option.some.inj hblocking)

/-- Writers fail as one of them does for good, if those before it have types or wait for the temporary. -/
theorem tryWriters_eq_error_iff {context : Context} {name : String} {writers : List Expr}
    {failure : Failure} :
    (tryWriters context name writers).result = .error failure ↔
      ∃ before writer after, writers = before ++ writer :: after ∧
        (∀ earlier ∈ before, (context.type? earlier).isSome ∨ context.defersOn name earlier = true) ∧
          ∃ cause location, failure = .rejected cause location ∧
            (infer context writer).result = .error failure := by
  constructor
  · intro h
    rcases forall_or_exists_first context name writers with hall | hfirst
    · cases (tryWriters_eq_some_iff.mpr ⟨hall, rfl, rfl⟩).symm.trans h
    · obtain ⟨before, writer, after, found, rfl, hbefore, hfailure, hblocking⟩ := hfirst
      rw [result_tryWriters_of_first hbefore hfailure hblocking] at h
      cases found with
      | waiting other role => cases h
      | rejected cause location =>
        cases h
        exact ⟨before, writer, after, rfl, hbefore, cause, location, rfl, hfailure⟩
  · intro h
    obtain ⟨before, writer, after, rfl, hbefore, cause, location, rfl, hfailure⟩ := h
    exact result_tryWriters_of_first hbefore hfailure nofun

/-- The answer of writers is kept in a larger context in which their own name is as it was. -/
theorem tryWriters_persists {large small : Context} {name : String}
    (hname : large.standing name = small.standing name) {writers : List Expr}
    (h : ∀ writer ∈ writers, large.Extends small (· ∈ writer.reads)) :
    Persists (tryWriters small name writers).result (tryWriters large name writers).result := by
  induction writers with
  | nil => exact Or.inr rfl
  | cons writer rest ih =>
    obtain ⟨h, hothers⟩ := List.forall_mem_cons.mp h
    have hrest (f : List StorageType × List Expr → List StorageType × List Expr) :
        Persists ((tryWriters small name rest).result.map (·.map f))
          ((tryWriters large name rest).result.map (·.map f)) := by
      rcases ih hothers with hnone | hsame
      · exact Or.inl (by rw [hnone]; rfl)
      · exact Or.inr (by rw [hsame])
    rw [result_tryWriters_cons, result_tryWriters_cons]
    cases hwriter : (infer small writer).result with
    | ok type =>
      rw [infer_eq_ok_of_extends h hwriter]
      exact hrest _
    | error failure =>
      cases failure with
      | rejected cause location =>
        rw [infer_eq_rejected_of_extends h hwriter]
        exact Or.inr rfl
      | waiting blocking role =>
        by_cases hblocking : blocking = name
        · subst hblocking
          rw [infer_eq_waiting_of_extends h hwriter hname]
          simpa using hrest _
        · exact Or.inl (by simp [hblocking])

/-- The writers that read their own temporary are inferred as operands are, with a deferral as the
absence of an answer. -/
theorem result_tryOwnReaders (context : Context) (writers : List Expr) :
    (tryOwnReaders context writers).result =
      match (inferAll context writers).result with
      | .ok types => .ok (some types)
      | .error (.waiting ..) => .ok none
      | .error (.rejected cause location) => .error (.rejected cause location) := by
  induction writers with
  | nil => rfl
  | cons writer rest ih =>
    rw [tryOwnReaders, inferAll, Logged.result_bind, Logged.result_bind, Logged.result_outcome]
    cases (infer context writer).result with
    | error failure => cases failure <;> rfl
    | ok type =>
      simp only [Except.bind, bind_pure_comp, Logged.result_map, ih]
      rcases (inferAll context rest).result with (_ | _) | types <;> rfl

end StorageTyping
