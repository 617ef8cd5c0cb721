import Mathlib.Data.List.Sort
import StorageTyping.Proofs.Declarations
import StorageTyping.Proofs.Resolution.Consistency

/-!
# Committing a resolution

The types that a resolution finds can be kept pending, or be recorded in the scope. Inference should not
see the difference, and with one exception it does not: with types committed a name stands for what it
stands for with them pending, whatever else is pending (`Scope.standing_commit`). The exception is the
name of an argument, because a pending type is put before an argument and that of a temporary after it
(`Scope.Shadows`).

A resolution can therefore rely on its own outcome (`Scope.commit_agrees_of_resolve`). Once it is
committed there is nothing left to resolve, and every expression that reads no shadowed argument is
inferred as with the types pending.
-/

namespace StorageTyping

namespace Scope

/-- A pending type is put before an argument of the same name that has another type or none. -/
structure Shadows (scope : Scope) (types : Table StorageType) (name : String) : Prop where
  notIndex : scope.isIndex name = false
  notSymbol : scope.symbol? name = none
  differs : ∃ type type?, types.find? name = some type ∧ scope.arguments.find? name = some type? ∧
    type? ≠ some type

/-- Entries in ascending order are recorded for the declared temporaries, and nothing else changes. -/
theorem foldl_setTemporary_spec {entries : List (String × StorageType)}
    (hascending : entries.Pairwise fun a b => a.1 < b.1) (scope : Scope) :
    ∃ temporaries, entries.foldl (fun scope entry => scope.setTemporary entry.1 entry.2) scope =
        { scope with temporaries := temporaries } ∧
      ∀ name, temporaries.find? name =
        (scope.temporaries.find? name).map fun type? => (Table.lookup name entries).or type? := by
  induction entries generalizing scope with
  | nil => exact ⟨scope.temporaries, rfl, fun name => by simp [Table.lookup]⟩
  | cons entry rest ih =>
    obtain ⟨hhead, htail⟩ := List.pairwise_cons.mp hascending
    obtain ⟨first, hfirst, hfirstTypes⟩ := scope.setTemporary_spec entry.1 entry.2
    obtain ⟨temporaries, hrest, hrestTypes⟩ := ih htail { scope with temporaries := first }
    refine ⟨temporaries, by rw [List.foldl_cons, hfirst, hrest], fun name => ?_⟩
    rw [hrestTypes, hfirstTypes, Option.map_map, Table.lookup]
    by_cases hname : entry.1 = name
    · simp [hname, Table.lookup_eq_none_of_lt (hname ▸ hhead), Function.comp_def]
    · simp [hname, Function.comp_def]

/-- Types are recorded for the declared temporaries, and nothing else changes. -/
theorem commit_spec (scope : Scope) (types : Table StorageType) :
    ∃ temporaries, scope.commit types = { scope with temporaries := temporaries } ∧
      ∀ name, temporaries.find? name =
        (scope.temporaries.find? name).map fun type? => (types.find? name).or type? :=
  foldl_setTemporary_spec types.ascending scope

section Committed

variable {scope : Scope} {types more : Table StorageType} {name : String}

@[simp] theorem indexType_commit : (scope.commit types).indexType = scope.indexType := by
  obtain ⟨_, hcommit, -⟩ := scope.commit_spec types
  rw [hcommit]

@[simp] theorem isIndex_commit : (scope.commit types).isIndex name = scope.isIndex name := by
  obtain ⟨_, hcommit, -⟩ := scope.commit_spec types
  rw [hcommit]
  rfl

@[simp] theorem symbol?_commit : (scope.commit types).symbol? name = scope.symbol? name := by
  obtain ⟨_, hcommit, -⟩ := scope.commit_spec types
  rw [hcommit]
  rfl

@[simp] theorem arguments_commit : (scope.commit types).arguments = scope.arguments := by
  obtain ⟨_, hcommit, -⟩ := scope.commit_spec types
  rw [hcommit]

@[simp] theorem target_commit : (scope.commit types).target = scope.target := by
  obtain ⟨_, hcommit, -⟩ := scope.commit_spec types
  rw [hcommit]

@[simp] theorem function?_commit (arguments : List StorageType) :
    (scope.commit types).function? name arguments = scope.function? name arguments := by
  obtain ⟨_, hcommit, -⟩ := scope.commit_spec types
  rw [hcommit]
  rfl

@[simp] theorem find?_temporaries_commit : (scope.commit types).temporaries.find? name =
    (scope.temporaries.find? name).map fun type? => (types.find? name).or type? := by
  obtain ⟨_, hcommit, htemporaries⟩ := scope.commit_spec types
  rw [hcommit, htemporaries]

/-- Once types are committed, a temporary is without a type if it was and they do not determine it. -/
theorem isUntypedTemporary_commit_iff :
    (scope.commit types).isUntypedTemporary name = true ↔
      scope.isUntypedTemporary name = true ∧ types.find? name = none := by
  simp only [isUntypedTemporary, find?_temporaries_commit, decide_eq_true_eq]
  cases scope.temporaries.find? name <;> cases types.find? name <;> simp

/-- An argument that is not shadowed by a pending type has this type. -/
theorem eq_of_not_shadows (hindex : scope.isIndex name = false) (hsymbol : scope.symbol? name = none)
    {type : StorageType} {type? : Option StorageType} (htype : types.find? name = some type)
    (hargument : scope.arguments.find? name = some type?) (h : ¬ scope.Shadows types name) :
    type? = some type := by
  by_contra hne
  exact h ⟨hindex, hsymbol, type, type?, htype, hargument, hne⟩

/-- A name stands for the same with types committed as with them pending, unless they shadow an argument of
this name. -/
theorem standing_commit (hdeclared : (types.find? name).isSome → (scope.temporaries.find? name).isSome)
    (hkept : more.find? name = none → ¬ scope.Shadows types name) :
    ((scope.commit types).contextWith more).standing name =
      (scope.contextWith (types.overlay more)).standing name := by
  simp only [contextWith, context, standing, indexType_commit, isIndex_commit, symbol?_commit]
  split
  · rfl
  · rename_i hindex
    split
    · rfl
    · rename_i hsymbol
      simp only [declaration?, arguments_commit, find?_temporaries_commit, Table.find?_map, Table.find?_overlay]
      cases hmore : more.find? name with
      | some type => rfl
      | none =>
        cases htype : types.find? name with
        | none => simp
        | some type =>
          obtain ⟨declared, hdeclared⟩ := Option.isSome_iff_exists.mp (hdeclared (by simp [htype]))
          cases hargument : scope.arguments.find? name with
          | none => simp [hdeclared]
          | some type? =>
            obtain rfl := eq_of_not_shadows (by simpa using hindex) hsymbol htype hargument (hkept hmore)
            simp [Standing.ofDeclaration?]

/-- A name with a shadowed argument has a pending type, which it loses when the types are committed. -/
theorem Shadows.exists_known (h : scope.Shadows types name) :
    ∃ type, (scope.contextWith types).standing name = .known type ∧
      ((scope.commit types).contextWith .empty).standing name ≠ .known type := by
  obtain ⟨hindex, hsymbol, type, type?, htype, hargument, hne⟩ := h
  refine ⟨type, ?_, ?_⟩
  · simp [contextWith, context, standing, hindex, hsymbol, declaration?, htype, Standing.ofDeclaration?]
  · have hcommitted : ((scope.commit types).contextWith .empty).standing name =
        .ofDeclaration? (some ⟨.argument, type?⟩) := by
      simp [contextWith, context, standing, hindex, hsymbol, declaration?, hargument]
    rw [hcommitted]
    cases type? with
    | none => simp [Standing.ofDeclaration?]
    | some other => simpa [Standing.ofDeclaration?] using hne

theorem callType?_commit (scope : Scope) (types more : Table StorageType) :
    ((scope.commit types).contextWith more).callType? = (scope.contextWith (types.overlay more)).callType? := by
  funext name arguments
  simp [contextWith, context]

/-- An expression is inferred alike with types committed and with them pending, unless it reads a name for
which they shadow an argument. -/
theorem infer_commit (hdeclared : ∀ name, (types.find? name).isSome → (scope.temporaries.find? name).isSome)
    {expr : Expr} (hkept : ∀ name ∈ expr.reads, more.find? name = none → ¬ scope.Shadows types name) :
    StorageTyping.infer ((scope.commit types).contextWith more) expr =
      StorageTyping.infer (scope.contextWith (types.overlay more)) expr :=
  infer_congr (callType?_commit scope types more) target_commit expr fun name hname =>
    standing_commit (hdeclared name) (hkept name hname)

/-- If no argument is shadowed, the surroundings are the same with types committed and with them pending. -/
theorem contextWith_commit
    (hdeclared : ∀ name, (types.find? name).isSome → (scope.temporaries.find? name).isSome)
    (hkept : ∀ name, ¬ scope.Shadows types name) :
    (scope.commit types).contextWith more = scope.contextWith (types.overlay more) := by
  have hstanding : ((scope.commit types).contextWith more).standing =
      (scope.contextWith (types.overlay more)).standing := by
    funext name
    exact standing_commit (hdeclared name) fun _ => hkept name
  simp only [contextWith, context, Context.mk.injEq] at hstanding ⊢
  exact ⟨hstanding, callType?_commit scope types more, target_commit⟩

end Committed

section Resolved

variable {scope : Scope} {writes : List (String × Expr)} {types : Table StorageType} {name : String}

/-- A resolution finds types for temporaries without a type. -/
theorem isUntypedTemporary_of_resolve (h : (scope.resolve writes).result = .ok types)
    (hsome : (types.find? name).isSome) : scope.isUntypedTemporary name = true := by
  obtain ⟨type, htype⟩ := Option.isSome_iff_exists.mp hsome
  exact (reached_of_resolve_eq_ok h).1.isUntypedTemporary htype

theorem isSome_find?_temporaries_of_resolve (h : (scope.resolve writes).result = .ok types)
    (hsome : (types.find? name).isSome) : (scope.temporaries.find? name).isSome := by
  have huntyped := isUntypedTemporary_of_resolve h hsome
  rw [isUntypedTemporary, decide_eq_true_eq] at huntyped
  simp [huntyped]

/-- Once types are committed, the temporaries without a type are those that they do not determine. -/
theorem untypedTemporaries_commit (scope : Scope) (types : Table StorageType) :
    (scope.commit types).untypedTemporaries =
      scope.untypedTemporaries.filter fun name => (types.find? name).isNone := by
  apply List.Pairwise.eq_of_mem_iff (Table.pairwise_namesWhere _ _)
    ((Table.pairwise_namesWhere _ _).filter _)
  intro name
  simp only [List.mem_filter, Table.mem_namesWhere_iff, find?_temporaries_commit]
  cases scope.temporaries.find? name <;> cases types.find? name <;> simp

/-- With its outcome committed a resolution has no temporary left to try. -/
theorem writers_commit_of_resolve (h : (scope.resolve writes).result = .ok types) :
    (scope.commit types).writers writes = .empty := by
  apply Table.ext_find?
  intro name
  rw [find?_writers, Table.find?_empty, if_neg]
  intro hwritten
  obtain ⟨hcommitted, hne⟩ := hwritten
  obtain ⟨huntyped, hnone⟩ := isUntypedTemporary_commit_iff.mp hcommitted
  have hsome := (reached_of_resolve_eq_ok h).2 _ (mem_entries_writers_iff.mpr ⟨huntyped, rfl, hne⟩)
  simp [hnone] at hsome

/-- What is resolved after a commitment has no type in it. -/
theorem find?_eq_none_of_resolve_commit {more : Table StorageType}
    (h : ((scope.commit types).resolve writes).result = .ok more) (hsome : (more.find? name).isSome) :
    types.find? name = none :=
  (isUntypedTemporary_commit_iff.mp (isUntypedTemporary_of_resolve h hsome)).2

/-- With the types that a resolution finds committed, their names are no longer to be inferred, and there is
nothing left to resolve. An expression is inferred as with the types pending, with the same log, unless
it reads an argument that they shadow, whatever the operations of its reductions do. A use of such an
argument is inferred differently. -/
theorem commit_agrees_of_resolve (h : (scope.resolve writes).result = .ok types) :
    (scope.commit types).untypedTemporaries =
        scope.untypedTemporaries.filter (fun name => (types.find? name).isNone) ∧
      ((scope.commit types).resolve writes).result = .ok .empty ∧
        (∀ expr : Expr, (∀ name ∈ expr.reads, ¬ scope.Shadows types name) →
          (scope.commit types).infer .empty expr =
            scope.infer (types.map fun type => ⟨.temporary, some type⟩) expr) ∧
          ∀ name tag, scope.Shadows types name →
            ((scope.commit types).infer .empty (.reference name tag)).result ≠
              (scope.infer (types.map fun type => ⟨.temporary, some type⟩) (.reference name tag)).result := by
  refine ⟨untypedTemporaries_commit scope types, ?_, fun expr hexpr => ?_, fun name tag hshadows => ?_⟩
  · rw [resolve, writers_commit_of_resolve h]
    exact result_settle_nil _ _ _
  · have hinfer : StorageTyping.infer ((scope.commit types).contextWith .empty) expr =
        StorageTyping.infer (scope.contextWith (types.overlay .empty)) expr :=
      infer_commit (fun _ => isSome_find?_temporaries_of_resolve h) fun name hname _ => hexpr name hname
    rw [Table.overlay_empty] at hinfer
    exact hinfer
  · obtain ⟨type, hpending, hcommitted⟩ := hshadows.exists_known
    intro hsame
    apply hcommitted
    apply infer_reference_eq_ok_iff.mp
    exact hsame.trans (infer_reference_eq_ok_iff.mpr hpending)

end Resolved

end Scope

/-- Once the types of the dot product are committed, none of its temporaries is left without one, and the
sum of its accumulator and its argument is inferred as it was with them pending. -/
theorem commit_agrees_of_resolve_dotProduct :
    (dotProductScope.resolve dotProductWrites).result = .ok dotProductTypes ∧
      (dotProductScope.commit dotProductTypes).untypedTemporaries = [] ∧
        ((dotProductScope.commit dotProductTypes).resolve dotProductWrites).result = .ok .empty ∧
          ((dotProductScope.commit dotProductTypes).infer .empty
            (.accumulation .sum [.reference "sum" none, .reference "b" none])).result =
              .ok (.scalar .float64) := by
  obtain ⟨huntyped, hresolve, hinfer, -⟩ := Scope.commit_agrees_of_resolve resolve_dotProduct
  refine ⟨resolve_dotProduct, ?_, hresolve, ?_⟩
  · rw [huntyped]
    decide +kernel
  · rw [hinfer]
    · decide +kernel
    · intro name hname hshadows
      obtain ⟨type, type?, htype, hargument, -⟩ := hshadows.differs
      obtain rfl | rfl : name = "sum" ∨ name = "b" := by
        simpa [Expr.reads, Expr.inspected, Expr.inspectedAll, Expr.usedName?] using hname
      · cases hargument
      · cases htype

/-- The types of the temporaries, one of which has the name of an argument. -/
def shadowingTypes : Table StorageType := .ofList [("s", .scalar .float64), ("t", .scalar .int32)]

/-- A temporary with the name of an argument has its own type while it is pending, and the argument's once
it is committed. -/
theorem commit_differs_shadowing :
    (shadowingScope.resolve shadowingWrites).result = .ok shadowingTypes ∧
      (shadowingScope.infer (shadowingTypes.map fun type => ⟨.temporary, some type⟩)
          (.reference "t" none)).result = .ok (.scalar .int32) ∧
        ((shadowingScope.commit shadowingTypes).infer .empty (.reference "t" none)).result =
          .ok (.scalar .float64) := by
  refine ⟨?_, by decide +kernel, by decide +kernel⟩
  exact result_settle_of_some (.scalar .float64) (by decide +kernel) <|
    result_settle_of_some (.scalar .int32) (by decide +kernel) (result_settle_nil _ _ _)

end StorageTyping
