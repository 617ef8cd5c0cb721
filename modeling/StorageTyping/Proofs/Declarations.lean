import Mathlib.Data.List.Induction
import StorageTyping.Proofs.Tables
import StorageTyping.Scope.Basic

/-!
# Scopes as logs of declarations

A scope is built up from its settings by entering one declaration after the other, between which
temporaries may be given types. Its tables follow different rules: an index stays one, the last
declaration of an argument, a temporary or a constant counts, and the functions of a name accumulate.
`Scope.AnswersAs` reads the answers to all queries off the list of what was entered, without tables, and
`Scope.answersAs_ofLog` says that a scope gives these answers.
-/

namespace StorageTyping

/-- What is entered in a scope: a declaration, or a type for a temporary. -/
inductive Entry where
  | index (name : String)
  | argument (name : String) (type? : Option StorageType)
  | temporary (name : String) (type? : Option StorageType)
  | symbol (name : String) (type : StorageType)
  | function (name : String) (signature : Signature)
  | assignment (name : String) (type : StorageType)
deriving DecidableEq

namespace Entry

/-- What an entry declares as an argument of some name. -/
def argument? (name : String) : Entry → Option (Option StorageType)
  | .argument other type? => if other = name then some type? else none
  | _ => none

/-- What an entry declares as a temporary of some name. -/
def temporary? (name : String) : Entry → Option (Option StorageType)
  | .temporary other type? => if other = name then some type? else none
  | _ => none

/-- The constant of some name that an entry declares. -/
def symbol? (name : String) : Entry → Option Symbol
  | .symbol other type => if other = name then some ⟨name, type⟩ else none
  | _ => none

/-- The function of some name that an entry declares. -/
def function? (name : String) : Entry → Option Signature
  | .function other signature => if other = name then some signature else none
  | _ => none

/-- The type that an entry gives a temporary of some name. -/
def assignment? (name : String) : Entry → Option StorageType
  | .assignment other type => if other = name then some type else none
  | _ => none

theorem temporary?_eq_some_iff {name : String} {entry : Entry} {type? : Option StorageType} :
    entry.temporary? name = some type? ↔ entry = .temporary name type? := by
  cases entry <;> simp [temporary?]

end Entry

namespace Scope

/-- Enter a declaration, or the type of a temporary. -/
def enter (scope : Scope) : Entry → Scope
  | .index name => scope.declareIndex name
  | .argument name type? => scope.declareArgument name type?
  | .temporary name type? => scope.declareTemporary name type?
  | .symbol name type => scope.declareSymbol name type
  | .function name signature => scope.declareFunction name signature
  | .assignment name type => scope.setTemporary name type

/-- The scope in which some entries are made, in order. -/
def ofLog (settings : Settings) (log : List Entry) : Scope := log.foldl enter (ofSettings settings)

/-- What a scope answers if some entries were made in it, in order. -/
structure AnswersAs (scope : Scope) (settings : Settings) (log : List Entry) : Prop where
  isIndex : ∀ name, scope.isIndex name = true ↔ .index name ∈ log
  argument : ∀ name, scope.arguments.find? name = (log.filterMap (·.argument? name)).getLast?
  /-- A temporary is as it was declared last, with the type that it was given last since then. -/
  temporary : ∀ name type?, scope.temporaries.find? name = some type? ↔
    ∃ before declared after, log = before ++ .temporary name declared :: after ∧
      (∀ other, .temporary name other ∉ after) ∧
        type? = (after.filterMap (·.assignment? name)).getLast?.or declared
  symbol : ∀ name, scope.symbol? name = (log.filterMap (·.symbol? name)).getLast?.or
    (if settings.mathLibrary then MathLibrary.symbol? name else none)
  function : ∀ name arguments, scope.function? name arguments =
    ((log.filterMap (·.function? name)).find? fun signature => signature.arguments = arguments).or
      (if settings.mathLibrary then MathLibrary.function? name arguments else none)
  signature : ∀ name arguments signature, scope.function? name arguments = some signature →
    signature.arguments = arguments
  ascending : scope.untypedTemporaries.Pairwise (· < ·)
  untyped : ∀ name, name ∈ scope.untypedTemporaries ↔ scope.temporaries.find? name = some none

/-- A type is recorded for a declared temporary, and nothing else changes. -/
theorem setTemporary_spec (scope : Scope) (name : String) (type : StorageType) :
    ∃ temporaries, scope.setTemporary name type = { scope with temporaries := temporaries } ∧
      ∀ other, temporaries.find? other =
        (scope.temporaries.find? other).map fun type? => if name = other then some type else type? := by
  unfold setTemporary
  cases hdeclared : scope.temporaries.find? name with
  | none =>
    refine ⟨scope.temporaries, rfl, fun other => ?_⟩
    by_cases hname : name = other
    · rw [← hname, hdeclared]
      rfl
    · simp [hname]
  | some old =>
    refine ⟨_, rfl, fun other => ?_⟩
    by_cases hname : name = other
    · rw [Table.find?_insert, if_pos hname, ← hname, hdeclared]
      simp
    · simp [hname]

section Step

variable (scope : Scope) (entry : Entry) (name : String)

theorem isIndex_enter :
    (scope.enter entry).isIndex name = true ↔ scope.isIndex name = true ∨ entry = .index name := by
  cases entry with
  | index other => by_cases hname : other = name <;> simp [enter, declareIndex, isIndex, hname]
  | assignment other type =>
    obtain ⟨temporaries, hset, -⟩ := scope.setTemporary_spec other type
    simp [enter, hset, isIndex]
  | _ => simp [enter, declareArgument, declareTemporary, declareSymbol, declareFunction, isIndex]

theorem find?_arguments_enter :
    (scope.enter entry).arguments.find? name = (entry.argument? name).or (scope.arguments.find? name) := by
  cases entry with
  | argument other type? =>
    by_cases hname : other = name <;> simp [enter, declareArgument, Entry.argument?, hname]
  | assignment other type =>
    obtain ⟨temporaries, hset, -⟩ := scope.setTemporary_spec other type
    simp [enter, hset, Entry.argument?]
  | _ => rfl

theorem find?_symbols_enter :
    (scope.enter entry).symbols.find? name = (entry.symbol? name).or (scope.symbols.find? name) := by
  cases entry with
  | symbol other type =>
    by_cases hname : other = name <;> simp [enter, declareSymbol, Entry.symbol?, hname]
  | assignment other type =>
    obtain ⟨temporaries, hset, -⟩ := scope.setTemporary_spec other type
    simp [enter, hset, Entry.symbol?]
  | _ => rfl

theorem find?_functions_enter :
    ((scope.enter entry).functions.find? name).getD [] =
      (scope.functions.find? name).getD [] ++ (entry.function? name).toList := by
  cases entry with
  | function other signature =>
    by_cases hname : other = name <;> simp [enter, declareFunction, Entry.function?, hname]
  | assignment other type =>
    obtain ⟨temporaries, hset, -⟩ := scope.setTemporary_spec other type
    simp [enter, hset, Entry.function?]
  | _ => exact (List.append_nil _).symm

theorem find?_temporaries_enter :
    (scope.enter entry).temporaries.find? name = (entry.temporary? name).or
      ((scope.temporaries.find? name).map fun type? => (entry.assignment? name).or type?) := by
  cases entry with
  | temporary other type? =>
    by_cases hname : other = name <;>
      simp [enter, declareTemporary, Entry.temporary?, Entry.assignment?, hname]
  | assignment other type =>
    obtain ⟨temporaries, hset, htemporaries⟩ := scope.setTemporary_spec other type
    simp only [enter, hset, htemporaries]
    by_cases hname : other = name <;> simp [Entry.temporary?, Entry.assignment?, hname]
  | _ => exact Option.map_id'.symm

theorem mathLibrary_enter : (scope.enter entry).mathLibrary = scope.mathLibrary := by
  cases entry with
  | assignment other type =>
    obtain ⟨temporaries, hset, -⟩ := scope.setTemporary_spec other type
    rw [enter, hset]
  | _ => rfl

end Step

/-- What is declared again and again is as it was declared last. -/
theorem read_foldl_enter {α : Type} (read : Scope → Option α) (write : Entry → Option α)
    (hread : ∀ scope entry, read (scope.enter entry) = (write entry).or (read scope)) (scope : Scope)
    (log : List Entry) :
    read (log.foldl enter scope) = (log.filterMap write).getLast?.or (read scope) := by
  induction log using List.reverseRecOn with
  | nil => rfl
  | append_singleton log entry ih =>
    rw [List.foldl_append, List.foldl_cons, List.foldl_nil, hread, ih, List.filterMap_append,
      List.getLast?_append, Option.or_assoc]
    cases h : write entry <;> simp [h]

/-- A temporary that is not declared again has the type that it is given last. -/
theorem find?_temporaries_foldl_enter {log : List Entry} {name : String}
    (h : ∀ type?, .temporary name type? ∉ log) (scope : Scope) :
    (log.foldl enter scope).temporaries.find? name =
      (scope.temporaries.find? name).map fun type? =>
        (log.filterMap (·.assignment? name)).getLast?.or type? := by
  induction log using List.reverseRecOn with
  | nil => exact Option.map_id'.symm
  | append_singleton log entry ih =>
    have hentry : entry.temporary? name = none := by
      refine Option.eq_none_iff_forall_ne_some.mpr fun type? hsome => h type? ?_
      rw [Entry.temporary?_eq_some_iff.mp hsome]
      exact List.mem_append_right _ List.mem_cons_self
    rw [List.foldl_append, List.foldl_cons, List.foldl_nil, find?_temporaries_enter, hentry, Option.none_or,
      ih fun type? hmem => h type? (List.mem_append_left _ hmem), Option.map_map, List.filterMap_append,
      List.getLast?_append]
    cases hassigned : entry.assignment? name <;> simp [hassigned, Function.comp_def]

theorem functions_foldl_enter (scope : Scope) (log : List Entry) (name : String) :
    ((log.foldl enter scope).functions.find? name).getD [] =
      (scope.functions.find? name).getD [] ++ log.filterMap (·.function? name) := by
  induction log generalizing scope with
  | nil => exact (List.append_nil _).symm
  | cons entry rest ih =>
    rw [List.foldl_cons, ih, find?_functions_enter, List.append_assoc, List.filterMap_cons]
    cases entry.function? name <;> rfl

theorem mathLibrary_foldl_enter (scope : Scope) (log : List Entry) :
    (log.foldl enter scope).mathLibrary = scope.mathLibrary := by
  induction log generalizing scope with
  | nil => rfl
  | cons entry rest ih => rw [List.foldl_cons, ih, mathLibrary_enter]

theorem isIndex_foldl_enter (scope : Scope) (log : List Entry) (name : String) :
    (log.foldl enter scope).isIndex name = true ↔ scope.isIndex name = true ∨ .index name ∈ log := by
  induction log generalizing scope with
  | nil => simp
  | cons entry rest ih => rw [List.foldl_cons, ih, isIndex_enter, List.mem_cons, or_assoc, @eq_comm _ entry]

/-- A name is not declared as a temporary, or there is a last declaration of it. -/
theorem exists_last_temporary (name : String) (log : List Entry) :
    (∀ type?, .temporary name type? ∉ log) ∨
      ∃ before declared after, log = before ++ .temporary name declared :: after ∧
        ∀ type?, .temporary name type? ∉ after := by
  induction log with
  | nil => exact Or.inl fun _ => List.not_mem_nil
  | cons entry rest ih =>
    rcases ih with hnone | ⟨before, declared, after, rfl, hafter⟩
    · by_cases hentry : ∃ declared, entry = .temporary name declared
      · obtain ⟨declared, rfl⟩ := hentry
        exact Or.inr ⟨[], declared, rest, rfl, hnone⟩
      · refine Or.inl fun type? hmem => ?_
        rcases List.mem_cons.mp hmem with heq | hrest
        · exact hentry ⟨type?, heq.symm⟩
        · exact hnone type? hrest
    · exact Or.inr ⟨entry :: before, declared, after, rfl, hafter⟩

section Run

variable {settings : Settings} {log : List Entry} {name : String}

/-- What is not declared as a temporary is none. -/
theorem find?_temporaries_of_undeclared (h : ∀ type?, .temporary name type? ∉ log) :
    (ofLog settings log).temporaries.find? name = none := by
  rw [ofLog, find?_temporaries_foldl_enter h]
  rfl

/-- A temporary is as it was declared last, or has the type that it was given last since then. -/
theorem find?_temporaries_of_declared {before after : List Entry} (declared : Option StorageType)
    (h : ∀ type?, .temporary name type? ∉ after) :
    (ofLog settings (before ++ .temporary name declared :: after)).temporaries.find? name =
      some ((after.filterMap (·.assignment? name)).getLast?.or declared) := by
  rw [ofLog, List.foldl_append, List.foldl_cons, find?_temporaries_foldl_enter h]
  simp [enter, declareTemporary]

/-- A type for a name that is not declared as a temporary is of no account. -/
theorem ofLog_assignment_of_undeclared {before after : List Entry}
    (h : ∀ type?, .temporary name type? ∉ before) (type : StorageType) :
    ofLog settings (before ++ .assignment name type :: after) = ofLog settings (before ++ after) := by
  have hset : (ofLog settings before).setTemporary name type = ofLog settings before := by
    rw [setTemporary, find?_temporaries_of_undeclared h]
  rw [ofLog, List.foldl_append, List.foldl_cons]
  change after.foldl enter ((ofLog settings before).setTemporary name type) = _
  rw [hset, ofLog, ofLog, List.foldl_append]

/-- The answers of a scope can be read off the log of what was entered in it. -/
theorem answersAs_ofLog (settings : Settings) (log : List Entry) :
    (ofLog settings log).AnswersAs settings log where
  isIndex name := by
    rw [ofLog, isIndex_foldl_enter]
    simp [ofSettings, isIndex]
  argument name := by
    have hread := read_foldl_enter (·.arguments.find? name) (·.argument? name)
      (fun scope entry => find?_arguments_enter scope entry name) (ofSettings settings) log
    exact hread.trans Option.or_none
  temporary name type? := by
    constructor
    · intro hsome
      rcases exists_last_temporary name log with hnone | ⟨before, declared, after, rfl, hafter⟩
      · rw [find?_temporaries_of_undeclared hnone] at hsome
        cases hsome
      · rw [find?_temporaries_of_declared declared hafter] at hsome
        exact ⟨before, declared, after, rfl, hafter, (Option.some.inj hsome).symm⟩
    · intro hlast
      obtain ⟨before, declared, after, rfl, hafter, rfl⟩ := hlast
      exact find?_temporaries_of_declared declared hafter
  symbol name := by
    have hread := read_foldl_enter (·.symbols.find? name) (·.symbol? name)
      (fun scope entry => find?_symbols_enter scope entry name) (ofSettings settings) log
    rw [symbol?, ofLog, mathLibrary_foldl_enter]
    exact congrArg (Option.or · _) (hread.trans Option.or_none)
  function name arguments := by
    rw [function?, ofLog, functions_foldl_enter, mathLibrary_foldl_enter]
    rfl
  signature name arguments signature := arguments_of_function?
  ascending := (ofLog settings log).temporaries.pairwise_namesWhere _
  untyped name := by
    rw [untypedTemporaries, Table.mem_namesWhere_iff]
    constructor
    · intro hmem
      obtain ⟨type?, hsome, hnone⟩ := hmem
      rw [hsome, Option.isNone_iff_eq_none.mp hnone]
    · intro hsome
      exact ⟨none, hsome, rfl⟩

/-- A scope answers as the log of what was entered in it says, and a type that is set for a name that
is not declared as a temporary by then might as well not have been set. -/
theorem ofLog_answers (settings : Settings) (log : List Entry) :
    (ofLog settings log).AnswersAs settings log ∧
      ∀ before name type after, log = before ++ .assignment name type :: after →
        (∀ type?, .temporary name type? ∉ before) →
          ofLog settings log = ofLog settings (before ++ after) := by
  refine ⟨answersAs_ofLog settings log, fun before name type after hlog hundeclared => ?_⟩
  rw [hlog]
  exact ofLog_assignment_of_undeclared hundeclared type

end Run

-- A temporary that is declared again has lost the type that it was given.
example : (ofLog .default [.temporary "t" none, .assignment "t" (.scalar .float64),
    .temporary "t" none]).untypedTemporaries = ["t"] := by decide

end Scope

end StorageTyping
