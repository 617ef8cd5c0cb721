import StorageTyping.Proofs.Log
import StorageTyping.Resolution

/-!
# What a resolution reports

The inference of an expression reports names without a type and literals that do not fit, and nothing
else. The attempt to resolve a temporary reports these and also what it is put off for and how its type
is widened. That a temporary is resolved is not among them (`resolveOne_reportsOnly`): this is
reported once, by the run that the attempt belongs to.
-/

namespace StorageTyping

namespace Event

/-- Whether an event is about an expression, and not about a temporary to be resolved. -/
def isOfExpression : Event → Bool
  | .dependencyUnresolved .. | .literalDropped .. => true
  | .resolved .. | .deferring .. | .widening .. => false

/-- The temporary that an event reports as resolved, with its type. -/
def resolution? : Event → Option (String × StorageType)
  | .resolved name type => some (name, type)
  | _ => none

theorem resolution?_of_isOfExpression {event : Event} (h : event.isOfExpression = true) :
    event.resolution? = none := by
  cases event <;> first | rfl | cases h

end Event

namespace Logged

variable {α β : Type} {condition : Event → Prop}

/-- All events of a computation meet a condition. -/
def ReportsOnly (condition : Event → Prop) (computation : Logged α) : Prop :=
  ∀ event ∈ computation.events, condition event

theorem reportsOnly_pure (a : α) : (pure a : Logged α).ReportsOnly condition := by
  simp [ReportsOnly]

theorem reportsOnly_fail (failure : Failure) : (fail failure : Logged α).ReportsOnly condition := by
  simp [ReportsOnly, fail]

theorem reportsOnly_ofRule (location : Option String) (rule : Except Cause α) :
    (ofRule location rule).ReportsOnly condition := by
  cases rule <;> simp [ReportsOnly, ofRule, value, fail]

theorem reportsOnly_report {event : Event} (h : condition event) :
    (report event).ReportsOnly condition := by
  simpa [ReportsOnly, report] using h

/-- A sequence reports what its parts report. -/
theorem ReportsOnly.bind {first : Logged α} {next : α → Logged β} (hfirst : first.ReportsOnly condition)
    (hnext : ∀ a, (next a).ReportsOnly condition) : (first >>= next).ReportsOnly condition := by
  intro event hevent
  rw [events_bind, List.mem_append] at hevent
  rcases hevent with hevent | hevent
  · exact hfirst event hevent
  · cases hresult : first.result with
    | ok a =>
      rw [hresult] at hevent
      exact hnext a event hevent
    | error failure =>
      rw [hresult] at hevent
      cases hevent

/-- A failure that is dealt with leaves the events as they are. -/
theorem ReportsOnly.outcome {computation : Logged α} (h : computation.ReportsOnly condition) :
    computation.outcome.ReportsOnly condition := h

theorem ReportsOnly.imp {weaker : Event → Prop} {computation : Logged α}
    (h : computation.ReportsOnly condition) (himp : ∀ event, condition event → weaker event) :
    computation.ReportsOnly weaker :=
  fun event hevent => himp event (h event hevent)

end Logged

/-- A report on a sub-expression is that the type of a name is missing. -/
theorem exists_of_mem_firstReport {context : Context} {first? : Option Expr} {event : Event}
    (h : event ∈ context.firstReport first?) : ∃ name role, event = .dependencyUnresolved name role := by
  cases first? with
  | none => cases h
  | some sub =>
    unfold Context.firstReport Context.missingReport at h
    dsimp only [Option.elim_some] at h
    split at h
    · cases h
    · split at h
      · exact ⟨_, _, List.mem_singleton.mp h⟩
      · cases h

/-- The inference of an expression reports events about expressions only. -/
theorem infer_reportsOnly (context : Context) (expr : Expr) :
    (infer context expr).ReportsOnly (·.isOfExpression = true) := by
  intro event hevent
  rw [events_infer, List.mem_append] at hevent
  rcases hevent with hwarning | hreport
  · obtain ⟨_, _, _, -, -, -, _, -, -, rfl⟩ := exists_of_mem_warningsAmong hwarning
    rfl
  · obtain ⟨_, _, rfl⟩ := exists_of_mem_firstReport hreport
    rfl

/-- The inference of an expression does not report that a temporary is resolved. -/
theorem outcome_infer_reportsOnly (context : Context) (expr : Expr) :
    (infer context expr).outcome.ReportsOnly (·.resolution? = none) :=
  ((infer_reportsOnly context expr).imp fun _ => Event.resolution?_of_isOfExpression).outcome

theorem tryWriters_reportsOnly (context : Context) (name : String) (writers : List Expr) :
    (tryWriters context name writers).ReportsOnly (·.resolution? = none) := by
  induction writers with
  | nil => exact Logged.reportsOnly_pure _
  | cons writer rest ih =>
    rw [tryWriters]
    refine (outcome_infer_reportsOnly context writer).bind fun outcome => ?_
    split
    · exact ih.bind fun others => Logged.reportsOnly_pure _
    · split
      · exact ih.bind fun others => Logged.reportsOnly_pure _
      · exact (Logged.reportsOnly_report (by rfl)).bind fun _ => Logged.reportsOnly_pure none
    · exact Logged.reportsOnly_fail _

theorem tryOwnReaders_reportsOnly (context : Context) (writers : List Expr) :
    (tryOwnReaders context writers).ReportsOnly (·.resolution? = none) := by
  induction writers with
  | nil => exact Logged.reportsOnly_pure _
  | cons writer rest ih =>
    rw [tryOwnReaders]
    refine (outcome_infer_reportsOnly context writer).bind fun outcome => ?_
    split
    · exact ih.bind fun others => Logged.reportsOnly_pure _
    · exact Logged.reportsOnly_pure none
    · exact Logged.reportsOnly_fail _

theorem widen_reportsOnly (scope : Scope) (resolved : Table StorageType) (name : String)
    (types : List StorageType) (ownReaders : List Expr) (rounds : Nat) (assumed : StorageType) :
    (widen scope resolved name types ownReaders rounds assumed).ReportsOnly (·.resolution? = none) := by
  induction rounds generalizing assumed with
  | zero => exact Logged.reportsOnly_pure _
  | succ rounds ih =>
    rw [widen]
    refine (tryOwnReaders_reportsOnly _ ownReaders).bind fun ownTypes? => ?_
    split
    · exact Logged.reportsOnly_pure none
    · refine (Logged.reportsOnly_ofRule _ _).bind fun widened => ?_
      split
      · exact Logged.reportsOnly_pure _
      · exact (Logged.reportsOnly_report (by rfl)).bind fun _ => ih widened

/-- An attempt to resolve a temporary does not itself report that it is resolved. -/
theorem resolveOne_reportsOnly (scope : Scope) (resolved : Table StorageType) (written : Written) :
    (resolveOne scope resolved written).ReportsOnly (·.resolution? = none) := by
  unfold resolveOne
  refine (tryWriters_reportsOnly _ _ _).bind fun split? => ?_
  split
  · exact Logged.reportsOnly_pure none
  · exact Logged.reportsOnly_pure none
  · refine (Logged.reportsOnly_ofRule _ _).bind fun first => ?_
    split
    · exact Logged.reportsOnly_pure _
    · exact widen_reportsOnly _ _ _ _ _ _ _

end StorageTyping
