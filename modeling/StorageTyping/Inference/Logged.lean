import StorageTyping.Inference.Event

/-!
# Answers with a log

A computation that reports events and then has a value or fails. What was reported before a
failure stays in the log, also when the failure is dealt with. `events_bind` and `result_bind`
say how computations are put in sequence; the result never depends on the log.
-/

namespace StorageTyping

/-- The events of a computation in order, and its value or the failure that ended it. -/
structure Logged (α : Type) where
  events : List Event
  result : Except Failure α

namespace Logged

variable {α β : Type}

/-- A value, without an event. -/
def value (a : α) : Logged α := ⟨[], .ok a⟩

/-- Go on with the value of a computation; a failure ends the whole. -/
def andThen (first : Logged α) (next : α → Logged β) : Logged β :=
  match first.result with
  | .ok a => ⟨first.events ++ (next a).events, (next a).result⟩
  | .error failure => ⟨first.events, .error failure⟩

instance : Monad Logged where
  pure := value
  bind := andThen

/-- Report an event. -/
def report (event : Event) : Logged Unit := ⟨[event], .ok ()⟩

/-- Report events in order. -/
def reportAll (events : List Event) : Logged Unit := ⟨events, .ok ()⟩

/-- Fail. -/
def fail (failure : Failure) : Logged α := ⟨[], .error failure⟩

/-- A result of a rule, its cause of failure placed at a location. -/
def ofRule (location : Option String) : Except Cause α → Logged α
  | .ok a => value a
  | .error cause => fail (.rejected cause location)

/-- An answer from elsewhere, its failure placed at a location unless it has a place. -/
def ofAnswer (location : String) : Except Failure α → Logged α
  | .ok a => value a
  | .error failure => fail (failure.locatedAt location)

/-- The outcome of a computation as a value, so that a failure can be dealt with. -/
def outcome (computation : Logged α) : Logged (Except Failure α) :=
  ⟨computation.events, .ok computation.result⟩

@[simp] theorem result_pure (a : α) : (pure a : Logged α).result = .ok a := rfl

@[simp] theorem events_pure (a : α) : (pure a : Logged α).events = [] := rfl

/-- The result of a sequence is the sequence of the results. -/
@[simp] theorem result_bind (first : Logged α) (next : α → Logged β) :
    (first >>= next).result = first.result.bind fun a => (next a).result := by
  change (andThen first next).result = _
  unfold andThen
  split <;> rename_i h <;> rw [h] <;> rfl

/-- The log of a sequence is the first log, and the second one unless the first part failed. -/
@[simp] theorem events_bind (first : Logged α) (next : α → Logged β) :
    (first >>= next).events =
      first.events ++ match first.result with
        | .ok a => (next a).events
        | .error _ => [] := by
  change (andThen first next).events = _
  unfold andThen
  split <;> simp

@[simp] theorem result_fail (failure : Failure) : (fail failure : Logged α).result = .error failure :=
  rfl

@[simp] theorem result_report (event : Event) : (report event).result = .ok () := rfl

@[simp] theorem result_reportAll (events : List Event) : (reportAll events).result = .ok () := rfl

/-- A rule gives its value. -/
@[simp] theorem result_ofRule_eq_ok_iff {location : Option String} {rule : Except Cause α} {a : α} :
    (ofRule location rule).result = .ok a ↔ rule = .ok a := by
  cases rule <;> simp [ofRule, value, fail]

/-- A rule fails with its cause, at the location. -/
@[simp] theorem result_ofRule_eq_error_iff {location : Option String} {rule : Except Cause α}
    {failure : Failure} :
    (ofRule location rule).result = .error failure ↔
      ∃ cause, rule = .error cause ∧ failure = .rejected cause location := by
  cases rule <;> simp [ofRule, value, fail, eq_comm]

/-- An answer from elsewhere gives its value. -/
@[simp] theorem result_ofAnswer_eq_ok_iff {location : String} {answer : Except Failure α} {a : α} :
    (ofAnswer location answer).result = .ok a ↔ answer = .ok a := by
  cases answer <;> simp [ofAnswer, value, fail]

/-- An answer from elsewhere fails with its failure, placed at the location unless it has a place. -/
@[simp] theorem result_ofAnswer_eq_error_iff {location : String} {answer : Except Failure α}
    {failure : Failure} :
    (ofAnswer location answer).result = .error failure ↔
      ∃ own, answer = .error own ∧ failure = own.locatedAt location := by
  cases answer <;> simp [ofAnswer, value, fail, eq_comm]

/-- An answer from elsewhere is given without an event. -/
@[simp] theorem events_ofAnswer (location : String) (answer : Except Failure α) :
    (ofAnswer location answer).events = [] := by
  cases answer <;> rfl

/-- A sequence has a value exactly if its parts have. -/
theorem result_bind_eq_ok_iff {first : Logged α} {next : α → Logged β} {b : β} :
    (first >>= next).result = .ok b ↔ ∃ a, first.result = .ok a ∧ (next a).result = .ok b := by
  rw [result_bind]
  cases first.result <;> simp [Except.bind]

/-- A sequence fails in its first part, or else in the second. -/
theorem result_bind_eq_error_iff {first : Logged α} {next : α → Logged β} {failure : Failure} :
    (first >>= next).result = .error failure ↔
      first.result = .error failure ∨
        ∃ a, first.result = .ok a ∧ (next a).result = .error failure := by
  rw [result_bind]
  cases first.result <;> simp [Except.bind]

@[simp] theorem result_outcome (computation : Logged α) :
    computation.outcome.result = .ok computation.result := rfl

@[simp] theorem events_outcome (computation : Logged α) :
    computation.outcome.events = computation.events := rfl

/-- A computation is its log and its result. -/
theorem ext {left right : Logged α} (hevents : left.events = right.events)
    (hresult : left.result = right.result) : left = right := by
  cases left
  cases right
  simp_all

/-- Going on with the value itself changes nothing. -/
theorem andThen_value (computation : Logged α) : computation.andThen value = computation := by
  apply ext
  · unfold andThen
    split <;> simp [value]
  · unfold andThen
    split <;> rename_i h <;> rw [h]; rfl

/-- Sequences can be grouped either way. -/
theorem andThen_assoc {γ : Type} (first : Logged α) (next : α → Logged β) (last : β → Logged γ) :
    (first.andThen next).andThen last = first.andThen fun a => (next a).andThen last := by
  change (first >>= next) >>= last = first >>= fun a => next a >>= last
  apply ext
  · simp only [events_bind, result_bind]
    cases first.result <;> simp [Except.bind]
  · simp only [result_bind]
    cases first.result <;> simp [Except.bind]

instance : LawfulMonad Logged := LawfulMonad.mk' Logged
  andThen_value
  (fun a next => by apply ext <;> simp [Except.bind])
  andThen_assoc

/-- A function applied to an answer leaves a failure as it is. -/
@[simp] theorem result_map (f : α → β) (computation : Logged α) :
    (f <$> computation).result = computation.result.map f := by
  rw [map_eq_pure_bind, result_bind]
  cases computation.result <;> rfl

end Logged

end StorageTyping
