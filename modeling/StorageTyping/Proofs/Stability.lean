import StorageTyping.Proofs.Deferral
import StorageTyping.Proofs.Tables
import StorageTyping.Resolution

/-!
# Stability of inference

A context extends another if, of the names that are read, it only determines some whose types the
other has not determined yet. An answer of inference is then the same in both, unless it is a deferral
on such a name (`infer_keeps`): a type, or a failure with its cause and location, never changes when more
becomes known. For scopes with pending declarations this is `Scope.infer_stable`.

The contexts that the resolution of temporaries goes through extend each other in this way as long as
no type found for a temporary replaces a type that its name had before and that is read (`Scope.Grows`).
-/

namespace StorageTyping

/-- A context that agrees with another on the names that are read, except on those undetermined there. -/
structure Context.Extends (large small : Context) (reads : String → Prop) : Prop where
  known : ∀ name, reads name → ∀ type, small.standing name = .known type → large.standing name = .known type
  unknown : ∀ name, reads name → small.standing name = .unknown → large.standing name = .unknown
  calls : large.callType? = small.callType?
  target : large.target = small.target

/-- Fewer names may be read. -/
theorem Context.Extends.mono {large small : Context} {reads fewer : String → Prop}
    (h : large.Extends small reads) (hfewer : ∀ name, fewer name → reads name) :
    large.Extends small fewer where
  known name hname := h.known name (hfewer name hname)
  unknown name hname := h.unknown name (hfewer name hname)
  calls := h.calls
  target := h.target

/-- An answer is kept, unless it is a deferral on a name that was undetermined and is not any more. -/
def Context.Keeps {α : Type} (large small : Context) (before after : Except Failure α) : Prop :=
  after = before ∨
    ∃ name role, before = .error (.waiting name role) ∧ small.standing name = .undetermined role ∧
      large.standing name ≠ .undetermined role

/-- What is kept in both parts of a sequence is kept in the whole. -/
theorem Context.Keeps.bind {α β : Type} {large small : Context} {first first' : Logged α}
    {next next' : α → Logged β} (hfirst : large.Keeps small first.result first'.result)
    (hnext : ∀ a, large.Keeps small (next a).result (next' a).result) :
    large.Keeps small (first >>= next).result (first' >>= next').result := by
  rw [Logged.result_bind, Logged.result_bind]
  rcases hfirst with hsame | ⟨name, role, hwaiting, hstanding⟩
  · rw [hsame]
    cases first.result with
    | error failure => exact Or.inl rfl
    | ok a => exact hnext a
  · rw [hwaiting]
    exact Or.inr ⟨name, role, rfl, hstanding⟩

variable {large small : Context} {expr : Expr}

/-- The rule of a node gives the same in a larger context, unless it defers. -/
theorem rule_keeps (h : large.Extends small (· ∈ expr.reads)) (types : List StorageType) :
    large.Keeps small (expr.rule small types).result (expr.rule large types).result := by
  unfold Expr.rule
  split
  case h_2 types name tag =>
    have hread : name ∈ (Expr.reference name tag).reads := Expr.mem_reads_iff.mpr (Or.inr rfl)
    rw [result_typeOfName, result_typeOfName]
    cases hstanding : small.standing name with
    | known type =>
      rw [h.known name hread type hstanding]
      exact Or.inl rfl
    | unknown =>
      rw [h.unknown name hread hstanding]
      exact Or.inl rfl
    | undetermined role =>
      by_cases hlarge : large.standing name = .undetermined role
      · rw [hlarge]
        exact Or.inl rfl
      · exact Or.inr ⟨name, role, rfl, hstanding, hlarge⟩
  case h_7 callee arguments types =>
    rw [h.calls]
    exact Or.inl rfl
  case h_12 op operand indices type =>
    rw [h.target]
    exact Or.inl rfl
  all_goals exact Or.inl rfl

/-- The answers for operands are kept if the answer for each operand is. -/
theorem inferAll_keeps_of_forall {operands : List Expr}
    (h : ∀ operand ∈ operands,
      large.Keeps small (infer small operand).result (infer large operand).result) :
    large.Keeps small (inferAll small operands).result (inferAll large operands).result := by
  induction operands with
  | nil => exact Or.inl rfl
  | cons operand rest ih =>
    have hrest := ih fun other hother => h other (List.mem_cons_of_mem _ hother)
    exact (h operand List.mem_cons_self).bind fun _ => hrest.bind fun _ => Or.inl rfl

/-- Inference gives the same in a larger context, unless it defers on a name determined there. -/
theorem infer_keeps (h : large.Extends small (· ∈ expr.reads)) :
    large.Keeps small (infer small expr).result (infer large expr).result := by
  induction expr using Expr.evaluated_induction with
  | node expr ih =>
    rw [infer_eq small, infer_eq large]
    have hoperands (operand : Expr) (hoperand : operand ∈ expr.evaluated) :=
      ih operand hoperand (h.mono fun name hname =>
        Expr.mem_reads_iff.mpr (Or.inl ⟨operand, hoperand, hname⟩))
    exact (inferAll_keeps_of_forall hoperands).bind fun types => rule_keeps h types

/-- A type is kept in a larger context. -/
theorem infer_eq_ok_of_extends (h : large.Extends small (· ∈ expr.reads)) {type : StorageType}
    (hok : (infer small expr).result = .ok type) : (infer large expr).result = .ok type := by
  rcases infer_keeps h with hsame | ⟨name, role, hwaiting, -⟩
  · rw [hsame, hok]
  · cases hok.symm.trans hwaiting

/-- A final failure is kept in a larger context, with its cause and location. -/
theorem infer_eq_rejected_of_extends (h : large.Extends small (· ∈ expr.reads)) {cause : Cause}
    {location : Option String}
    (hrejected : (infer small expr).result = .error (.rejected cause location)) :
    (infer large expr).result = .error (.rejected cause location) := by
  rcases infer_keeps h with hsame | ⟨name, role, hwaiting, -⟩
  · rw [hsame, hrejected]
  · cases hrejected.symm.trans hwaiting

/-- A deferral is kept in a larger context in which its name stands for the same. -/
theorem infer_eq_waiting_of_extends (h : large.Extends small (· ∈ expr.reads)) {name : String} {role : Role}
    (hwaiting : (infer small expr).result = .error (.waiting name role))
    (hstanding : large.standing name = small.standing name) :
    (infer large expr).result = .error (.waiting name role) := by
  rcases infer_keeps h with hsame | ⟨other, otherRole, hother, hundetermined, hdetermined⟩
  · rw [hsame, hwaiting]
  · cases hwaiting.symm.trans hother
    exact absurd (hstanding.trans hundetermined) hdetermined

namespace Scope

variable {scope : Scope} {name : String}

/-- What a name stands for depends on its own pending type only. -/
theorem standing_contextWith_congr {left right : Table StorageType}
    (h : left.find? name = right.find? name) :
    (scope.contextWith left).standing name = (scope.contextWith right).standing name := by
  simp only [contextWith, context, standing, declaration?, Table.find?_map, h]

/-- A name that is not pending stands for what it stands for in the scope. -/
theorem standing_contextWith_of_none {types : Table StorageType} (h : types.find? name = none) :
    (scope.contextWith types).standing name = (scope.contextWith .empty).standing name :=
  standing_contextWith_congr (h.trans (Table.find?_empty name).symm)

/-- A loop index or a constant has its type whatever is pending; any other name that is pending
has its pending type. -/
theorem standing_contextWith_cases (scope : Scope) (name : String) :
    (∃ fixed, ∀ types, (scope.contextWith types).standing name = .known fixed) ∨
      ∀ types type, types.find? name = some type →
        (scope.contextWith types).standing name = .known type := by
  by_cases hindex : scope.isIndex name = true
  · exact Or.inl ⟨scope.indexType, fun types => by simp [contextWith, context, standing, hindex]⟩
  · cases hsymbol : scope.symbol? name with
    | some symbol =>
      exact Or.inl ⟨symbol.type, fun types => by simp [contextWith, context, standing, hindex, hsymbol]⟩
    | none =>
      refine Or.inr fun types type htype => ?_
      simp [contextWith, context, standing, hindex, hsymbol, declaration?, htype,
        Standing.ofDeclaration?]

/-- A pending name has a type. -/
theorem known_of_find?_eq_some (scope : Scope) {types : Table StorageType} {type : StorageType}
    (h : types.find? name = some type) :
    ∃ known, (scope.contextWith types).standing name = .known known := by
  rcases scope.standing_contextWith_cases name with ⟨fixed, hfixed⟩ | hpending
  · exact ⟨fixed, hfixed types⟩
  · exact ⟨type, hpending types type h⟩

/-- A table with the entries of another and further ones, none of them for a name that is read and is
undeclared or stands for another type. -/
structure Grows (scope : Scope) (reads : String → Prop) (small large : Table StorageType) : Prop where
  kept : small.PartOf large
  fresh : ∀ name, reads name → small.find? name = none → (large.find? name).isSome →
    (scope.contextWith .empty).standing name ≠ .unknown ∧
      ∀ known, (scope.contextWith .empty).standing name = .known known →
        (scope.contextWith large).standing name = .known known

section Growing

variable {reads : String → Prop} {small large : Table StorageType}

/-- A name stands for the same with a larger table, unless it is pending there only. -/
theorem Grows.standing_eq_or (h : scope.Grows reads small large) (name : String) :
    (scope.contextWith large).standing name = (scope.contextWith small).standing name ∨
      small.find? name = none ∧ (large.find? name).isSome := by
  cases hsmall : small.find? name with
  | some found =>
    exact Or.inl (standing_contextWith_congr ((h.kept name found hsmall).trans hsmall.symm))
  | none =>
    cases hlarge : large.find? name with
    | none => exact Or.inl (standing_contextWith_congr (hlarge.trans hsmall.symm))
    | some found => exact Or.inr ⟨rfl, rfl⟩

/-- The context of a larger table extends that of a smaller one. -/
theorem Grows.extends (h : scope.Grows reads small large) :
    (scope.contextWith large).Extends (scope.contextWith small) reads where
  calls := rfl
  target := rfl
  known name hread type hknown := by
    rcases h.standing_eq_or name with hsame | ⟨hnone, hsome⟩
    · rw [hsame, hknown]
    · rw [standing_contextWith_of_none hnone] at hknown
      exact (h.fresh name hread hnone hsome).2 type hknown
  unknown name hread hunknown := by
    rcases h.standing_eq_or name with hsame | ⟨hnone, hsome⟩
    · rw [hsame, hunknown]
    · rw [standing_contextWith_of_none hnone] at hunknown
      exact absurd hunknown (h.fresh name hread hnone hsome).1

/-- Tables go on growing when the same type is given to a name in both. -/
theorem Grows.insert (h : scope.Grows reads small large) (name : String) (type : StorageType) :
    scope.Grows reads (small.insert name type) (large.insert name type) where
  kept other found hsmall := by
    by_cases hname : name = other
    · simpa [hname] using hsmall
    · rw [Table.find?_insert, if_neg hname] at hsmall ⊢
      exact h.kept other found hsmall
  fresh other hread hsmall hlarge := by
    by_cases hname : name = other
    · simp [hname] at hsmall
    · have hinsert : (large.insert name type).find? other = large.find? other := by
        rw [Table.find?_insert, if_neg hname]
      rw [Table.find?_insert, if_neg hname] at hsmall
      rw [hinsert] at hlarge
      rw [standing_contextWith_congr hinsert]
      exact h.fresh other hread hsmall hlarge

end Growing

/-- A type or a failure with its location stays the same in any scope and with any pending declarations
that have the same target, resolve functions alike and know what was known, and in which what was undeclared
still is. Nothing is asked of the operations of reductions, which may look at the target and may fail. -/
theorem infer_stable {scope scope' : Scope} {pending pending' : Pending}
    (htarget : scope'.target = scope.target)
    (hfunctions : ∀ name arguments, scope'.function? name arguments = scope.function? name arguments)
    (hknown : ∀ name type, scope.standing pending name = .known type →
      scope'.standing pending' name = .known type)
    (hunknown : ∀ name, scope.standing pending name = .unknown →
      scope'.standing pending' name = .unknown)
    {expr : Expr}
    (hfinal : ∀ name role, (scope.infer pending expr).result ≠ .error (.waiting name role)) :
    (scope'.infer pending' expr).result = (scope.infer pending expr).result := by
  have hextends : (scope'.context pending').Extends (scope.context pending) (· ∈ expr.reads) :=
    { known := fun name _ => hknown name
      unknown := fun name _ => hunknown name
      calls := by simp only [context, hfunctions]
      target := htarget }
  rcases infer_keeps hextends with hsame | ⟨name, role, hwaiting, -⟩
  · exact hsame
  · exact absurd hwaiting (hfinal name role)

end Scope

/-- A scope with a number and a temporary whose type is not determined. -/
def openScope : Scope :=
  ((Scope.ofSettings .default).declareArgument "a" (some (.scalar .float64))).declareTemporary "t" none

/-- The scope with a type for the temporary. -/
def closedScope : Scope := openScope.setTemporary "t" (.scalar .float32)

/-- A sum of a reduction, which the number is no operand for, and the temporary. -/
def bitSum : Expr :=
  .accumulation .sum [.reduction exclusiveOr (.reference "a" none) ["i"], .reference "t" none]

/-- The operation refuses the number before the temporary beside it is looked at, and so it does once the
temporary has a type. -/
theorem infer_stable_bitSum :
    (∀ name type, openScope.standing .empty name = .known type →
        closedScope.standing .empty name = .known type) ∧
      (∀ name, openScope.standing .empty name = .unknown →
        closedScope.standing .empty name = .unknown) ∧
        (closedScope.infer .empty bitSum).result =
          .error (.rejected (.mismatch (.scalar .float64) (.scalar .int64)) (some "xor(i, a)")) := by
  have hundetermined : openScope.standing .empty "t" = .undetermined .temporary := by decide +kernel
  have hother (name : String) (hname : name ≠ "t") :
      closedScope.standing .empty name = openScope.standing .empty name := by
    have hclosed : closedScope.temporaries =
        openScope.temporaries.insert "t" (some (.scalar .float32)) := rfl
    have htemporary : closedScope.temporaries.find? name = openScope.temporaries.find? name := by
      rw [hclosed, Table.find?_insert, if_neg hname.symm]
    simp only [Scope.standing, Scope.declaration?, htemporary]
    rfl
  have hknown (name : String) (type : StorageType) (h : openScope.standing .empty name = .known type) :
      closedScope.standing .empty name = .known type := by
    rw [hother name fun heq => by simp [heq, hundetermined] at h, h]
  have hunknown (name : String) (h : openScope.standing .empty name = .unknown) :
      closedScope.standing .empty name = .unknown := by
    rw [hother name fun heq => by simp [heq, hundetermined] at h, h]
  have hrefused : (openScope.infer .empty bitSum).result =
      .error (.rejected (.mismatch (.scalar .float64) (.scalar .int64)) (some "xor(i, a)")) := rfl
  have htarget : closedScope.target = openScope.target := rfl
  have hfunctions (name : String) (arguments : List StorageType) :
      closedScope.function? name arguments = openScope.function? name arguments := rfl
  have hfinal (name : String) (role : Role) :
      (openScope.infer .empty bitSum).result ≠ .error (.waiting name role) := by simp [hrefused]
  exact ⟨hknown, hunknown, (Scope.infer_stable htarget hfunctions hknown hunknown hfinal).trans hrefused⟩

end StorageTyping
