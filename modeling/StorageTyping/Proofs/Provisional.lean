import StorageTyping.Proofs.Anticipation
import StorageTyping.Proofs.Assumptions
import StorageTyping.Proofs.Deferral

/-!
# Inference from provisional types

Inference is run with less than is known in the end, and with types that are not final. If an
expression has a type in the end, then before it should have one that anticipates it, or wait for a
name whose type is not determined yet; it should not fail for good (`infer_foreshadows`).

At most nodes the types of the operands need only anticipate the final ones. The exceptions are
fields, whose aggregates have to be of the final type, reductions that do not keep the type of the operand,
as places of extreme values are records that differ for different types, and calls of functions that are
declared for some types and not for others. Below such a node what is known has to be final.
-/

namespace StorageTyping

/-- For a value that is found in the end, a related one is found before, or a deferral on a name that may
be missing. -/
def Foreshadows {α : Type} (missing : String → Prop) (related : α → α → Prop)
    (before after : Except Failure α) : Prop :=
  ∀ wide, after = .ok wide →
    (∃ name role, missing name ∧ before = .error (.waiting name role)) ∨
      ∃ narrow, before = .ok narrow ∧ related narrow wide

section Outcomes

variable {α β : Type} {missing : String → Prop} {related : α → α → Prop}

theorem foreshadows_of_eq {before after : Except Failure α} (hrefl : ∀ a, related a a)
    (h : before = after) : Foreshadows missing related before after :=
  fun wide hwide => Or.inr ⟨wide, h.trans hwide, hrefl wide⟩

theorem Foreshadows.imp {missing' : String → Prop} {related' : α → α → Prop} {before after : Except Failure α}
    (h : Foreshadows missing related before after) (hmissing : ∀ name, missing name → missing' name)
    (himp : ∀ narrow wide, related narrow wide → related' narrow wide) :
    Foreshadows missing' related' before after := by
  intro wide hwide
  rcases h wide hwide with ⟨name, role, hname, hwaiting⟩ | ⟨narrow, hnarrow, hrelated⟩
  · exact Or.inl ⟨name, role, hmissing name hname, hwaiting⟩
  · exact Or.inr ⟨narrow, hnarrow, himp narrow wide hrelated⟩

/-- A value found before is related to the one found in the end. -/
theorem Foreshadows.related_of_eq_ok {before after : Except Failure α}
    (h : Foreshadows missing related before after) {narrow wide : α} (hbefore : before = .ok narrow)
    (hafter : after = .ok wide) : related narrow wide := by
  rcases h wide hafter with ⟨name, role, -, hwaiting⟩ | ⟨found, hfound, hrelated⟩
  · cases hwaiting.symm.trans hbefore
  · cases hfound.symm.trans hbefore
    exact hrelated

/-- What is foreshadowed in both parts of a sequence is foreshadowed in the whole. -/
theorem Foreshadows.bind {related' : β → β → Prop} {first first' : Logged α} {next next' : α → Logged β}
    (hfirst : Foreshadows missing related first.result first'.result)
    (hnext : ∀ narrow wide, first.result = .ok narrow → first'.result = .ok wide → related narrow wide →
      Foreshadows missing related' (next narrow).result (next' wide).result) :
    Foreshadows missing related' (first >>= next).result (first' >>= next').result := by
  intro result hresult
  obtain ⟨wide, hwide, hrest⟩ := Logged.result_bind_eq_ok_iff.mp hresult
  rcases hfirst wide hwide with ⟨name, role, hname, hwaiting⟩ | ⟨narrow, hnarrow, hrelated⟩
  · exact Or.inl ⟨name, role, hname, Logged.result_bind_eq_error_iff.mpr (Or.inl hwaiting)⟩
  · rw [Logged.result_bind, hnarrow]
    exact hnext narrow wide hnarrow hwide hrelated result hrest

end Outcomes

namespace Context

/-- What is known of some names is final. -/
def AgreesOn (provisional final : Context) (names : List String) : Prop :=
  ∀ name ∈ names, (∃ role, provisional.standing name = .undetermined role) ∨
    provisional.standing name = final.standing name

/-- What is known of some names anticipates the final types. -/
def AnticipatesOn (provisional final : Context) (names : List String) : Prop :=
  ∀ name ∈ names, (∃ role, provisional.standing name = .undetermined role) ∨
    ∃ narrow wide, provisional.standing name = .known narrow ∧ final.standing name = .known wide ∧
      narrow.Anticipates wide

/-- Whether inference at a node carries over to operand types that anticipate others. -/
def IsGradual (context : Context) : Expr → Prop
  | .field .. => False
  | .call callee _ => ∀ narrows wides result, List.Forall₂ StorageType.Anticipates narrows wides →
      context.callType? callee.calleeName wides = some result →
        ∃ found, context.callType? callee.calleeName narrows = some found ∧ found.Anticipates result
  | .reduction op .. => op.KeepsType
  | _ => True

end Context

variable {provisional final : Context} {missing : String → Prop}

/-- An operand of a node reads what the node reads. -/
theorem Expr.reads_subset_of_mem_evaluated {operand expr : Expr} (h : operand ∈ expr.evaluated) :
    operand.reads ⊆ expr.reads :=
  fun _ hname => mem_reads_iff.mpr (Or.inl ⟨operand, h, hname⟩)

/-- Operands have related types, or one of them waits, if this holds of each of them. -/
theorem inferAll_foreshadows {related : StorageType → StorageType → Prop} {operands : List Expr}
    (h : ∀ operand ∈ operands,
      Foreshadows missing related (infer provisional operand).result (infer final operand).result) :
    Foreshadows missing (List.Forall₂ related) (inferAll provisional operands).result
      (inferAll final operands).result := by
  induction operands with
  | nil =>
    intro wides hwides
    cases hwides
    exact Or.inr ⟨[], rfl, .nil⟩
  | cons operand rest ih =>
    have hrest := ih fun other hother => h other (List.mem_cons_of_mem _ hother)
    refine (h operand List.mem_cons_self).bind fun narrow wide _ _ htype => ?_
    refine hrest.bind fun narrows wides _ _ htypes => ?_
    intro found hfound
    cases hfound
    exact Or.inr ⟨narrow :: narrows, rfl, .cons htype htypes⟩

/-- Where what is known is final, so is every type. -/
theorem infer_foreshadows_of_agreesOn (hcalls : provisional.callType? = final.callType?)
    (htarget : provisional.target = final.target) (expr : Expr) (h : provisional.AgreesOn final expr.reads) :
    Foreshadows (provisional.IsMissing expr.reads) Eq (infer provisional expr).result
      (infer final expr).result := by
  induction expr using Expr.evaluated_induction with
  | node expr ih =>
    have hoperands : ∀ operand ∈ expr.evaluated, Foreshadows (provisional.IsMissing expr.reads) Eq
        (infer provisional operand).result (infer final operand).result := by
      intro operand hoperand
      have hreads := Expr.reads_subset_of_mem_evaluated hoperand
      exact (ih operand hoperand fun name hname => h name (hreads hname)).imp
        (fun _ hname => hname.of_subset hreads) fun _ _ hsame => hsame
    rw [infer_eq provisional, infer_eq final]
    refine (inferAll_foreshadows hoperands).bind fun narrows wides _ _ hsame => ?_
    rw [List.forall₂_eq_eq_eq] at hsame
    subst hsame
    cases expr with
    | reference name tag =>
      simp only [Expr.rule, result_typeOfName]
      have hread : name ∈ (Expr.reference name tag).reads := Expr.mem_reads_iff.mpr (Or.inr rfl)
      rcases h name hread with ⟨role, hrole⟩ | hstanding
      · rw [hrole]
        exact fun _ _ => Or.inl ⟨name, role, ⟨hread, role, hrole⟩, rfl⟩
      · rw [hstanding]
        exact foreshadows_of_eq (fun _ => rfl) rfl
    | _ =>
      refine foreshadows_of_eq (fun _ => rfl) ?_
      rw [rule_congr hcalls htarget fun _ hused => by cases hused]

/-- A sum or product carries over to operand types that anticipate others. -/
theorem exists_accumulatedType_of_foreshadows {operands : List Expr}
    (hoperands : ∀ operand ∈ operands, Foreshadows missing StorageType.Anticipates
      (infer provisional operand).result (infer final operand).result)
    {narrows wides : List StorageType} (hnarrows : (inferAll provisional operands).result = .ok narrows)
    (hwides : (inferAll final operands).result = .ok wides) {result : StorageType}
    (h : accumulatedType ((operands.map (·.small?)).zip wides) = .ok result) :
    ∃ found, accumulatedType ((operands.map (·.small?)).zip narrows) = .ok found ∧
      found.Anticipates result := by
  refine exists_accumulatedType_of_anticipates (fun small type hpair => ?_) (fun small other hpair => ?_)
    (fun value type hpair => ?_) h
  · obtain ⟨operand, hoperand, hsmall, hnarrow⟩ := (Context.mem_inferred_iff hnarrows).mp hpair
    obtain ⟨wide, -, hwide⟩ := exists_infer_of_mem hwides hoperand
    exact ⟨wide, (Context.mem_inferred_iff hwides).mpr ⟨operand, hoperand, hsmall, hwide⟩,
      (hoperands operand hoperand).related_of_eq_ok hnarrow hwide⟩
  · obtain ⟨operand, hoperand, hsmall, hwide⟩ := (Context.mem_inferred_iff hwides).mp hpair
    obtain ⟨narrow, -, hnarrow⟩ := exists_infer_of_mem hnarrows hoperand
    exact ⟨narrow, (Context.mem_inferred_iff hnarrows).mpr ⟨operand, hoperand, hsmall, hnarrow⟩,
      (hoperands operand hoperand).related_of_eq_ok hnarrow hwide⟩
  · obtain ⟨operand, -, hsmall, hnarrow⟩ := (Context.mem_inferred_iff hnarrows).mp hpair
    exact exists_signed_of_small? hsmall hnarrow

/-- The rule of a gradual node carries over to operand types that anticipate others. -/
theorem rule_foreshadows_of_isGradual (hcalls : provisional.callType? = final.callType?) {expr : Expr}
    (hgradual : final.IsGradual expr) (hreads : provisional.AnticipatesOn final expr.reads)
    (hoperands : ∀ operand ∈ expr.evaluated, Foreshadows (provisional.IsMissing expr.reads)
      StorageType.Anticipates (infer provisional operand).result (infer final operand).result)
    {narrows wides : List StorageType} (hnarrows : (inferAll provisional expr.evaluated).result = .ok narrows)
    (hwides : (inferAll final expr.evaluated).result = .ok wides)
    (h : List.Forall₂ StorageType.Anticipates narrows wides) :
    Foreshadows (provisional.IsMissing expr.reads) StorageType.Anticipates
      (expr.rule provisional narrows).result (expr.rule final wides).result := by
  intro result hresult
  cases expr with
  | literal | comparison | negation | junction => exact Or.inr ⟨result, hresult, .refl result⟩
  | reference name tag =>
    simp only [Expr.rule, result_typeOfName] at hresult ⊢
    have hread : name ∈ (Expr.reference name tag).reads := Expr.mem_reads_iff.mpr (Or.inr rfl)
    rcases hreads name hread with ⟨role, hrole⟩ | ⟨narrow, wide, hnarrow, hwide, hstanding⟩
    · rw [hrole]
      exact Or.inl ⟨name, role, ⟨hread, role, hrole⟩, rfl⟩
    · rw [hwide] at hresult
      cases hresult
      rw [hnarrow]
      exact Or.inr ⟨narrow, rfl, hstanding⟩
  | element addressing aggregate index =>
    obtain ⟨wide, _, -, hnone, rfl⟩ := inferAll_cons_eq_ok_iff.mp hwides
    cases hnone
    obtain _ | ⟨htype, ⟨⟩⟩ := h
    cases hresult
    exact Or.inr ⟨_, rfl, htype⟩
  | field => cases hgradual
  | accumulation op operands =>
    simp only [Expr.rule, Logged.result_bind_eq_ok_iff, Logged.result_ofRule_eq_ok_iff,
      Logged.result_reportAll, Logged.result_pure, Except.ok.injEq, true_and, exists_const,
      exists_eq_right] at hresult ⊢
    exact Or.inr (exists_accumulatedType_of_foreshadows hoperands hnarrows hwides hresult)
  | binary op left right =>
    obtain ⟨wide, _, -, hrest, rfl⟩ := inferAll_cons_eq_ok_iff.mp hwides
    obtain ⟨wide', _, -, hnone, rfl⟩ := inferAll_cons_eq_ok_iff.mp hrest
    cases hnone
    obtain _ | ⟨hleft, _ | ⟨hright, ⟨⟩⟩⟩ := h
    simp only [Expr.rule, Logged.result_ofRule_eq_ok_iff] at hresult ⊢
    exact Or.inr (BinaryOp.exists_resultType_of_anticipates hleft hright hresult)
  | call callee arguments =>
    simp only [Expr.rule, hcalls] at hresult ⊢
    cases hcall : final.callType? callee.calleeName wides with
    | none => simp [hcall] at hresult
    | some type =>
      obtain ⟨found, hfound, hanticipates⟩ := hgradual narrows wides type h hcall
      rw [hcall] at hresult
      cases hresult
      rw [hfound]
      exact Or.inr ⟨found, rfl, hanticipates⟩
  | conditional condition consequent alternative =>
    obtain ⟨wide, _, -, hbranches, rfl⟩ := inferAll_cons_eq_ok_iff.mp hwides
    obtain ⟨wide', _, -, hrest, rfl⟩ := inferAll_cons_eq_ok_iff.mp hbranches
    obtain ⟨wide'', _, -, hnone, rfl⟩ := inferAll_cons_eq_ok_iff.mp hrest
    cases hnone
    obtain _ | ⟨-, _ | ⟨hleft, _ | ⟨hright, ⟨⟩⟩⟩⟩ := h
    simp only [Expr.rule, Logged.result_ofRule_eq_ok_iff] at hresult ⊢
    refine Or.inr (StorageType.exists_joinAll_of_anticipates (List.cons_ne_nil _ _) (fun type hmem => ?_)
      hresult)
    simp only [List.mem_cons, List.not_mem_nil, or_false] at hmem
    rcases hmem with rfl | rfl
    · exact ⟨wide', by simp, hleft⟩
    · exact ⟨wide'', by simp, hright⟩
  | reduction op operand indices =>
    obtain ⟨wide, _, -, hnone, rfl⟩ := inferAll_cons_eq_ok_iff.mp hwides
    cases hnone
    obtain _ | ⟨htype, ⟨⟩⟩ := h
    have hop : op.KeepsType := hgradual
    simp only [Expr.rule, Logged.result_ofAnswer_eq_ok_iff] at hresult ⊢
    cases (hop final.target wide indices).symm.trans hresult
    exact Or.inr ⟨_, hop _ _ _, htype⟩

/-- In the end an expression has a type only if before it had one that anticipates it, or waited; what
is known before has to anticipate the final types, and to be final below nodes that are not gradual. -/
theorem infer_foreshadows (hcalls : provisional.callType? = final.callType?)
    (htarget : provisional.target = final.target) (expr : Expr)
    (hreads : provisional.AnticipatesOn final expr.reads)
    (hnodes : ∀ node ∈ expr.inspected,
      final.IsGradual node ∨ ∀ operand ∈ node.evaluated, provisional.AgreesOn final operand.reads) :
    Foreshadows (provisional.IsMissing expr.reads) StorageType.Anticipates (infer provisional expr).result
      (infer final expr).result := by
  induction expr using Expr.evaluated_induction with
  | node expr ih =>
    have hoperands : ∀ operand ∈ expr.evaluated, Foreshadows (provisional.IsMissing expr.reads)
        StorageType.Anticipates (infer provisional operand).result (infer final operand).result := by
      intro operand hoperand
      have hsubset := Expr.reads_subset_of_mem_evaluated hoperand
      exact (ih operand hoperand (fun name hname => hreads name (hsubset hname)) fun node hnode =>
        hnodes node (Expr.mem_inspected_iff.mpr (Or.inl ⟨operand, hoperand, hnode⟩))).imp
          (fun _ hname => hname.of_subset hsubset) fun _ _ hanticipates => hanticipates
    have hself : expr ∈ expr.inspected := expr.mem_inspected_self
    have hnode : final.IsGradual expr ∨ provisional.AgreesOn final expr.reads := by
      cases expr with
      | reference => exact Or.inl trivial
      | _ =>
        refine (hnodes _ hself).imp_right fun hfinal name hname => ?_
        rcases Expr.mem_reads_iff.mp hname with ⟨operand, hoperand, hread⟩ | hused
        · exact hfinal operand hoperand name hread
        · cases hused
    rcases hnode with hgradual | hfinal
    · rw [infer_eq provisional, infer_eq final]
      exact (inferAll_foreshadows hoperands).bind fun narrows wides hnarrows hwides htypes =>
        rule_foreshadows_of_isGradual hcalls hgradual hreads hoperands hnarrows hwides htypes
    · refine (infer_foreshadows_of_agreesOn hcalls htarget expr hfinal).imp (fun _ => id)
        fun narrow wide hsame => ?_
      rw [hsame]
      exact .refl wide

end StorageTyping
