import StorageTyping.Proofs.Rendering.Atoms

/-!
# Rendering is unambiguous

No two plain expressions have the same text (`Expr.render_eq_iff_of_isPlain`). The proof is by induction on
a bound for the length of the text, and for each bound by the strength that a place asks for, from atoms
down (`Expr.uniqueBelow`). At each strength a text is taken apart in the only way possible: an atom into a
head and suffixes, a power into a base and an exponent, a negation into the word `not` and its operand, and
anything else into a chain of operands.

Brackets, exponents and negations ask for operands that bind no more tightly than the whole. The texts of
these are shorter, so they are determined by the induction on the bound.
-/

namespace StorageTyping

namespace Expr

/-- A base with an exponent, if there is one. -/
def raise (base : Expr) : Option Expr → Expr
  | none => base
  | some exponent => .binary .power base exponent

/-- The text of an exponent, if there is one, and of the operator in front of it. -/
def exponentText : Option Expr → List Char
  | none => []
  | some exponent => (Link.binary .power).text ++ exponent.spellingAt Strength.power

/-- An expression is, at places that ask for a power, a base with an exponent, if there is one. -/
structure Raised (expr base : Expr) (exponent : Option Expr) : Prop where
  assembles : raise base exponent = expr
  plain : base.IsPlain
  exponent_plain : ∀ raised ∈ exponent, raised.IsPlain
  spelling : expr.spellingAt Strength.power = base.spellingAt Strength.atom ++ exponentText exponent

variable {expr other base left right : Expr} {exponent exponent' : Option Expr} {bound : Nat}
  {after after' : List Char}

/-- An expression that is no power is a base by itself. -/
theorem raised_of_strength_ne (h : expr.IsPlain) (hne : expr.strength ≠ Strength.power) :
    Raised expr expr none where
  assembles := rfl
  plain := h
  exponent_plain := by simp
  spelling := by rw [exponentText, List.append_nil, ← spellingAt_succ hne]; rfl

/-- Every plain expression is a base with an exponent at places that ask for a power. -/
theorem IsPlain.exists_raised (h : expr.IsPlain) : ∃ base exponent, Raised expr base exponent := by
  have hplain := h
  cases h with
  | @binary op left right hleft hright =>
    by_cases hop : op = .power
    · subst hop
      exact ⟨left, some right, rfl, hleft, by simpa using hright, spelling_binary ..⟩
    · have hne : op.strength ≠ Strength.power := (strengths_of_ne_power hop).1 ▸ by decide
      exact ⟨_, _, raised_of_strength_ne hplain hne⟩
  | integer | name | tagged | element | field | call =>
    have hne : Strength.atom ≠ Strength.power := by decide
    exact ⟨_, _, raised_of_strength_ne hplain hne⟩
  | accumulation op =>
    have hne : op.strength ≠ Strength.power := by cases op <;> decide
    exact ⟨_, _, raised_of_strength_ne hplain hne⟩
  | comparison =>
    have hne : Strength.comparison ≠ Strength.power := by decide
    exact ⟨_, _, raised_of_strength_ne hplain hne⟩
  | negation =>
    have hne : Strength.negation ≠ Strength.power := by decide
    exact ⟨_, _, raised_of_strength_ne hplain hne⟩
  | junction op =>
    have hne : op.strength ≠ Strength.power := by cases op <;> decide
    exact ⟨_, _, raised_of_strength_ne hplain hne⟩

/-- After a base comes its exponent or what may follow a power. -/
theorem ends_exponentText (hplain : ∀ raised ∈ exponent, raised.IsPlain)
    (hafter : Ends Strength.power after) :
    Ends Strength.atom (exponentText exponent ++ after) := by
  cases exponent with
  | none => exact hafter.mono (by decide)
  | some raised =>
    rw [exponentText, List.append_assoc]
    refine .link (by decide) ?_
    exact ((hplain raised rfl).opening.opensOperand_spellingAt _).append after

/-- An exponent does not begin what may follow a power. -/
theorem not_ends_exponentText {raised : Expr} (hplain : raised.IsPlain) (after : List Char) :
    ¬ Ends Strength.power (exponentText (some raised) ++ after) := by
  rw [exponentText, List.append_assoc]
  intro hends
  exact Nat.lt_irrefl _ (hends.strength_lt ((hplain.opening.opensOperand_spellingAt _).append after))

/-- An exponent is determined by the text that begins with it. -/
theorem UniqueBelow.exponent_eq (hunique : UniqueBelow bound Strength.power)
    (hplain : ∀ raised ∈ exponent, raised.IsPlain) (hplain' : ∀ raised ∈ exponent', raised.IsPlain)
    (hafter : Ends Strength.power after) (hafter' : Ends Strength.power after')
    (hlength : (exponentText exponent).length ≤ bound)
    (h : exponentText exponent ++ after = exponentText exponent' ++ after') :
    exponent = exponent' ∧ after = after' := by
  match exponent, exponent' with
  | none, none => exact ⟨rfl, h⟩
  | none, some raised' => exact absurd (h ▸ hafter) (not_ends_exponentText (hplain' raised' rfl) after')
  | some raised, none => exact absurd (h ▸ hafter') (not_ends_exponentText (hplain raised rfl) after)
  | some raised, some raised' =>
    have hoperator : 0 < (Link.binary .power).text.length := by decide
    simp only [exponentText, List.append_assoc, List.length_append] at h hlength
    obtain ⟨rfl, hends⟩ := hunique (hplain raised rfl) (hplain' raised' rfl) hafter hafter' (by omega)
      (List.append_cancel_left h)
    exact ⟨rfl, hends⟩

/-- At a place that asks for a power the text determines the operand, if it determines the operands of
powers. -/
theorem uniqueBelow_power (hatom : UniqueBelow (bound + 1) Strength.atom)
    (hpower : UniqueBelow bound Strength.power) : UniqueBelow (bound + 1) Strength.power := by
  intro expr other after after' hplain hplain' hafter hafter' hlength h
  obtain ⟨base, exponent, hraised⟩ := hplain.exists_raised
  obtain ⟨base', exponent', hraised'⟩ := hplain'.exists_raised
  rw [hraised.spelling, List.length_append] at hlength
  rw [hraised.spelling, hraised'.spelling, List.append_assoc, List.append_assoc] at h
  obtain ⟨rfl, hexponents⟩ := hatom hraised.plain hraised'.plain
    (ends_exponentText hraised.exponent_plain hafter) (ends_exponentText hraised'.exponent_plain hafter')
    (by omega) h
  obtain ⟨rfl, hends⟩ := hpower.exponent_eq hraised.exponent_plain hraised'.exponent_plain hafter hafter'
    (by omega) hexponents
  exact ⟨hraised.assembles.symm.trans hraised'.assembles, hends⟩

/-- A plain expression is a negation, or it looks the same where a negation or a comparison is asked for. -/
theorem IsPlain.negation_or_spellingAt_eq (h : expr.IsPlain) :
    (∃ operand, operand.IsPlain ∧ expr = .negation operand) ∨
      expr.spellingAt Strength.negation = expr.spellingAt Strength.comparison := by
  have hsame (hne : expr.strength ≠ Strength.negation) :
      expr.spellingAt Strength.negation = expr.spellingAt Strength.comparison := (spellingAt_succ hne).symm
  cases h with
  | negation hoperand => exact .inl ⟨_, hoperand, rfl⟩
  | integer | name | tagged | element | field | call =>
    have hne : Strength.atom ≠ Strength.negation := by decide
    exact .inr (hsame hne)
  | accumulation op =>
    have hne : op.strength ≠ Strength.negation := by cases op <;> decide
    exact .inr (hsame hne)
  | binary op =>
    have hne : op.strength ≠ Strength.negation := by cases op <;> decide
    exact .inr (hsame hne)
  | comparison =>
    have hne : Strength.comparison ≠ Strength.negation := by decide
    exact .inr (hsame hne)
  | junction op =>
    have hne : op.strength ≠ Strength.negation := by cases op <;> decide
    exact .inr (hsame hne)

/-- No operand of a comparison begins like a negation. -/
theorem IsPlain.spellingAt_comparison_ne_negation (h : expr.IsPlain) (hafter : Ends Strength.negation after)
    (operand : Expr) :
    expr.spellingAt Strength.comparison ++ after ≠ (Expr.negation operand).spelling ++ after' := by
  intro hsame
  have hlt : Strength.negation < Strength.comparison := by decide
  refine h.opening.spellingAt_ne_not hlt hafter.stopsRun ?_
  rw [hsame, spelling_negation]
  rfl

/-- At a place that asks for a negation the text determines the operand, if it determines the operands of
comparisons and negations. -/
theorem uniqueBelow_negation (hcomparison : UniqueBelow (bound + 1) Strength.comparison)
    (hnegation : UniqueBelow bound Strength.negation) : UniqueBelow (bound + 1) Strength.negation := by
  intro expr other after after' hplain hplain' hafter hafter' hlength h
  have hstrength (operand : Expr) : Strength.negation ≤ (negation operand).strength := Nat.le_refl _
  rcases hplain.negation_or_spellingAt_eq with ⟨operand, hoperand, rfl⟩ | hspelling <;>
    rcases hplain'.negation_or_spellingAt_eq with ⟨operand', hoperand', rfl⟩ | hspelling'
  · rw [spellingAt_of_le (hstrength operand), spelling_negation] at h hlength
    rw [spellingAt_of_le (hstrength operand'), spelling_negation, List.append_assoc, List.append_assoc] at h
    have hword : 0 < "not ".toList.length := by decide
    rw [List.length_append] at hlength
    obtain ⟨rfl, hends⟩ := hnegation hoperand hoperand' hafter hafter' (by omega) (List.append_cancel_left h)
    exact ⟨rfl, hends⟩
  · rw [spellingAt_of_le (hstrength operand), hspelling'] at h
    exact absurd h.symm (hplain'.spellingAt_comparison_ne_negation hafter' operand)
  · rw [spellingAt_of_le (hstrength operand'), hspelling] at h
    exact absurd h (hplain.spellingAt_comparison_ne_negation hafter operand')
  · rw [hspelling] at hlength
    rw [hspelling, hspelling'] at h
    exact hcomparison hplain hplain' (hafter.mono (by decide)) (hafter'.mono (by decide)) hlength h

/-- At every place the text determines the operand. -/
theorem uniqueBelow (bound : Nat) : ∀ asked ≤ Strength.atom, UniqueBelow bound asked := by
  induction bound with
  | zero => exact fun asked _ _ _ _ _ _ _ _ _ hlength => absurd hlength (Nat.not_lt_zero _)
  | succ bound ih =>
    have hatom := uniqueBelow_atom (ih Strength.loosest (by decide))
    have hpower := uniqueBelow_power hatom (ih Strength.power (by decide))
    have hproduct : UniqueBelow (bound + 1) Strength.product :=
      uniqueBelow_of_chains hpower fun _ h => h.exists_chain (by decide) (by decide) (by decide)
    have hsum : UniqueBelow (bound + 1) Strength.sum :=
      uniqueBelow_of_chains hproduct fun _ h => h.exists_chain (by decide) (by decide) (by decide)
    have hcomparison : UniqueBelow (bound + 1) Strength.comparison :=
      uniqueBelow_of_chains hsum fun _ h => h.exists_chain (by decide) (by decide) (by decide)
    have hnegation := uniqueBelow_negation hcomparison (ih Strength.negation (by decide))
    have hconjunction : UniqueBelow (bound + 1) Strength.conjunction :=
      uniqueBelow_of_chains hnegation fun _ h => h.exists_chain (by decide) (by decide) (by decide)
    have hdisjunction : UniqueBelow (bound + 1) Strength.disjunction :=
      uniqueBelow_of_chains hconjunction fun _ h => h.exists_chain (by decide) (by decide) (by decide)
    have hloosest : UniqueBelow (bound + 1) Strength.loosest :=
      uniqueBelow_of_chains hdisjunction fun _ h => h.exists_chain (by decide) (by decide) (by decide)
    intro asked hasked
    match asked, hasked with
    | 0, _ => exact hloosest
    | 1, _ => exact hdisjunction
    | 2, _ => exact hconjunction
    | 3, _ => exact hnegation
    | 4, _ => exact hcomparison
    | 5, _ => exact hsum
    | 6, _ => exact hproduct
    | 7, _ => exact hpower
    | 8, _ => exact hatom
    | asked + 9, hasked => exact absurd hasked (by simp [Strength.atom])

/-- Plain expressions have the same text only if they are the same. -/
theorem render_eq_iff_of_isPlain (hleft : left.IsPlain) (hright : right.IsPlain) :
    left.render = right.render ↔ left = right := by
  refine ⟨fun hrender => ?_, congrArg render⟩
  have hspelling : left.spelling ++ [] = right.spelling ++ [] := by rw [spelling, spelling, hrender]
  have hunique := uniqueBelow (left.spelling.length + 1) Strength.loosest (Nat.zero_le _)
  exact (hunique.spelling_eq hleft hright .nil .nil (Nat.lt_succ_self _) hspelling).1

/-- A product divided by a number does not look like a product with a quotient. -/
theorem render_quotient_of_product_ne_product_of_quotient :
    (binary .quotient (accumulation .product [.reference "a" none, .reference "b" none])
        (.literal (.integer 2))).render ≠
      (accumulation .product [.reference "a" none,
        binary .quotient (.reference "b" none) (.literal (.integer 2))]).render := by
  have ha : IsPlain (.reference "a" none) := .name (by decide)
  have hb : IsPlain (.reference "b" none) := .name (by decide)
  have hquotient := IsPlain.binary .quotient (.accumulation .product ha (List.forall_mem_singleton.mpr hb))
    (.integer 2)
  have hproduct := IsPlain.accumulation .product ha
    (List.forall_mem_singleton.mpr (.binary .quotient hb (.integer 2)))
  exact fun hrender => nomatch (render_eq_iff_of_isPlain hquotient hproduct).mp hrender

end Expr

end StorageTyping
