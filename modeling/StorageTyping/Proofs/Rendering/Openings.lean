import StorageTyping.Proofs.Rendering.Spelling

/-!
# How texts begin and what may follow them

The text of a plain expression begins with a number, a name, a parenthesis or `not`. It begins with the
word `not` only if its outermost operator binds no more tightly than a negation: names are not `not`, and
an operand that is a negation is put in parentheses by every operator that binds more tightly
(`Expr.IsPlain.opening`).

At a place that asks for a strength, an operand is followed by the end of the text, a closing bracket, a
comma or an operator that binds more loosely (`Ends`). No operator's text is the beginning of another's,
save that of a product, which is that of a power if an asterisk follows; but operands do not begin so
(`Link.text_append_inj`).
-/

namespace StorageTyping

/-- A text begins with a word, the sign of a number or a parenthesis, as operands do. -/
def OpensOperand (text : List Char) : Prop :=
  ∃ char rest, text = char :: rest ∧ (isWordChar char = true ∨ char = '-' ∨ char = '(')

theorem OpensOperand.append {text : List Char} (h : OpensOperand text) (after : List Char) :
    OpensOperand (text ++ after) := by
  obtain ⟨char, rest, rfl, hchar⟩ := h
  exact ⟨char, rest ++ after, rfl, hchar⟩

namespace Link

/-- Operators begin with a blank or an asterisk. -/
theorem exists_text_eq_cons (link : Link) :
    ∃ first rest, link.text = first :: rest ∧ (first = ' ' ∨ first = '*') := by
  have hall : ∀ link ∈ all, link.text.head? = some ' ' ∨ link.text.head? = some '*' := by decide
  rcases hall link (mem_all link) with hhead | hhead
  · obtain ⟨rest, htext⟩ := List.head?_eq_some_iff.mp hhead
    exact ⟨_, rest, htext, .inl rfl⟩
  · obtain ⟨rest, htext⟩ := List.head?_eq_some_iff.mp hhead
    exact ⟨_, rest, htext, .inr rfl⟩

/-- The text of an operator is no beginning of another one's, with a single exception. -/
theorem eq_or_of_text_begins {link other : Link} (h : link.text <+: other.text) :
    link = other ∨ link = .accumulation .product ∧ other = .binary .power := by
  have hall : ∀ link ∈ all, ∀ other ∈ all, link.text <+: other.text →
      link = other ∨ link = .accumulation .product ∧ other = .binary .power := by decide
  exact hall link (mem_all link) other (mem_all other) h

/-- An asterisk in front of an operand is not the beginning of a power. -/
theorem eq_of_text_begins {link other : Link} {more after : List Char} (hafter : OpensOperand (more ++ after))
    (h : other.text = link.text ++ more) : link = other := by
  rcases eq_or_of_text_begins ⟨more, h.symm⟩ with rfl | ⟨rfl, rfl⟩
  · rfl
  · obtain rfl : more = ['*'] := (List.cons.inj h).2.symm
    obtain ⟨char, rest, hstar, hchar⟩ := hafter
    exact absurd ((List.cons.inj hstar).1 ▸ hchar) (by decide)

/-- The operator in front of an operand is determined by the text. -/
theorem text_append_inj {link other : Link} {after after' : List Char} (hafter : OpensOperand after)
    (hafter' : OpensOperand after') (h : link.text ++ after = other.text ++ after') :
    link = other ∧ after = after' := by
  have hsame : link = other := by
    rcases List.append_eq_append_iff.mp h with ⟨more, hother, rfl⟩ | ⟨more, hlink, rfl⟩
    · exact eq_of_text_begins hafter hother
    · exact (eq_of_text_begins hafter' hlink).symm
  subst hsame
  exact ⟨rfl, List.append_cancel_left h⟩

end Link

/-- What may follow an operand at a place that asks for a strength: nothing, a closing bracket or a comma,
or an operator that binds more loosely and its next operand. -/
inductive Ends (asked : Nat) : List Char → Prop
  | nil : Ends asked []
  | closing {char : Char} (rest : List Char) (h : char ∈ [')', ']', ',']) : Ends asked (char :: rest)
  | link {link : Link} {rest : List Char} (hlt : link.strength < asked) (hrest : OpensOperand rest) :
    Ends asked (link.text ++ rest)

namespace Ends

variable {asked tighter : Nat} {after : List Char}

theorem mono (h : Ends asked after) (hle : asked ≤ tighter) : Ends tighter after := by
  cases h with
  | nil => exact .nil
  | closing rest h => exact .closing rest h
  | link hlt hrest => exact .link (Nat.lt_of_lt_of_le hlt hle) hrest

theorem mem_of_mem_head? (h : Ends asked after) {char : Char} (hchar : char ∈ after.head?) :
    char ∈ [')', ']', ',', ' ', '*'] := by
  cases h with
  | nil => cases hchar
  | closing rest h =>
    obtain rfl := Option.some.inj hchar
    exact List.mem_append_left [' ', '*'] h
  | @link link rest =>
    obtain ⟨first, more, htext, hfirst⟩ := link.exists_text_eq_cons
    rw [htext] at hchar
    obtain rfl := Option.some.inj hchar
    rcases hfirst with rfl | rfl <;> decide

/-- No word goes on after an operand. -/
theorem stopsRun (h : Ends asked after) : StopsRun isWordChar after :=
  stopsRun_of_mem_head? (by decide) fun _ => h.mem_of_mem_head?

/-- An operator after an operand binds more loosely than the operand's place asks for. -/
theorem strength_lt {link : Link} (h : Ends asked (link.text ++ after)) (hafter : OpensOperand after) :
    link.strength < asked := by
  obtain ⟨first, more, htext, hfirst⟩ := link.exists_text_eq_cons
  generalize hwhole : link.text ++ after = whole at h
  cases h with
  | nil => simp [htext] at hwhole
  | closing rest hclosing =>
    rw [htext] at hwhole
    obtain rfl := (List.cons.inj hwhole).1
    rcases hfirst with rfl | rfl <;> exact absurd hclosing (by decide)
  | link hlt hrest => exact (Link.text_append_inj hafter hrest hwhole).1 ▸ hlt

end Ends

namespace Expr

variable {expr operand : Expr} {asked : Nat}

/-- How the text of an expression begins: as operands do, and with the word `not` only if the expression
binds no more tightly than a negation. -/
structure Opening (expr : Expr) : Prop where
  opensOperand : OpensOperand expr.spelling
  first_word_ne_not : Strength.negation < expr.strength → ∀ after, StopsRun isWordChar after →
    (expr.spelling ++ after).takeWhile isWordChar ≠ "not".toList

theorem takeWhile_ne_not_of_head {first : Char} (h : first ≠ 'n') (rest : List Char) :
    (first :: rest).takeWhile isWordChar ≠ "not".toList := by
  rw [List.takeWhile_cons]
  split
  · exact fun hword => h (List.cons.inj hword).1
  · decide

namespace Opening

theorem opensOperand_spellingAt (h : operand.Opening) (asked : Nat) :
    OpensOperand (operand.spellingAt asked) := by
  by_cases hloose : operand.strength < asked
  · exact ⟨'(', _, spellingAt_of_lt hloose, .inr (.inr rfl)⟩
  · exact spellingAt_of_le (Nat.not_lt.mp hloose) ▸ h.opensOperand

/-- At a place that asks for more than a negation has, no operand begins with the word `not`. -/
theorem spellingAt_ne_not (h : operand.Opening) (hasked : Strength.negation < asked)
    {after : List Char} (hafter : StopsRun isWordChar after) :
    (operand.spellingAt asked ++ after).takeWhile isWordChar ≠ "not".toList := by
  by_cases hloose : operand.strength < asked
  · rw [spellingAt_of_lt hloose]
    exact takeWhile_ne_not_of_head (by decide) _
  · rw [spellingAt_of_le (Nat.not_lt.mp hloose)]
    exact h.first_word_ne_not (Nat.lt_of_lt_of_le hasked (Nat.not_lt.mp hloose)) after hafter

/-- An expression begins like the operand that its text begins with, if no word goes on after it. -/
theorem of_operand (h : operand.Opening) {first : Char} {rest : List Char}
    (hspelling : expr.spelling = operand.spellingAt asked ++ first :: rest)
    (hfirst : isWordChar first = false) (hasked : expr.strength ≤ asked) : expr.Opening where
  opensOperand := hspelling ▸ (h.opensOperand_spellingAt asked).append _
  first_word_ne_not hstrength after _ := by
    rw [hspelling, List.append_assoc]
    refine h.spellingAt_ne_not (Nat.lt_of_lt_of_le hstrength hasked) fun char hchar => ?_
    obtain rfl : first = char := Option.some.inj hchar
    exact hfirst

/-- An expression begins like its first operand. -/
theorem of_link (h : operand.Opening) {link : Link} {rest : List Char}
    (hspelling : expr.spelling = operand.spellingAt asked ++ (link.text ++ rest))
    (hasked : expr.strength ≤ asked) : expr.Opening := by
  obtain ⟨first, more, htext, hfirst⟩ := link.exists_text_eq_cons
  rw [htext, List.cons_append] at hspelling
  exact h.of_operand hspelling (by rcases hfirst with rfl | rfl <;> decide) hasked

theorem of_integer (value : Int) : (literal (.integer value)).Opening := by
  have hspelling : (literal (.integer value)).spelling = (toString value).toList := rfl
  obtain ⟨first, rest, hfirst, hchar⟩ : ∃ first rest, (toString value).toList = first :: rest ∧
      (first = '-' ∨ first.isDigit = true) := by
    rw [toList_toString_int]
    obtain ⟨first, rest, hdigits, hdigit⟩ := exists_toDigits_eq_cons value.natAbs
    split
    · exact ⟨'-', _, rfl, .inl rfl⟩
    · exact ⟨first, rest, hdigits, .inr hdigit⟩
  constructor
  · exact ⟨first, rest, hspelling.trans hfirst, hchar.symm.imp isWordChar_of_isDigit .inl⟩
  · rintro - after -
    rw [hspelling, hfirst]
    refine takeWhile_ne_not_of_head ?_ _
    rintro rfl
    exact absurd hchar (by decide)

/-- A name at the beginning is the first word. -/
theorem of_name {name : String} (hname : isIdentifier name = true) {rest : List Char}
    (hspelling : expr.spelling = name.toList ++ rest)
    (hrest : ∀ after, StopsRun isWordChar after → StopsRun isWordChar (rest ++ after)) : expr.Opening := by
  constructor
  · obtain ⟨first, letters, hletters, -, hword⟩ := exists_of_isIdentifier hname
    exact ⟨first, letters ++ rest, by rw [hspelling, hletters]; rfl, .inl (hword first List.mem_cons_self)⟩
  · intro _ after hafter hnot
    rw [hspelling, List.append_assoc, List.takeWhile_append_of_pos (isWordChar_of_isIdentifier hname),
      (hrest after hafter).takeWhile_eq_nil, List.append_nil] at hnot
    exact ne_not_of_isIdentifier hname (String.toList_injective hnot)

end Opening

/-- Every plain expression begins like an operand, and with the word `not` only if it binds no more
tightly than a negation. -/
theorem IsPlain.opening (h : expr.IsPlain) : expr.Opening := by
  induction h with
  | integer value => exact .of_integer value
  | @name name hname => exact .of_name hname (List.append_nil _).symm fun _ hafter => hafter
  | @tagged name tag hname htag =>
    refine .of_name hname (spelling_tagged name tag) ?_
    rintro after - char hchar
    obtain rfl : '$' = char := Option.some.inj hchar
    decide
  | element _ _ ih _ => exact ih.of_operand (spelling_element ..) (by decide) (Nat.le_refl _)
  | field _ _ ih => exact ih.of_operand (spelling_field ..) (by decide) (Nat.le_refl _)
  | @accumulation op first second rest _ _ ih _ =>
    have hspelling := spelling_accumulation op first (second :: rest)
    rw [List.flatMap_cons, List.append_assoc] at hspelling
    exact ih.of_link hspelling (Nat.le_succ op.strength)
  | binary op _ _ ih _ =>
    have hstrengths : op.strength ≤ op.operandStrengths.1 := by cases op <;> decide
    exact ih.of_link (spelling_binary ..) hstrengths
  | call _ _ ih _ => exact ih.of_operand (spelling_call ..) (by decide) (Nat.le_refl _)
  | comparison relation _ _ ih _ =>
    exact ih.of_link (spelling_comparison ..) (Nat.le_succ Strength.comparison)
  | negation => exact ⟨⟨'n', _, spelling_negation _, by decide⟩, fun h => absurd h (Nat.lt_irrefl _)⟩
  | @junction op first second rest _ _ ih _ =>
    have hspelling := spelling_junction op first (second :: rest)
    rw [List.flatMap_cons, List.append_assoc] at hspelling
    exact ih.of_link hspelling (Nat.le_succ op.strength)

end Expr

end StorageTyping
