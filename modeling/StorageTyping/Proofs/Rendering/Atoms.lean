import StorageTyping.Proofs.Rendering.Chains

/-!
# Atoms

An operand that needs no parentheses anywhere is a head and its suffixes: a number, a name or an expression
in parentheses, and then any indices, field names and arguments (`Expr.IsPlain.exists_spine`).

Heads of different kinds begin with different characters, and so do suffixes. If texts in brackets are
determined by what they begin with, so are a head (`Expr.UniqueBelow.head_eq`), a suffix
(`Expr.UniqueBelow.suffix_eq`) and hence an operand at a place that asks for an atom
(`Expr.uniqueBelow_atom`).
-/

namespace StorageTyping

namespace Expr

/-- What an operand begins with. -/
inductive Head where
  | number (value : Int)
  | word (name : String) (tag : Option String)
  | enclosed (inner : Expr)

namespace Head

/-- The expression that a head is by itself. -/
def toExpr : Head → Expr
  | .number value => .literal (.integer value)
  | .word name tag => .reference name tag
  | .enclosed inner => inner

/-- The text of a tag, if there is one. -/
def tagText : Option String → List Char
  | none => []
  | some tag => '$' :: tag.toList

def text : Head → List Char
  | .number value => (toString value).toList
  | .word name tag => name.toList ++ tagText tag
  | .enclosed inner => '(' :: (inner.spelling ++ [')'])

def IsPlain : Head → Prop
  | .number _ => True
  | .word name tag => isIdentifier name = true ∧ ∀ word ∈ tag, isIdentifier word = true
  | .enclosed inner => inner.IsPlain

def isNumber : Head → Bool
  | .number _ => true
  | _ => false

def isWord : Head → Bool
  | .word .. => true
  | _ => false

/-- The first character tells numbers, names and parentheses apart. -/
theorem exists_text_eq_cons {head : Head} (h : head.IsPlain) :
    ∃ first rest, head.text = first :: rest ∧ (first.isDigit || first = '-') = head.isNumber ∧
      isNameStart first = head.isWord := by
  match head with
  | .number value =>
    obtain ⟨first, rest, hdigits, hdigit⟩ := exists_toDigits_eq_cons value.natAbs
    rw [text, toList_toString_int]
    split
    · exact ⟨'-', _, rfl, rfl, rfl⟩
    · exact ⟨first, rest, hdigits, by simp [hdigit, isNumber], isNameStart_eq_false_of_isDigit hdigit⟩
  | .word name tag =>
    obtain ⟨first, rest, hname, hstart, -⟩ := exists_of_isIdentifier h.1
    have hnumber : (first.isDigit || first = '-') = false := by
      rw [← Bool.not_eq_true, Bool.or_eq_true, decide_eq_true_eq]
      rintro (hdigit | rfl)
      · exact absurd hstart (by rw [isNameStart_eq_false_of_isDigit hdigit]; decide)
      · exact absurd hstart (by decide)
    exact ⟨first, rest ++ tagText tag, by rw [text, hname, List.cons_append], hnumber, hstart⟩
  | .enclosed inner => exact ⟨'(', _, rfl, rfl, rfl⟩

end Head

/-- What can follow a head: an index, a field name or arguments. -/
inductive Suffix where
  | element (index : Expr)
  | field (name : String)
  | call (arguments : List Expr)

namespace Suffix

/-- The expression that a suffix makes of an operand. -/
def attach (operand : Expr) : Suffix → Expr
  | .element index => .element .indexed operand index
  | .field name => .field operand name
  | .call arguments => .call operand arguments

/-- The character that a suffix begins with. -/
def mark : Suffix → Char
  | .element _ => '['
  | .field _ => '.'
  | .call _ => '('

/-- The text of a suffix after its first character. -/
def body : Suffix → List Char
  | .element index => index.spelling ++ [']']
  | .field name => name.toList
  | .call arguments => (", ".intercalate (renderAll Strength.loosest arguments)).toList ++ [')']

def text (suffix : Suffix) : List Char := suffix.mark :: suffix.body

def IsPlain : Suffix → Prop
  | .element index => index.IsPlain
  | .field name => isIdentifier name = true
  | .call arguments => ∀ argument ∈ arguments, argument.IsPlain

theorem spelling_attach (operand : Expr) (suffix : Suffix) :
    (suffix.attach operand).spelling = operand.spellingAt Strength.atom ++ suffix.text := by
  cases suffix with
  | element index => exact spelling_element ..
  | field name => exact spelling_field ..
  | call arguments => exact spelling_call ..

theorem strength_attach (operand : Expr) (suffix : Suffix) :
    (suffix.attach operand).strength = Strength.atom := by cases suffix <;> rfl

end Suffix

/-- An operand at a place that asks for an atom is a head with suffixes. -/
structure Spine (expr : Expr) (head : Head) (suffixes : List Suffix) : Prop where
  assembles : suffixes.foldl Suffix.attach head.toExpr = expr
  plain : head.IsPlain
  suffixes_plain : ∀ suffix ∈ suffixes, suffix.IsPlain
  spelling : expr.spellingAt Strength.atom = head.text ++ suffixes.flatMap Suffix.text

variable {expr other : Expr} {head head' : Head} {suffix suffix' : Suffix} {suffixes suffixes' : List Suffix}
  {arguments arguments' : List Expr} {bound : Nat} {after after' : List Char}

/-- A head is a spine by itself. -/
theorem spine_of_head (head : Head) (h : head.IsPlain)
    (hspelling : head.toExpr.spellingAt Strength.atom = head.text) :
    Spine head.toExpr head [] where
  assembles := rfl
  plain := h
  suffixes_plain := by simp
  spelling := by rw [hspelling, List.flatMap_nil, List.append_nil]

/-- An operand that binds more loosely than an atom is put in parentheses. -/
theorem spine_of_lt (h : expr.IsPlain) (hlt : expr.strength < Strength.atom) :
    Spine expr (.enclosed expr) [] := spine_of_head (.enclosed expr) h (spellingAt_of_lt hlt)

/-- A suffix goes on with the spine of its operand. -/
theorem Spine.attach (h : Spine expr head suffixes) (suffix : Suffix) (hsuffix : suffix.IsPlain) :
    Spine (suffix.attach expr) head (suffixes ++ [suffix]) where
  assembles := by rw [List.foldl_append, h.assembles, List.foldl_cons, List.foldl_nil]
  plain := h.plain
  suffixes_plain := List.forall_mem_append.mpr ⟨h.suffixes_plain, List.forall_mem_singleton.mpr hsuffix⟩
  spelling := by
    have hstrength : Strength.atom ≤ (suffix.attach expr).strength :=
      Nat.le_of_eq (suffix.strength_attach expr).symm
    rw [spellingAt_of_le hstrength, suffix.spelling_attach, h.spelling, List.flatMap_append,
      List.flatMap_singleton, List.append_assoc]

/-- Every plain expression is a spine at places that ask for an atom. -/
theorem IsPlain.exists_spine (h : expr.IsPlain) : ∃ head suffixes, Spine expr head suffixes := by
  have hplain := h
  induction h with
  | integer value => exact ⟨_, [], spine_of_head (.number value) trivial rfl⟩
  | @name name hname =>
    have hhead : (Head.word name none).IsPlain := ⟨hname, by simp⟩
    exact ⟨_, [], spine_of_head _ hhead (List.append_nil _).symm⟩
  | @tagged name tag hname htag =>
    have hhead : (Head.word name (some tag)).IsPlain := ⟨hname, by simpa using htag⟩
    exact ⟨_, [], spine_of_head _ hhead (spelling_tagged name tag)⟩
  | element haggregate hindex ih =>
    obtain ⟨head, suffixes, hspine⟩ := ih haggregate
    exact ⟨head, _, hspine.attach (.element _) hindex⟩
  | field haggregate hname ih =>
    obtain ⟨head, suffixes, hspine⟩ := ih haggregate
    exact ⟨head, _, hspine.attach (.field _) hname⟩
  | call hcallee harguments ih =>
    obtain ⟨head, suffixes, hspine⟩ := ih hcallee
    exact ⟨head, _, hspine.attach (.call _) harguments⟩
  | accumulation op =>
    have hlt : op.strength < Strength.atom := by cases op <;> decide
    exact ⟨_, _, spine_of_lt hplain hlt⟩
  | binary op =>
    have hlt : op.strength < Strength.atom := by cases op <;> decide
    exact ⟨_, _, spine_of_lt hplain hlt⟩
  | comparison =>
    have hlt : Strength.comparison < Strength.atom := by decide
    exact ⟨_, _, spine_of_lt hplain hlt⟩
  | negation =>
    have hlt : Strength.negation < Strength.atom := by decide
    exact ⟨_, _, spine_of_lt hplain hlt⟩
  | junction op =>
    have hlt : op.strength < Strength.atom := by cases op <;> decide
    exact ⟨_, _, spine_of_lt hplain hlt⟩

/-- After a head or a suffix comes another suffix or what may follow an operand. -/
def EndsPart (text : List Char) : Prop :=
  ∀ char ∈ text.head?, char ∈ ['[', '.', '(', ')', ']', ',', ' ', '*']

theorem EndsPart.stopsRun (h : EndsPart after) : StopsRun isWordChar after :=
  stopsRun_of_mem_head? (by decide) h

theorem EndsPart.stopsDigits (h : EndsPart after) : StopsRun Char.isDigit after :=
  stopsRun_of_mem_head? (by decide) h

theorem endsPart_of_suffixes {asked : Nat} (hafter : Ends asked after) (suffixes : List Suffix) :
    EndsPart (suffixes.flatMap Suffix.text ++ after) := by
  intro char hchar
  cases suffixes with
  | nil => exact List.mem_append_right ['[', '.', '('] (hafter.mem_of_mem_head? hchar)
  | cons suffix rest =>
    obtain rfl : suffix.mark = char := Option.some.inj hchar
    cases suffix <;> simp [Suffix.mark]

/-- A text in brackets is determined by what begins with it, if it is short enough. -/
theorem UniqueBelow.spelling_eq (hunique : UniqueBelow bound Strength.loosest) (hplain : expr.IsPlain)
    (hplain' : other.IsPlain) (hafter : Ends Strength.loosest after) (hafter' : Ends Strength.loosest after')
    (hlength : expr.spelling.length < bound) (h : expr.spelling ++ after = other.spelling ++ after') :
    expr = other ∧ after = after' := by
  have hloosest (expr : Expr) : expr.spellingAt Strength.loosest = expr.spelling :=
    spellingAt_of_le (Nat.zero_le _)
  exact hunique hplain hplain' hafter hafter' (by rwa [hloosest]) (by rwa [hloosest, hloosest])

/-- The tag after a name is determined by what begins with it. -/
theorem tagText_append_inj {tag tag' : Option String} (htag : ∀ word ∈ tag, isIdentifier word = true)
    (htag' : ∀ word ∈ tag', isIdentifier word = true) (hafter : EndsPart after) (hafter' : EndsPart after')
    (h : Head.tagText tag ++ after = Head.tagText tag' ++ after') : tag = tag' ∧ after = after' := by
  have hdollar (word : String) (rest : List Char) :
      ¬ EndsPart (Head.tagText (some word) ++ rest) := fun hends => absurd (hends '$' rfl) (by decide)
  cases tag with
  | none =>
    cases tag' with
    | none => exact ⟨rfl, h⟩
    | some word' => exact absurd (h ▸ hafter) (hdollar word' after')
  | some word =>
    cases tag' with
    | none => exact absurd (h ▸ hafter') (hdollar word after)
    | some word' =>
      obtain ⟨hword, hends⟩ := append_eq_append_of_runs (isWordChar_of_isIdentifier (htag word rfl))
        (isWordChar_of_isIdentifier (htag' word' rfl)) hafter.stopsRun hafter'.stopsRun (List.cons.inj h).2
      exact ⟨congrArg some (String.toList_injective hword), hends⟩

/-- A tag is no part of the name in front of it. -/
theorem stopsRun_tagText (tag : Option String) (hafter : EndsPart after) :
    StopsRun isWordChar (Head.tagText tag ++ after) := by
  cases tag with
  | none => exact hafter.stopsRun
  | some word =>
    intro char hchar
    obtain rfl : '$' = char := Option.some.inj hchar
    decide

/-- A head at the beginning of a text is determined by the text. -/
theorem UniqueBelow.head_eq (hunique : UniqueBelow bound Strength.loosest) (hplain : head.IsPlain)
    (hplain' : head'.IsPlain) (hafter : EndsPart after) (hafter' : EndsPart after')
    (hlength : head.text.length ≤ bound) (h : head.text ++ after = head'.text ++ after') :
    head = head' ∧ after = after' := by
  obtain ⟨first, rest, htext, hnumber, hword⟩ := Head.exists_text_eq_cons hplain
  obtain ⟨first', rest', htext', hnumber', hword'⟩ := Head.exists_text_eq_cons hplain'
  obtain rfl : first = first' := by
    rw [htext, htext'] at h
    exact (List.cons.inj h).1
  match head, head', hnumber.symm.trans hnumber', hword.symm.trans hword' with
  | .number value, .number value', _, _ =>
    obtain ⟨rfl, hrest⟩ := numeral_append_inj hafter.stopsDigits hafter'.stopsDigits h
    exact ⟨rfl, hrest⟩
  | .word name tag, .word name' tag', _, _ =>
    simp only [Head.text, List.append_assoc] at h
    obtain ⟨hname, htags⟩ := append_eq_append_of_runs (isWordChar_of_isIdentifier hplain.1)
      (isWordChar_of_isIdentifier hplain'.1) (stopsRun_tagText tag hafter) (stopsRun_tagText tag' hafter') h
    obtain rfl := String.toList_injective hname
    obtain ⟨rfl, hrest⟩ := tagText_append_inj hplain.2 hplain'.2 hafter hafter' htags
    exact ⟨rfl, hrest⟩
  | .enclosed inner, .enclosed inner', _, _ =>
    simp only [Head.text, List.cons_append, List.append_assoc, List.nil_append, List.length_cons,
      List.length_append, List.length_nil] at h hlength
    obtain ⟨rfl, hrest⟩ := hunique.spelling_eq hplain hplain' (.closing after (by decide))
      (.closing after' (by decide)) (by omega) (List.cons.inj h).2
    exact ⟨rfl, (List.cons.inj hrest).2⟩

/-- The text of an argument that is not the first. -/
def spellingOfArgument (argument : Expr) : List Char := ", ".toList ++ argument.spellingAt Strength.loosest

/-- After an argument comes a comma or the closing parenthesis. -/
theorem ends_spellingOfArguments (arguments : List Expr) (after : List Char) :
    Ends Strength.loosest (arguments.flatMap spellingOfArgument ++ ')' :: after) := by
  cases arguments with
  | nil => exact .closing after (by decide)
  | cons argument rest => exact .closing _ (by decide)

/-- An argument that is not the first is determined by what begins with it. -/
theorem UniqueBelow.argument_eq (hunique : UniqueBelow bound Strength.loosest) (hplain : expr.IsPlain)
    (hplain' : other.IsPlain) (hafter : Ends Strength.loosest after) (hafter' : Ends Strength.loosest after')
    (hlength : (spellingOfArgument expr).length ≤ bound)
    (h : spellingOfArgument expr ++ after = spellingOfArgument other ++ after') :
    expr = other ∧ after = after' := by
  have hcomma : 0 < ", ".toList.length := by decide
  simp only [spellingOfArgument, List.append_assoc, List.length_append] at h hlength
  exact hunique hplain hplain' hafter hafter' (by omega) (List.append_cancel_left h)

/-- Further arguments are determined by what begins with them and a closing parenthesis. -/
theorem UniqueBelow.moreArguments_eq (hunique : UniqueBelow bound Strength.loosest)
    (hplain : ∀ argument ∈ arguments, argument.IsPlain) (hplain' : ∀ argument ∈ arguments', argument.IsPlain)
    (hlength : (arguments.flatMap spellingOfArgument).length ≤ bound)
    (h : arguments.flatMap spellingOfArgument ++ ')' :: after =
      arguments'.flatMap spellingOfArgument ++ ')' :: after') : arguments = arguments' ∧ after = after' := by
  have hfollows (arguments : List Expr) (rest : List Char) (hrest : ∃ after, rest = ')' :: after) :
      Ends Strength.loosest (arguments.flatMap spellingOfArgument ++ rest) := by
    obtain ⟨after, rfl⟩ := hrest
    exact ends_spellingOfArguments arguments after
  -- a comma is no closing parenthesis
  have hends (argument : Expr) (rest : List Char) :
      ¬ ∃ after, spellingOfArgument argument ++ rest = ')' :: after :=
    fun ⟨_, hsame⟩ => absurd (List.cons.inj hsame).1 (by decide)
  obtain ⟨hsame, hrest⟩ := flatMap_append_inj (fun arguments _ => hfollows arguments)
    (fun argument _ => hends argument) (fun _ _ _ _ => hunique.argument_eq) hplain hplain' ⟨after, rfl⟩
    ⟨after', rfl⟩ hlength h
  exact ⟨hsame, (List.cons.inj hrest).2⟩

/-- The arguments of a call are determined by what begins with them and a closing parenthesis. -/
theorem UniqueBelow.arguments_eq (hunique : UniqueBelow bound Strength.loosest)
    (hplain : ∀ argument ∈ arguments, argument.IsPlain) (hplain' : ∀ argument ∈ arguments', argument.IsPlain)
    (hlength : (", ".intercalate (renderAll Strength.loosest arguments)).toList.length < bound)
    (h : (", ".intercalate (renderAll Strength.loosest arguments)).toList ++ ')' :: after =
      (", ".intercalate (renderAll Strength.loosest arguments')).toList ++ ')' :: after') :
    arguments = arguments' ∧ after = after' := by
  -- an argument begins like an operand, not with a closing parenthesis
  have hnone {argument : Expr} (hargument : argument.IsPlain) (rest after : List Char) :
      argument.spellingAt Strength.loosest ++ rest ≠ ')' :: after := by
    obtain ⟨first, more, htext, hfirst⟩ := hargument.opening.opensOperand_spellingAt Strength.loosest
    rw [htext]
    rintro hsame
    obtain rfl : first = ')' := (List.cons.inj hsame).1
    exact absurd hfirst (by decide)
  match arguments, arguments' with
  | [], [] => exact ⟨rfl, (List.cons.inj h).2⟩
  | [], argument' :: rest' =>
    rw [toList_intercalate_renderAll, List.append_assoc] at h
    exact absurd h.symm (hnone (hplain' argument' List.mem_cons_self) _ _)
  | argument :: rest, [] =>
    rw [toList_intercalate_renderAll, List.append_assoc] at h
    exact absurd h (hnone (hplain argument List.mem_cons_self) _ _)
  | argument :: rest, argument' :: rest' =>
    obtain ⟨hargument, hrest⟩ := List.forall_mem_cons.mp hplain
    obtain ⟨hargument', hrest'⟩ := List.forall_mem_cons.mp hplain'
    rw [toList_intercalate_renderAll, List.length_append] at hlength
    rw [toList_intercalate_renderAll, toList_intercalate_renderAll, List.append_assoc,
      List.append_assoc] at h
    obtain ⟨rfl, hothers⟩ := hunique hargument hargument' (ends_spellingOfArguments rest after)
      (ends_spellingOfArguments rest' after') (by omega) h
    have hlengthRest : (rest.flatMap spellingOfArgument).length ≤ bound :=
      Nat.le_of_lt (Nat.lt_of_le_of_lt (Nat.le_add_left _ _) hlength)
    obtain ⟨rfl, hends⟩ := hunique.moreArguments_eq hrest hrest' hlengthRest hothers
    exact ⟨rfl, hends⟩

/-- A suffix at the beginning of a text is determined by the text. -/
theorem UniqueBelow.suffix_eq (hunique : UniqueBelow bound Strength.loosest) (hplain : suffix.IsPlain)
    (hplain' : suffix'.IsPlain) (hafter : EndsPart after) (hafter' : EndsPart after')
    (hlength : suffix.text.length ≤ bound) (h : suffix.text ++ after = suffix'.text ++ after') :
    suffix = suffix' ∧ after = after' := by
  obtain ⟨hmark, hbody⟩ : suffix.mark = suffix'.mark ∧ suffix.body ++ after = suffix'.body ++ after' :=
    List.cons.inj h
  match suffix, suffix' with
  | .element index, .element index' =>
    simp only [Suffix.text, Suffix.body, List.append_assoc, List.length_cons, List.length_append]
      at hbody hlength
    obtain ⟨rfl, hrest⟩ := hunique.spelling_eq hplain hplain' (.closing after (by decide))
      (.closing after' (by decide)) (by omega) hbody
    exact ⟨rfl, (List.cons.inj hrest).2⟩
  | .field name, .field name' =>
    obtain ⟨hname, hrest⟩ := append_eq_append_of_runs (isWordChar_of_isIdentifier hplain)
      (isWordChar_of_isIdentifier hplain') hafter.stopsRun hafter'.stopsRun hbody
    exact ⟨congrArg Suffix.field (String.toList_injective hname), hrest⟩
  | .call arguments, .call arguments' =>
    simp only [Suffix.text, Suffix.body, List.append_assoc, List.length_cons, List.length_append]
      at hbody hlength
    obtain ⟨rfl, hrest⟩ := hunique.arguments_eq hplain hplain' (by omega) hbody
    exact ⟨rfl, hrest⟩
  | .element _, .field _ | .element _, .call _ | .field _, .element _ | .field _, .call _
  | .call _, .element _ | .call _, .field _ => simp [Suffix.mark] at hmark

/-- A suffix does not begin what may follow an operand. -/
theorem not_ends_suffixes {asked : Nat} (suffix : Suffix) (rest : List Char) :
    ¬ Ends asked (suffix.text ++ rest) := by
  intro hends
  have hmark : suffix.mark ∈ [')', ']', ',', ' ', '*'] := hends.mem_of_mem_head? rfl
  cases suffix <;> simp [Suffix.mark] at hmark

/-- The suffixes of an operand are determined by the text that begins with them. -/
theorem UniqueBelow.suffixes_eq {asked : Nat} (hunique : UniqueBelow bound Strength.loosest)
    (hplain : ∀ suffix ∈ suffixes, suffix.IsPlain) (hplain' : ∀ suffix ∈ suffixes', suffix.IsPlain)
    (hafter : Ends asked after) (hafter' : Ends asked after')
    (hlength : (suffixes.flatMap Suffix.text).length ≤ bound)
    (h : suffixes.flatMap Suffix.text ++ after = suffixes'.flatMap Suffix.text ++ after') :
    suffixes = suffixes' ∧ after = after' :=
  flatMap_append_inj (fun suffixes _ _ hafter => endsPart_of_suffixes hafter suffixes)
    (fun suffix _ => not_ends_suffixes suffix) (fun _ _ _ _ => hunique.suffix_eq) hplain hplain' hafter
    hafter' hlength h

/-- At a place that asks for an atom the text determines the operand, if it determines what is in the
brackets of the operand. -/
theorem uniqueBelow_atom (hunique : UniqueBelow bound Strength.loosest) :
    UniqueBelow (bound + 1) Strength.atom := by
  intro expr other after after' hplain hplain' hafter hafter' hlength h
  obtain ⟨head, suffixes, hspine⟩ := hplain.exists_spine
  obtain ⟨head', suffixes', hspine'⟩ := hplain'.exists_spine
  rw [hspine.spelling, List.length_append] at hlength
  rw [hspine.spelling, hspine'.spelling, List.append_assoc, List.append_assoc] at h
  obtain ⟨rfl, hsuffixes⟩ := hunique.head_eq hspine.plain hspine'.plain
    (endsPart_of_suffixes hafter suffixes) (endsPart_of_suffixes hafter' suffixes') (by omega) h
  obtain ⟨rfl, hends⟩ := hunique.suffixes_eq hspine.suffixes_plain hspine'.suffixes_plain hafter hafter'
    (by omega) hsuffixes
  exact ⟨hspine.assembles.symm.trans hspine'.assembles, hends⟩

end Expr

end StorageTyping
