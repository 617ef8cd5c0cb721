import StorageTyping.Expr.Rendering
import StorageTyping.Proofs.Words

/-!
# Plain expressions and their texts

Plain expressions consist of integers, names, access to elements and fields, calls, arithmetic, comparisons
and logic, where the names are identifiers and an operator on any number of operands has two at least.

An operator between operands is a `Link`. The text of an expression is that of its parts, each at the
strength that its place asks for, with links, brackets and commas between them.
-/

namespace StorageTyping

/-- Whether a character can stand in a name or a number. -/
def isWordChar (char : Char) : Bool := char.isAlphanum || char = '_'

/-- Whether a name can begin with a character. -/
def isNameStart (char : Char) : Bool := isWordChar char && !char.isDigit

/-- The words that are operators. -/
def operatorWords : List String := ["not", "and", "or"]

/-- Whether a name consists of letters, digits and underscores, does not begin with a digit and is no
operator. -/
def isIdentifier (name : String) : Bool :=
  !operatorWords.contains name &&
    match name.toList with
    | [] => false
    | first :: rest => isNameStart first && rest.all isWordChar

theorem isWordChar_of_isNameStart {char : Char} (h : isNameStart char = true) : isWordChar char = true :=
  (Bool.and_eq_true_iff.mp h).1

/-- No name begins with a digit. -/
theorem isNameStart_eq_false_of_isDigit {char : Char} (h : char.isDigit = true) :
    isNameStart char = false := by
  simp [isNameStart, h]

theorem isWordChar_of_isDigit {char : Char} (h : char.isDigit = true) : isWordChar char = true := by
  simp [isWordChar, Char.isAlphanum, h]

/-- An identifier is a word that begins like a name. -/
theorem exists_of_isIdentifier {name : String} (h : isIdentifier name = true) :
    ∃ first rest, name.toList = first :: rest ∧ isNameStart first = true ∧
      ∀ char ∈ first :: rest, isWordChar char = true := by
  simp only [isIdentifier, Bool.and_eq_true] at h
  obtain ⟨-, hletters⟩ := h
  split at hletters
  · cases hletters
  · rename_i first rest hname
    simp only [Bool.and_eq_true, List.all_eq_true] at hletters
    exact ⟨first, rest, hname, hletters.1,
      List.forall_mem_cons.mpr ⟨isWordChar_of_isNameStart hletters.1, hletters.2⟩⟩

theorem isWordChar_of_isIdentifier {name : String} (h : isIdentifier name = true) :
    ∀ char ∈ name.toList, isWordChar char = true := by
  obtain ⟨first, rest, hname, -, hword⟩ := exists_of_isIdentifier h
  exact hname ▸ hword

theorem ne_not_of_isIdentifier {name : String} (h : isIdentifier name = true) : name ≠ "not" := by
  rintro rfl
  exact absurd h (by decide)

/-- An operator between operands. -/
inductive Link where
  | junction (op : Junction)
  | comparison (relation : Relation)
  | accumulation (op : Accumulation)
  | binary (op : BinaryOp)
deriving DecidableEq

namespace Link

/-- The strength of an operator. -/
def strength : Link → Nat
  | .junction op => op.strength
  | .comparison _ => Strength.comparison
  | .accumulation op => op.strength
  | .binary op => op.strength

/-- The characters between the operands. -/
def text : Link → List Char
  | .junction op => op.symbol.toList
  | .comparison relation => (" " ++ relation.symbol ++ " ").toList
  | .accumulation op => op.symbol.toList
  | .binary op => op.symbol.toList

/-- Every operator between operands. -/
def all : List Link :=
  [junction .conjunction, junction .disjunction, accumulation .sum, accumulation .product, binary .quotient,
    binary .floorQuotient, binary .remainder, binary .power] ++ Relation.all.map comparison

theorem mem_all (link : Link) : link ∈ all := by
  cases link with
  | junction op => cases op <;> decide
  | comparison relation => cases relation <;> decide
  | accumulation op => cases op <;> decide
  | binary op => cases op <;> decide

end Link

namespace Expr

/-- An expression of integers, identifiers, access, calls, arithmetic, comparisons and logic. Access by a
flattened index is left out, as it has the text of access by an index. -/
inductive IsPlain : Expr → Prop
  | integer (value : Int) : IsPlain (.literal (.integer value))
  | name {name : String} (hname : isIdentifier name = true) : IsPlain (.reference name none)
  | tagged {name tag : String} (hname : isIdentifier name = true) (htag : isIdentifier tag = true) :
    IsPlain (.reference name (some tag))
  | element {aggregate index : Expr} (haggregate : IsPlain aggregate) (hindex : IsPlain index) :
    IsPlain (.element .indexed aggregate index)
  | field {aggregate : Expr} {name : String} (haggregate : IsPlain aggregate)
    (hname : isIdentifier name = true) : IsPlain (.field aggregate name)
  | accumulation (op : Accumulation) {first second : Expr} {rest : List Expr} (hfirst : IsPlain first)
    (hrest : ∀ operand ∈ second :: rest, IsPlain operand) :
    IsPlain (.accumulation op (first :: second :: rest))
  | binary (op : BinaryOp) {left right : Expr} (hleft : IsPlain left) (hright : IsPlain right) :
    IsPlain (.binary op left right)
  | call {callee : Expr} {arguments : List Expr} (hcallee : IsPlain callee)
    (harguments : ∀ argument ∈ arguments, IsPlain argument) : IsPlain (.call callee arguments)
  | comparison {left right : Expr} (relation : Relation) (hleft : IsPlain left) (hright : IsPlain right) :
    IsPlain (.comparison left relation right)
  | negation {operand : Expr} (hoperand : IsPlain operand) : IsPlain (.negation operand)
  | junction (op : Junction) {first second : Expr} {rest : List Expr} (hfirst : IsPlain first)
    (hrest : ∀ operand ∈ second :: rest, IsPlain operand) :
    IsPlain (.junction op (first :: second :: rest))

/-- The characters of an expression's text. -/
def spelling (expr : Expr) : List Char := expr.render.toList

/-- The characters of an operand's text at a place that asks for a strength. -/
def spellingAt (asked : Nat) (expr : Expr) : List Char := (enclose asked expr expr.render).toList

variable {expr : Expr} {asked : Nat}

theorem spellingAt_of_lt (h : expr.strength < asked) :
    expr.spellingAt asked = '(' :: (expr.spelling ++ [')']) := by
  rw [spellingAt, enclose, if_pos h, String.toList_append, String.toList_append]
  rfl

theorem spellingAt_of_le (h : asked ≤ expr.strength) : expr.spellingAt asked = expr.spelling := by
  rw [spellingAt, enclose, if_neg (Nat.not_lt.mpr h), spelling]

/-- Whether a place asks for a strength or for more makes a difference to operands of this strength only. -/
theorem spellingAt_succ (h : expr.strength ≠ asked) :
    expr.spellingAt (asked + 1) = expr.spellingAt asked := by
  rcases Nat.lt_or_gt_of_ne h with hlt | hgt
  · rw [spellingAt_of_lt hlt, spellingAt_of_lt (Nat.lt_succ_of_lt hlt)]
  · rw [spellingAt_of_le (Nat.le_of_lt hgt), spellingAt_of_le hgt]

/-- Texts with a separator between them. -/
theorem toList_intercalate_cons (separator first : String) (rest : List String) :
    (separator.intercalate (first :: rest)).toList =
      first.toList ++ rest.flatMap fun text => separator.toList ++ text.toList := by
  induction rest generalizing first with
  | nil => simp
  | cons second rest ih =>
    rw [String.intercalate_cons_cons, String.toList_append, ih, String.toList_append, List.flatMap_cons]
    simp only [List.append_assoc]

/-- The text of operands with a separator between them. -/
theorem toList_intercalate_renderAll (separator : String) (asked : Nat) (first : Expr) (rest : List Expr) :
    (separator.intercalate (renderAll asked (first :: rest))).toList =
      first.spellingAt asked ++ rest.flatMap fun operand => separator.toList ++ operand.spellingAt asked := by
  rw [renderAll_eq_map, List.map_cons, toList_intercalate_cons, List.flatMap_map]
  rfl

theorem spelling_tagged (name tag : String) :
    (reference name (some tag)).spelling = name.toList ++ '$' :: tag.toList := by
  have hrender : (reference name (some tag)).render = name ++ "$" ++ tag := rfl
  simp [spelling, hrender]

theorem spelling_element (addressing : Addressing) (aggregate index : Expr) :
    (element addressing aggregate index).spelling =
      aggregate.spellingAt Strength.atom ++ '[' :: (index.spelling ++ [']']) := by
  have hrender : (element addressing aggregate index).render =
      enclose Strength.atom aggregate aggregate.render ++ "[" ++ index.render ++ "]" := rfl
  simp [spelling, spellingAt, hrender]

theorem spelling_field (aggregate : Expr) (name : String) :
    (field aggregate name).spelling = aggregate.spellingAt Strength.atom ++ '.' :: name.toList := by
  have hrender : (field aggregate name).render =
      enclose Strength.atom aggregate aggregate.render ++ "." ++ name := rfl
  simp [spelling, spellingAt, hrender]

theorem spelling_accumulation (op : Accumulation) (first : Expr) (rest : List Expr) :
    (accumulation op (first :: rest)).spelling =
      first.spellingAt (op.strength + 1) ++
        rest.flatMap fun operand => (Link.accumulation op).text ++ operand.spellingAt (op.strength + 1) :=
  toList_intercalate_renderAll op.symbol (op.strength + 1) first rest

theorem spelling_binary (op : BinaryOp) (left right : Expr) :
    (binary op left right).spelling =
      left.spellingAt op.operandStrengths.1 ++
        ((Link.binary op).text ++ right.spellingAt op.operandStrengths.2) := by
  have hrender : (binary op left right).render =
      enclose op.operandStrengths.1 left left.render ++ op.symbol ++
        enclose op.operandStrengths.2 right right.render := rfl
  simp [spelling, spellingAt, hrender, Link.text]

theorem spelling_call (callee : Expr) (arguments : List Expr) :
    (call callee arguments).spelling =
      callee.spellingAt Strength.atom ++
        '(' :: ((", ".intercalate (renderAll Strength.loosest arguments)).toList ++ [')']) := by
  have hrender : (call callee arguments).render =
      enclose Strength.atom callee callee.render ++ "(" ++
        ", ".intercalate (renderAll Strength.loosest arguments) ++ ")" := rfl
  simp [spelling, spellingAt, hrender]

theorem spelling_comparison (left : Expr) (relation : Relation) (right : Expr) :
    (comparison left relation right).spelling =
      left.spellingAt Strength.sum ++
        ((Link.comparison relation).text ++ right.spellingAt Strength.sum) := by
  have hrender : (comparison left relation right).render =
      enclose Strength.sum left left.render ++ " " ++ relation.symbol ++ " " ++
        enclose Strength.sum right right.render := rfl
  simp [spelling, spellingAt, hrender, Link.text]

theorem spelling_negation (operand : Expr) :
    (negation operand).spelling = "not ".toList ++ operand.spellingAt Strength.negation :=
  String.toList_append

theorem spelling_junction (op : Junction) (first : Expr) (rest : List Expr) :
    (junction op (first :: rest)).spelling =
      first.spellingAt (op.strength + 1) ++
        rest.flatMap fun operand => (Link.junction op).text ++ operand.spellingAt (op.strength + 1) :=
  toList_intercalate_renderAll op.symbol (op.strength + 1) first rest

end Expr

end StorageTyping
