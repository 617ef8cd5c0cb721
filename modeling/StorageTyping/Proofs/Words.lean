import Mathlib.Data.List.Basic

/-!
# Runs of characters, numerals and parts of texts

A run of characters of one kind that is followed by another kind of character, or by nothing, can be told
from what follows it (`append_eq_append_of_runs`). A numeral in decimal is a run of digits, with a sign
in front if it is negative, so a text that begins with a numeral determines the number
(`numeral_append_inj`). A text that begins with some parts of one sort determines them if it determines the
first of them and where they end (`flatMap_append_inj`).
-/

namespace StorageTyping

/-- No text of a kind of characters goes on at the beginning of another text. -/
def StopsRun (kind : Char → Bool) (text : List Char) : Prop := ∀ char ∈ text.head?, kind char = false

variable {kind : Char → Bool}

theorem StopsRun.takeWhile_eq_nil {text : List Char} (h : StopsRun kind text) : text.takeWhile kind = [] := by
  cases text with
  | nil => rfl
  | cons first rest => exact List.takeWhile_cons_of_neg (by simp [h first rfl])

/-- No text of a kind goes on at the beginning of a text that begins with one of some other characters. -/
theorem stopsRun_of_mem_head? {text others : List Char} (hothers : (others.all fun char => !kind char) = true)
    (h : ∀ char ∈ text.head?, char ∈ others) : StopsRun kind text := fun char hchar => by
  simpa using List.all_eq_true.mp hothers char (h char hchar)

/-- A run and what follows it are determined by the whole. -/
theorem append_eq_append_of_runs {left right after after' : List Char}
    (hleft : ∀ char ∈ left, kind char = true) (hright : ∀ char ∈ right, kind char = true)
    (hafter : StopsRun kind after) (hafter' : StopsRun kind after')
    (h : left ++ after = right ++ after') : left = right ∧ after = after' := by
  have hrun := congrArg (List.takeWhile kind) h
  rw [List.takeWhile_append_of_pos hleft, List.takeWhile_append_of_pos hright, hafter.takeWhile_eq_nil,
    hafter'.takeWhile_eq_nil, List.append_nil, List.append_nil] at hrun
  exact ⟨hrun, List.append_cancel_left (hrun ▸ h)⟩

/-- Parts at the beginning of a text are determined by it, if no part begins what may end them, and if a
part is determined by the text that begins with it and goes on as after a part. -/
theorem flatMap_append_inj {Part : Type} {spell : Part → List Char} {valid : Part → Prop}
    {ends follows : List Char → Prop} {bound : Nat} {parts parts' : List Part} {after after' : List Char}
    (hfollows : ∀ parts : List Part, (∀ part ∈ parts, valid part) → ∀ after, ends after →
      follows (parts.flatMap spell ++ after))
    (hends : ∀ part, valid part → ∀ rest, ¬ ends (spell part ++ rest))
    (hpart : ∀ part part' rest rest', valid part → valid part' → follows rest → follows rest' →
      (spell part).length ≤ bound → spell part ++ rest = spell part' ++ rest' → part = part' ∧ rest = rest')
    (hvalid : ∀ part ∈ parts, valid part) (hvalid' : ∀ part ∈ parts', valid part) (hafter : ends after)
    (hafter' : ends after') (hlength : (parts.flatMap spell).length ≤ bound)
    (h : parts.flatMap spell ++ after = parts'.flatMap spell ++ after') :
    parts = parts' ∧ after = after' := by
  induction parts generalizing parts' with
  | nil =>
    cases parts' with
    | nil => exact ⟨rfl, h⟩
    | cons part' rest' =>
      rw [List.flatMap_nil, List.nil_append, List.flatMap_cons, List.append_assoc] at h
      exact absurd (h ▸ hafter) (hends part' (hvalid' part' List.mem_cons_self) _)
  | cons part rest ih =>
    cases parts' with
    | nil =>
      rw [List.flatMap_nil, List.nil_append, List.flatMap_cons, List.append_assoc] at h
      exact absurd (h ▸ hafter') (hends part (hvalid part List.mem_cons_self) _)
    | cons part' rest' =>
      obtain ⟨hfirst, hrest⟩ := List.forall_mem_cons.mp hvalid
      obtain ⟨hfirst', hrest'⟩ := List.forall_mem_cons.mp hvalid'
      rw [List.flatMap_cons, List.length_append] at hlength
      rw [List.flatMap_cons, List.flatMap_cons, List.append_assoc, List.append_assoc] at h
      obtain ⟨rfl, hothers⟩ := hpart part part' _ _ hfirst hfirst' (hfollows rest hrest after hafter)
        (hfollows rest' hrest' after' hafter') (by omega) h
      obtain ⟨rfl, hlast⟩ := ih hrest hrest' (by omega) hothers
      exact ⟨rfl, hlast⟩

/-- The decimal digits of a number determine it. -/
theorem toDigits_injective {left right : Nat} (h : Nat.toDigits 10 left = Nat.toDigits 10 right) :
    left = right := by
  rw [← @Nat.ofDigitChars_ten_toDigits left, h, Nat.ofDigitChars_ten_toDigits]

theorem isDigit_of_mem_toDigits {number : Nat} {char : Char} (h : char ∈ Nat.toDigits 10 number) :
    char.isDigit = true := Nat.isDigit_of_mem_toDigits (by decide) (by decide) h

/-- A numeral is not empty. -/
theorem exists_toDigits_eq_cons (number : Nat) :
    ∃ first rest, Nat.toDigits 10 number = first :: rest ∧ first.isDigit = true := by
  obtain ⟨first, rest, hcons⟩ := List.exists_cons_of_ne_nil (@Nat.toDigits_ne_nil number 10)
  exact ⟨first, rest, hcons, isDigit_of_mem_toDigits (hcons ▸ List.mem_cons_self)⟩

theorem toList_toString_nat (number : Nat) : (toString number).toList = Nat.toDigits 10 number := by
  rw [Nat.toString_eq_ofList_toDigits, String.toList_ofList]

theorem toString_nat_injective {left right : Nat} (h : toString left = toString right) : left = right := by
  apply toDigits_injective
  rw [← toList_toString_nat, h, toList_toString_nat]

/-- A negative number is written with a sign. -/
theorem toList_toString_int (value : Int) :
    (toString value).toList =
      (if value < 0 then ['-'] else []) ++ Nat.toDigits 10 value.natAbs := by
  rw [Int.toString_eq_repr, Int.repr_eq_if]
  by_cases h : value < 0
  · rw [if_neg (by omega), if_pos h, show (-value).toNat = value.natAbs by omega, String.toList_append]
    exact congrArg (['-'] ++ ·) (toList_toString_nat value.natAbs)
  · rw [if_pos (by omega), if_neg h, show value.toNat = value.natAbs by omega]
    exact toList_toString_nat value.natAbs

/-- The number at the beginning of a text is determined by the text, if no digit follows it. -/
theorem numeral_append_inj {left right : Int} {after after' : List Char}
    (hafter : StopsRun Char.isDigit after) (hafter' : StopsRun Char.isDigit after')
    (h : (toString left).toList ++ after = (toString right).toList ++ after') :
    left = right ∧ after = after' := by
  have hunsigned {left right : Nat} (h : Nat.toDigits 10 left ++ after = Nat.toDigits 10 right ++ after') :
      left = right ∧ after = after' :=
    (append_eq_append_of_runs (fun _ => isDigit_of_mem_toDigits) (fun _ => isDigit_of_mem_toDigits)
      hafter hafter' h).imp_left toDigits_injective
  -- a sign and a digit are never the same, so both numbers have the same sign
  have hsign (number : Nat) (text : List Char) : ∀ rest, '-' :: text ≠ Nat.toDigits 10 number ++ rest := by
    obtain ⟨first, rest, hcons, hdigit⟩ := exists_toDigits_eq_cons number
    rintro _ hsame
    rw [hcons, List.cons_append] at hsame
    exact absurd ((List.cons.inj hsame).1 ▸ hdigit) (by decide)
  simp only [toList_toString_int] at h
  split at h <;> split at h
  · obtain ⟨hvalue, hrest⟩ := hunsigned (List.cons.inj h).2
    exact ⟨by omega, hrest⟩
  · exact absurd h (hsign _ _ _)
  · exact absurd h.symm (hsign _ _ _)
  · obtain ⟨hvalue, hrest⟩ := hunsigned h
    exact ⟨by omega, hrest⟩

end StorageTyping
