import StorageTyping.Proofs.Rendering.Openings

/-!
# Chains of operands

Take a strength that belongs to operators which stand between operands and group to the left or not at
all. At a place that asks for it the text of an expression is a chain: a first operand, and further ones
each with an operator of the strength in front. The operands are at places that ask for more, and the
expression can be put together again from them (`Expr.IsPlain.exists_chain`).

If what follows such an operand is never taken for a part of it, the links of a chain are found one after
the other, and hence the expression (`Expr.uniqueBelow_of_chains`).
-/

namespace StorageTyping

namespace Expr

/-- Whether a text of less than a number of characters determines the operand that it begins with, at a
place that asks for a strength, and what follows the operand. -/
def UniqueBelow (bound asked : Nat) : Prop :=
  ∀ ⦃expr other : Expr⦄ ⦃after after' : List Char⦄, expr.IsPlain → other.IsPlain → Ends asked after →
    Ends asked after' → (expr.spellingAt asked).length < bound →
      expr.spellingAt asked ++ after = other.spellingAt asked ++ after' → expr = other ∧ after = after'

/-- Put an expression together from its first operand and its links, the last one first. The last operator
tells how: operators on any number of operands take all of them, and divisions group to the left. -/
def assemble (first : Expr) : List (Link × Expr) → Expr
  | [] => first
  | (.junction op, last) :: earlier => .junction op (first :: ((earlier.map Prod.snd).reverse ++ [last]))
  | (.comparison relation, last) :: _ => .comparison first relation last
  | (.accumulation op, last) :: earlier =>
    .accumulation op (first :: ((earlier.map Prod.snd).reverse ++ [last]))
  | (.binary op, last) :: earlier => .binary op (assemble first earlier) last

/-- The text of a link, of which the operand is asked for a strength. -/
def spellingOfLink (asked : Nat) (link : Link × Expr) : List Char := link.1.text ++ link.2.spellingAt asked

/-- A link by an operator of a strength to a plain operand. -/
def IsLink (strength : Nat) (link : Link × Expr) : Prop := link.1.strength = strength ∧ link.2.IsPlain

/-- An expression is, at places that ask for a strength, a chain by operators of this strength. -/
structure Chain (strength : Nat) (expr first : Expr) (links : List (Link × Expr)) : Prop where
  assembles : assemble first links.reverse = expr
  plain : first.IsPlain
  areLinks : ∀ link ∈ links, IsLink strength link
  spelling : expr.spellingAt strength =
    first.spellingAt (strength + 1) ++ links.flatMap (spellingOfLink (strength + 1))

variable {expr first : Expr} {strength bound : Nat} {links links' : List (Link × Expr)}
  {after after' : List Char}

/-- An expression of another strength is a chain by itself. -/
theorem chain_of_strength_ne (h : expr.IsPlain) (hne : expr.strength ≠ strength) :
    Chain strength expr expr [] where
  assembles := rfl
  plain := h
  areLinks := by simp
  spelling := by rw [List.flatMap_nil, List.append_nil, spellingAt_succ hne]

/-- Operands with one operator between them are put together by the operator. -/
theorem assemble_reverse_map {link : Link} {node : List Expr → Expr} {rest : List Expr} (hrest : rest ≠ [])
    (hnode : ∀ last earlier, assemble first ((link, last) :: earlier) =
      node (first :: ((earlier.map Prod.snd).reverse ++ [last]))) :
    assemble first (rest.map (Prod.mk link)).reverse = node (first :: rest) := by
  obtain ⟨init, last, rfl⟩ := List.eq_nil_or_concat' rest |>.resolve_left hrest
  rw [List.map_append, List.reverse_append, List.map_singleton, List.reverse_singleton,
    List.singleton_append, hnode, List.map_reverse, List.reverse_reverse, List.map_map]
  simp only [Function.comp_def, List.map_id']

/-- An expression whose operator takes all of some operands is the chain of them. -/
theorem chain_of_operands (link : Link) {node : List Expr → Expr} {second : Expr} {rest : List Expr}
    (hfirst : first.IsPlain) (hrest : ∀ operand ∈ second :: rest, operand.IsPlain)
    (hnode : ∀ last earlier, assemble first ((link, last) :: earlier) =
      node (first :: ((earlier.map Prod.snd).reverse ++ [last])))
    (hstrength : (node (first :: second :: rest)).strength = link.strength)
    (hspelling : (node (first :: second :: rest)).spelling =
      first.spellingAt (link.strength + 1) ++
        (second :: rest).flatMap fun operand => link.text ++ operand.spellingAt (link.strength + 1)) :
    Chain link.strength (node (first :: second :: rest)) first ((second :: rest).map (Prod.mk link)) where
  assembles := assemble_reverse_map (List.cons_ne_nil _ _) hnode
  plain := hfirst
  areLinks := List.forall_mem_map.mpr fun operand hoperand => ⟨rfl, hrest operand hoperand⟩
  spelling := by
    rw [spellingAt_of_le (Nat.le_of_eq hstrength.symm), hspelling, List.flatMap_map]
    rfl

/-- All operators on two operands but the power are divisions, which group to the left. -/
theorem strengths_of_ne_power {op : BinaryOp} (h : op ≠ .power) :
    op.strength = Strength.product ∧ op.operandStrengths = (Strength.product, Strength.power) := by
  cases op with
  | power => exact absurd rfl h
  | _ => exact ⟨rfl, rfl⟩

/-- A division goes on with the chain of its left operand. -/
theorem Chain.division {op : BinaryOp} {left right : Expr} (hop : op ≠ .power)
    (hleft : Chain Strength.product left first links) (hright : right.IsPlain) :
    Chain Strength.product (.binary op left right) first (links ++ [(.binary op, right)]) where
  assembles := by
    rw [List.reverse_append, List.reverse_singleton, List.singleton_append, assemble, hleft.assembles]
  plain := hleft.plain
  areLinks := List.forall_mem_append.mpr
    ⟨hleft.areLinks, List.forall_mem_singleton.mpr ⟨(strengths_of_ne_power hop).1, hright⟩⟩
  spelling := by
    obtain ⟨hstrength, hasked⟩ := strengths_of_ne_power hop
    rw [spellingAt_of_le (Nat.le_of_eq hstrength.symm), spelling_binary, hasked, hleft.spelling,
      List.flatMap_append, List.append_assoc, List.flatMap_singleton]
    rfl

/-- A comparison is the chain of its operands. -/
theorem chain_of_comparison {left right : Expr} (relation : Relation) (hleft : left.IsPlain)
    (hright : right.IsPlain) :
    Chain Strength.comparison (.comparison left relation right) left [(.comparison relation, right)] where
  assembles := rfl
  plain := hleft
  areLinks := List.forall_mem_singleton.mpr ⟨rfl, hright⟩
  spelling := by
    have hstrength : Strength.comparison ≤ (comparison left relation right).strength := Nat.le_refl _
    rw [spellingAt_of_le hstrength, spelling_comparison, List.flatMap_singleton]
    rfl

/-- At places that ask for less than an atom has every plain expression is a chain, unless they ask for as
much as a negation or a power has. -/
theorem IsPlain.exists_chain (h : expr.IsPlain) (hatom : strength < Strength.atom)
    (hnegation : Strength.negation ≠ strength) (hpower : Strength.power ≠ strength) :
    ∃ first links, Chain strength expr first links := by
  have hplain := h
  induction h with
  | integer | name | tagged | element | field | call =>
    exact ⟨_, _, chain_of_strength_ne hplain (Nat.ne_of_gt hatom)⟩
  | accumulation op hfirst hrest =>
    by_cases hstrength : op.strength = strength
    · subst hstrength
      exact ⟨_, _, chain_of_operands (.accumulation op) hfirst hrest (fun _ _ => rfl) rfl
        (spelling_accumulation ..)⟩
    · exact ⟨_, _, chain_of_strength_ne hplain hstrength⟩
  | binary op hleft hright ihLeft =>
    by_cases hstrength : op.strength = strength
    · have hop : op ≠ .power := by
        rintro rfl
        exact hpower hstrength
      obtain rfl : Strength.product = strength := (strengths_of_ne_power hop).1 ▸ hstrength
      obtain ⟨first, links, hchain⟩ := ihLeft hleft
      exact ⟨_, _, hchain.division hop hright⟩
    · exact ⟨_, _, chain_of_strength_ne hplain hstrength⟩
  | comparison relation hleft hright =>
    by_cases hstrength : Strength.comparison = strength
    · subst hstrength
      exact ⟨_, _, chain_of_comparison relation hleft hright⟩
    · exact ⟨_, _, chain_of_strength_ne hplain hstrength⟩
  | negation => exact ⟨_, _, chain_of_strength_ne hplain hnegation⟩
  | junction op hfirst hrest =>
    by_cases hstrength : op.strength = strength
    · subst hstrength
      exact ⟨_, _, chain_of_operands (.junction op) hfirst hrest (fun _ _ => rfl) rfl
        (spelling_junction ..)⟩
    · exact ⟨_, _, chain_of_strength_ne hplain hstrength⟩

/-- Links of a strength are followed by the end or by operators that bind more loosely. -/
theorem IsLink.ends {link : Link × Expr} (h : IsLink strength link) (asked : Nat) (rest : List Char) :
    Ends (strength + 1) (spellingOfLink asked link ++ rest) := by
  rw [spellingOfLink, List.append_assoc]
  refine .link (Nat.lt_succ_of_le (Nat.le_of_eq h.1)) ?_
  exact (h.2.opening.opensOperand_spellingAt asked).append rest

/-- A link of a strength does not begin what may follow at a place that asks for it. -/
theorem IsLink.not_ends {link : Link × Expr} (h : IsLink strength link) (asked : Nat) (rest : List Char) :
    ¬ Ends strength (spellingOfLink asked link ++ rest) := by
  rw [spellingOfLink, List.append_assoc]
  intro hends
  have hlt := hends.strength_lt ((h.2.opening.opensOperand_spellingAt asked).append rest)
  exact absurd h.1 (Nat.ne_of_lt hlt)

/-- After an operand of a chain comes what may follow at its place. -/
theorem ends_spellingOfLinks (hlinks : ∀ link ∈ links, IsLink strength link) (hafter : Ends strength after) :
    Ends (strength + 1) (links.flatMap (spellingOfLink (strength + 1)) ++ after) := by
  cases links with
  | nil => exact hafter.mono (Nat.le_succ strength)
  | cons link rest =>
    rw [List.flatMap_cons, List.append_assoc]
    exact (hlinks link List.mem_cons_self).ends _ _

/-- A link at the beginning of a text is determined by the text. -/
theorem UniqueBelow.link_eq (hunique : UniqueBelow bound (strength + 1)) {link link' : Link × Expr}
    (hlink : IsLink strength link) (hlink' : IsLink strength link') (hafter : Ends (strength + 1) after)
    (hafter' : Ends (strength + 1) after') (hlength : (spellingOfLink (strength + 1) link).length ≤ bound)
    (h : spellingOfLink (strength + 1) link ++ after = spellingOfLink (strength + 1) link' ++ after') :
    link = link' ∧ after = after' := by
  obtain ⟨op, operand⟩ := link
  obtain ⟨op', operand'⟩ := link'
  obtain ⟨-, (hplain : operand.IsPlain)⟩ := hlink
  obtain ⟨-, (hplain' : operand'.IsPlain)⟩ := hlink'
  obtain ⟨first, rest, htext, -⟩ := op.exists_text_eq_cons
  simp only [spellingOfLink, List.append_assoc, List.length_append] at h hlength
  obtain ⟨rfl, hoperands⟩ := Link.text_append_inj ((hplain.opening.opensOperand_spellingAt _).append _)
    ((hplain'.opening.opensOperand_spellingAt _).append _) h
  rw [htext, List.length_cons] at hlength
  obtain ⟨rfl, hends⟩ := hunique hplain hplain' hafter hafter' (by omega) hoperands
  exact ⟨rfl, hends⟩

/-- The links of a chain are determined by the text that begins with them. -/
theorem UniqueBelow.links_eq (hunique : UniqueBelow bound (strength + 1))
    (hlinks : ∀ link ∈ links, IsLink strength link) (hlinks' : ∀ link ∈ links', IsLink strength link)
    (hafter : Ends strength after) (hafter' : Ends strength after')
    (hlength : (links.flatMap (spellingOfLink (strength + 1))).length ≤ bound)
    (h : links.flatMap (spellingOfLink (strength + 1)) ++ after =
      links'.flatMap (spellingOfLink (strength + 1)) ++ after') : links = links' ∧ after = after' :=
  flatMap_append_inj (fun _ hlinks _ => ends_spellingOfLinks hlinks) (fun _ hlink => hlink.not_ends _)
    (fun _ _ _ _ => hunique.link_eq) hlinks hlinks' hafter hafter' hlength h

/-- Where all expressions are chains, the text determines the expression if it determines its operands. -/
theorem uniqueBelow_of_chains (hunique : UniqueBelow bound (strength + 1))
    (hchains : ∀ expr : Expr, expr.IsPlain → ∃ first links, Chain strength expr first links) :
    UniqueBelow bound strength := by
  intro expr other after after' hplain hplain' hafter hafter' hlength h
  obtain ⟨first, links, hchain⟩ := hchains expr hplain
  obtain ⟨first', links', hchain'⟩ := hchains other hplain'
  rw [hchain.spelling, List.length_append] at hlength
  rw [hchain.spelling, hchain'.spelling, List.append_assoc, List.append_assoc] at h
  obtain ⟨rfl, hlinks⟩ := hunique hchain.plain hchain'.plain (ends_spellingOfLinks hchain.areLinks hafter)
    (ends_spellingOfLinks hchain'.areLinks hafter') (by omega) h
  obtain ⟨rfl, hends⟩ := hunique.links_eq hchain.areLinks hchain'.areLinks hafter hafter' (by omega) hlinks
  exact ⟨hchain.assembles.symm.trans hchain'.assembles, hends⟩

end Expr

end StorageTyping
