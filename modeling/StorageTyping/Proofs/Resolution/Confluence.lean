import StorageTyping.Proofs.Joins
import StorageTyping.Proofs.Resolution.Answers

/-!
# Confluence of the resolution

The order in which temporaries are tried does not matter, nor does the order or the repetition of
the writes. The answer for a temporary depends on the set of its writers only
(`resolveOne_eq_some_of_mem_iff`), and it is kept when more temporaries have types, so every table
that a run goes through is a part of every table at which another run can make no progress
(`Scope.Reached.partOf_of_saturated`). Two runs that end without a failure end at the same table,
and where one fails at a temporary the other fails as well.

Which failure is reported does depend on the order, if there are several. All this holds as long as
no temporary to be resolved is an argument as well.
-/

namespace StorageTyping

/-- A change in each round is a change in each round of a larger relation. -/
theorem Changes.imp {α : Type} {round round' : α → α → Prop} (h : ∀ a b, round a b → round' a b)
    {count : Nat} {a b : α} (hchanges : Changes round count a b) : Changes round' count a b := by
  induction hchanges with
  | none a => exact .none a
  | more hround hne _ ih => exact .more (h _ _ hround) hne ih

namespace Scope

variable {scope : Scope} {resolved : Table StorageType} {name : String}

/-- What a round gives depends on the set of types and the set of own readers only. -/
theorem Round.of_mem_iff {types types' : List StorageType} {ownReaders ownReaders' : List Expr}
    (htypes : ∀ type, type ∈ types ↔ type ∈ types')
    (hownReaders : ∀ reader, reader ∈ ownReaders ↔ reader ∈ ownReaders')
    {assumed widened : StorageType} (h : scope.Round resolved name types ownReaders assumed widened) :
    scope.Round resolved name types' ownReaders' assumed widened := by
  obtain ⟨ownTypes, hown, hjoin⟩ := h
  obtain ⟨htyped, rfl⟩ := inferAll_eq_ok_iff.mp hown
  refine ⟨_, inferAll_eq_ok_iff.mpr ⟨fun reader hreader => ?_, rfl⟩,
    StorageType.joinAll_eq_ok_of_mem_iff (fun type => ?_) hjoin⟩
  · exact htyped reader ((hownReaders reader).mpr hreader)
  · simp [htypes, hownReaders]

/-- The type of a temporary depends on the set of its writers only. -/
theorem resolveOne_eq_some_of_mem_iff {writers writers' : List Expr}
    (h : ∀ writer, writer ∈ writers ↔ writer ∈ writers') {type : StorageType}
    (hsome : (resolveOne scope resolved (name, writers)).result = .ok (some type)) :
    (resolveOne scope resolved (name, writers')).result = .ok (some type) := by
  obtain ⟨types, ownReaders, first, htry, hjoin, hrounds⟩ := resolveOne_eq_some_iff.mp hsome
  obtain ⟨hsplit, rfl, rfl⟩ := tryWriters_eq_some_iff.mp htry
  have hround (assumed widened : StorageType) (hbefore : scope.Round resolved name
      (writers.filterMap (scope.contextWith resolved).type?)
      (writers.filter ((scope.contextWith resolved).defersOn name)) assumed widened) :
      scope.Round resolved name (writers'.filterMap (scope.contextWith resolved).type?)
        (writers'.filter ((scope.contextWith resolved).defersOn name)) assumed widened :=
    hbefore.of_mem_iff (by simp [h]) (by simp [h])
  refine resolveOne_eq_some_iff.mpr ⟨_, _, first, tryWriters_eq_some_iff.mpr ⟨?_, rfl, rfl⟩,
    StorageType.joinAll_eq_ok_of_mem_iff (by simp [h]) hjoin, ?_⟩
  · exact fun writer hwriter => hsplit writer ((h writer).mpr hwriter)
  · rcases hrounds with ⟨count, hlt, hchanges, hfinal⟩ | hchanges
    · exact Or.inl ⟨count, hlt, hchanges.imp hround, hround _ _ hfinal⟩
    · exact Or.inr (hchanges.imp hround)

/-- No temporary without a type gets one at a table. -/
def Saturated (scope : Scope) (temporaries : List Written) (types : Table StorageType) : Prop :=
  ∀ written ∈ temporaries, types.find? written.1 = none →
    ∀ type, (resolveOne scope types written).result ≠ .ok (some type)

theorem saturated_of_forall_isSome {temporaries : List Written} {types : Table StorageType}
    (hall : ∀ written ∈ temporaries, (types.find? written.1).isSome) :
    scope.Saturated temporaries types := by
  intro written hwritten hnone
  have hsome := hall written hwritten
  rw [hnone] at hsome
  cases hsome

theorem saturated_of_waits {temporaries waiting : List Written} {types : Table StorageType}
    (hleft : ∀ written, written ∈ waiting ↔ written ∈ temporaries ∧ types.find? written.1 = none)
    (hwaits : ∀ written ∈ waiting, (resolveOne scope types written).result = .ok none) :
    scope.Saturated temporaries types := by
  intro written hwritten hnone type hsome
  cases (hwaits written ((hleft written).mpr ⟨hwritten, hnone⟩)).symm.trans hsome

section SameWrites

variable {left right : List (String × Expr)} {types closed : Table StorageType}

theorem mem_writersOf_of_mem_iff (hsame : ∀ write, write ∈ left ↔ write ∈ right) (name : String)
    (writer : Expr) : writer ∈ writersOf left name ↔ writer ∈ writersOf right name := by
  rw [mem_writersOf_iff, mem_writersOf_iff, hsame]

/-- The same expressions are writers if the same writes are given. -/
theorem isWriter_of_mem_iff (hsame : ∀ write, write ∈ left ↔ write ∈ right) {writer : Expr}
    (h : scope.IsWriter left writer) : scope.IsWriter right writer := by
  obtain ⟨name, huntyped, hwrite⟩ := h
  exact ⟨name, huntyped, (hsame _).mp hwrite⟩

/-- The same temporaries are tried if the same writes are given. -/
theorem mem_entries_of_mem_iff (hsame : ∀ write, write ∈ left ↔ write ∈ right)
    (hmem : (name, writersOf left name) ∈ (scope.writers left).entries) :
    (name, writersOf right name) ∈ (scope.writers right).entries := by
  obtain ⟨huntyped, -, hne⟩ := mem_entries_writers_iff.mp hmem
  obtain ⟨writer, hwriter⟩ := List.exists_mem_of_ne_nil _ hne
  exact mem_entries_writers_of_write huntyped ((hsame _).mp (mem_writersOf_iff.mp hwriter))

/-- What another run has reached is a part of a table at which no more progress is possible. -/
theorem Reached.partOf_of_saturated (hsame : ∀ write, write ∈ left ↔ write ∈ right)
    (h : scope.Reached (scope.writers left).entries types)
    (hclosed : scope.Reached (scope.writers right).entries closed) (hkept : scope.Preserves right closed)
    (hsaturated : scope.Saturated (scope.writers right).entries closed) : types.PartOf closed := by
  induction h with
  | start => exact fun _ _ hfound => by cases hfound
  | @insert resolved name writers type hreached hmem hnew hresolve ih =>
    have hwriters : ∀ writer ∈ writers, scope.IsWriter right writer :=
      fun _ hwriter => isWriter_of_mem_iff hsame (isWriter_of_mem_entries hmem hwriter)
    obtain ⟨-, rfl, -⟩ := mem_entries_writers_iff.mp hmem
    have hanswer : (resolveOne scope (closed.erase name) (name, writersOf right name)).result =
        .ok (some type) :=
      resolveOne_eq_some_of_mem_iff (mem_writersOf_of_mem_iff hsame name)
        ((hclosed.resolveOne_erase_of_partOf hkept ih hnew hwriters (by simp [hresolve])).trans hresolve)
    intro other found hfound
    rw [Table.find?_insert] at hfound
    split at hfound
    · rename_i hname
      subst hname
      cases hfound
      cases hname : closed.find? name with
      | none =>
        rw [Table.erase_eq_self hname] at hanswer
        exact absurd hanswer (hsaturated _ (mem_entries_of_mem_iff hsame hmem) hname type)
      | some known =>
        cases (hclosed.resolveOne_erase hkept hname).symm.trans hanswer
        rfl
    · exact ih other found hfound

/-- A failure in another run is a failure at a table at which no more progress is possible. -/
theorem Reached.failure_of_saturated (hsame : ∀ write, write ∈ left ↔ write ∈ right)
    (h : scope.Reached (scope.writers left).entries types)
    (hclosed : scope.Reached (scope.writers right).entries closed) (hkept : scope.Preserves right closed)
    (hsaturated : scope.Saturated (scope.writers right).entries closed)
    (hmem : (name, writersOf left name) ∈ (scope.writers left).entries) (hnew : types.find? name = none)
    {failure : Failure}
    (hfailure : (resolveOne scope types (name, writersOf left name)).result = .error failure) :
    closed.find? name = none ∧
      (resolveOne scope closed (name, writersOf left name)).result = .error failure := by
  have hpart := h.partOf_of_saturated hsame hclosed hkept hsaturated
  have hwriters : ∀ writer ∈ writersOf left name, scope.IsWriter right writer :=
    fun _ hwriter => isWriter_of_mem_iff hsame (isWriter_of_mem_entries hmem hwriter)
  have hanswer :=
    (hclosed.resolveOne_erase_of_partOf hkept hpart hnew hwriters (by simp [hfailure])).trans hfailure
  cases hname : closed.find? name with
  | none =>
    rw [Table.erase_eq_self hname] at hanswer
    exact ⟨rfl, hanswer⟩
  | some known =>
    have hknown := resolveOne_eq_some_of_mem_iff
      (fun writer => (mem_writersOf_of_mem_iff hsame name writer).symm)
      (hclosed.resolveOne_erase hkept hname)
    cases hknown.symm.trans hanswer

/-- Two runs that can make no more progress are at the same table. -/
theorem Reached.eq_of_saturated (hsame : ∀ write, write ∈ left ↔ write ∈ right)
    (hunshadowed : scope.Unshadowed left)
    (h : scope.Reached (scope.writers left).entries types)
    (hsaturated : scope.Saturated (scope.writers left).entries types)
    (hclosed : scope.Reached (scope.writers right).entries closed)
    (hclosedSaturated : scope.Saturated (scope.writers right).entries closed) : types = closed := by
  have hrightUnshadowed : scope.Unshadowed right := fun write hwrite =>
    hunshadowed write ((hsame write).mpr hwrite)
  have hforth := h.partOf_of_saturated hsame hclosed (hclosed.preserves hrightUnshadowed) hclosedSaturated
  have hback := hclosed.partOf_of_saturated (fun write => (hsame write).symm) h (h.preserves hunshadowed)
    hsaturated
  exact hforth.antisymm hback

/-- If one run finds all types, then any other run of the same writes finds the same. -/
theorem Ends.eq_ok_of_reached (hsame : ∀ write, write ∈ left ↔ write ∈ right)
    (hunshadowed : scope.Unshadowed left)
    (h : scope.Reached (scope.writers left).entries types)
    (hall : ∀ written ∈ (scope.writers left).entries, (types.find? written.1).isSome)
    {outcome : Except Failure (Table StorageType)}
    (hends : scope.Ends (scope.writers right).entries outcome) : outcome = .ok types := by
  have hsaturated : scope.Saturated (scope.writers left).entries types := saturated_of_forall_isSome hall
  have hfound {name : String} {writers : List Expr}
      (hmem : (name, writers) ∈ (scope.writers right).entries) (hnone : types.find? name = none) : False := by
    obtain ⟨-, rfl, -⟩ := mem_entries_writers_iff.mp hmem
    have hsome := hall _ (mem_entries_of_mem_iff (fun write => (hsame write).symm) hmem)
    rw [hnone] at hsome
    cases hsome
  cases hends with
  | resolved hother hotherAll =>
    rw [h.eq_of_saturated hsame hunshadowed hsaturated hother (saturated_of_forall_isSome hotherAll)]
  | stuck hother hleft hdistinct hne hwaits =>
    obtain rfl := h.eq_of_saturated hsame hunshadowed hsaturated hother (saturated_of_waits hleft hwaits)
    obtain ⟨written, hwritten⟩ := List.exists_mem_of_ne_nil _ hne
    obtain ⟨hmem, hnone⟩ := (hleft written).mp hwritten
    exact (hfound hmem hnone).elim
  | failed hother hmem hnew hfailure =>
    obtain ⟨-, rfl, -⟩ := mem_entries_writers_iff.mp hmem
    exact (hfound hmem (hother.failure_of_saturated (fun write => (hsame write).symm) h
      (h.preserves hunshadowed) hsaturated hmem hnew hfailure).1).elim

end SameWrites

/-- Outcomes that are the same, or both of which are hard failures. -/
def SameOutcome (left right : Except Failure (Table StorageType)) : Prop :=
  left = right ∨ ∃ leftFailure rightFailure, left = .error leftFailure ∧ right = .error rightFailure ∧
    leftFailure.IsHard ∧ rightFailure.IsHard

/-- The same outcomes leave the same temporaries unresolved. -/
theorem SameOutcome.eq_unresolved_iff {left right : Except Failure (Table StorageType)}
    (h : SameOutcome left right) (names : List String) (location : Option String) :
    left = .error (.rejected (.unresolved names) location) ↔
      right = .error (.rejected (.unresolved names) location) := by
  rcases h with rfl | ⟨leftFailure, rightFailure, rfl, rfl, hleft, hright⟩
  · rfl
  · obtain ⟨cause, _, hcause, rfl⟩ := hleft
    obtain ⟨cause', _, hcause', rfl⟩ := hright
    constructor
    · intro hunresolved
      cases hunresolved
      cases hcause
    · intro hunresolved
      cases hunresolved
      cases hcause'

section SameTemporaries

variable {writes : List (String × Expr)} {types : Table StorageType} {waiting : List Written}

/-- Where one run is stuck, no other run has failed. -/
theorem Reached.resolveOne_ne_error_of_stuck (hunshadowed : scope.Unshadowed writes)
    (hstuck : scope.Reached (scope.writers writes).entries types)
    (hleft : ∀ written, written ∈ waiting ↔
      written ∈ (scope.writers writes).entries ∧ types.find? written.1 = none)
    (hwaits : ∀ written ∈ waiting, (resolveOne scope types written).result = .ok none)
    (h : scope.Reached (scope.writers writes).entries resolved) {writers : List Expr}
    (hmem : (name, writers) ∈ (scope.writers writes).entries) (hnew : resolved.find? name = none)
    (failure : Failure) : (resolveOne scope resolved (name, writers)).result ≠ .error failure := by
  intro hfailure
  obtain ⟨-, rfl, -⟩ := mem_entries_writers_iff.mp hmem
  obtain ⟨hnone, herror⟩ := h.failure_of_saturated (fun _ => Iff.rfl) hstuck (hstuck.preserves hunshadowed)
    (saturated_of_waits hleft hwaits) hmem hnew hfailure
  cases (hwaits _ ((hleft _).mpr ⟨hmem, hnone⟩)).symm.trans herror

/-- If one of two runs over the same temporaries finds all types, so does the other, and they are the same. -/
theorem Ends.eq_ok_iff (hunshadowed : scope.Unshadowed writes)
    {left right : Except Failure (Table StorageType)}
    (hleft : scope.Ends (scope.writers writes).entries left)
    (hright : scope.Ends (scope.writers writes).entries right) (types : Table StorageType) :
    left = .ok types ↔ right = .ok types := by
  have hforth {first second : Except Failure (Table StorageType)}
      (hfirst : scope.Ends (scope.writers writes).entries first)
      (hsecond : scope.Ends (scope.writers writes).entries second) (hok : first = .ok types) :
      second = .ok types := by
    subst hok
    cases hfirst with
    | resolved hreached hall => exact hsecond.eq_ok_of_reached (fun _ => Iff.rfl) hunshadowed hreached hall
  exact ⟨hforth hleft hright, hforth hright hleft⟩

/-- Any two runs over the same temporaries have the same outcome, if no operation fails for unresolved
temporaries. -/
theorem Ends.sameOutcome (hunshadowed : scope.Unshadowed writes)
    (hops : scope.ReducesBy writes (·.NeverUnresolved))
    {left right : Except Failure (Table StorageType)}
    (hleft : scope.Ends (scope.writers writes).entries left)
    (hright : scope.Ends (scope.writers writes).entries right) : SameOutcome left right := by
  cases hleft with
  | resolved hreached hall =>
    exact Or.inl (hright.eq_ok_of_reached (fun _ => Iff.rfl) hunshadowed hreached hall).symm
  | stuck hreached hstuck hdistinct hne hwaits =>
    cases hright with
    | resolved hother hall =>
      exact Or.inl ((Ends.stuck hreached hstuck hdistinct hne hwaits).eq_ok_of_reached (fun _ => Iff.rfl)
        hunshadowed hother hall)
    | stuck hother hotherStuck hotherDistinct hotherNe hotherWaits =>
      obtain rfl := hreached.eq_of_saturated (fun _ => Iff.rfl) hunshadowed
        (saturated_of_waits hstuck hwaits) hother (saturated_of_waits hotherStuck hotherWaits)
      have hnames := (List.perm_ext_iff_of_nodup hdistinct hotherDistinct).mpr fun name => by
        simp only [List.mem_map, hstuck, hotherStuck]
      rw [namesInOrder_eq_of_perm hnames]
      exact Or.inl rfl
    | failed hother hmem hnew hfailure =>
      exact absurd hfailure
        (hreached.resolveOne_ne_error_of_stuck hunshadowed hstuck hwaits hother hmem hnew _)
  | failed hreached hmem hnew hfailure =>
    cases hright with
    | resolved hother hall =>
      exact Or.inl ((Ends.failed hreached hmem hnew hfailure).eq_ok_of_reached (fun _ => Iff.rfl)
        hunshadowed hother hall)
    | stuck hother hstuck hdistinct hne hwaits =>
      exact absurd hfailure
        (hother.resolveOne_ne_error_of_stuck hunshadowed hstuck hwaits hreached hmem hnew _)
    | failed hother hotherMem hotherNew hotherFailure =>
      exact Or.inr ⟨_, _, rfl, rfl,
        isHard_of_resolveOne_eq_error (hops.of_mem_entries hmem) hfailure,
        isHard_of_resolveOne_eq_error (hops.of_mem_entries hotherMem) hotherFailure⟩

end SameTemporaries

/-- Neither the order and repetition of the writes nor the order in which temporaries are tried has
an influence on what a resolution finds, whatever operations reduce. The order in which temporaries are
tried has none on how a resolution fails either, if no operation fails for unresolved temporaries. -/
theorem resolve_order_irrelevant {writes : List (String × Expr)} (hunshadowed : scope.Unshadowed writes) :
    (∀ other, (∀ write, write ∈ other ↔ write ∈ writes) → ∀ types,
      (scope.resolve other).result = .ok types ↔ (scope.resolve writes).result = .ok types) ∧
    ∀ first second, first.Perm (scope.writers writes).entries →
      second.Perm (scope.writers writes).entries →
        (∀ types, (settle scope .empty [] first).result = .ok types ↔
          (settle scope .empty [] second).result = .ok types) ∧
        (scope.ReducesBy writes (·.NeverUnresolved) →
          SameOutcome (settle scope .empty [] first).result (settle scope .empty [] second).result) := by
  refine ⟨fun other hsame types => ⟨fun h => ?_, fun h => ?_⟩, fun first second hfirst hsecond => ?_⟩
  · obtain ⟨hreached, hall⟩ := reached_of_resolve_eq_ok h
    exact (scope.resolve_ends writes).eq_ok_of_reached hsame
      (fun write hwrite => hunshadowed write ((hsame write).mp hwrite)) hreached hall
  · obtain ⟨hreached, hall⟩ := reached_of_resolve_eq_ok h
    exact (scope.resolve_ends other).eq_ok_of_reached (fun write => (hsame write).symm) hunshadowed
      hreached hall
  · have hfirstEnds := settle_empty_ends scope hfirst (scope.writers writes).nodup_entries
    have hsecondEnds := settle_empty_ends scope hsecond (scope.writers writes).nodup_entries
    exact ⟨hfirstEnds.eq_ok_iff hunshadowed hsecondEnds,
      fun hops => hfirstEnds.sameOutcome hunshadowed hops hsecondEnds⟩

end Scope

/-- The dot product is resolved alike with its writes in reverse and with its temporaries in reverse. -/
theorem resolve_order_irrelevant_dotProduct :
    dotProductScope.Unshadowed dotProductWrites ∧
      dotProductScope.ReducesBy dotProductWrites (·.NeverUnresolved) ∧
      (dotProductScope.resolve dotProductWrites.reverse).result = .ok dotProductTypes ∧
        Scope.SameOutcome
          (settle dotProductScope .empty []
            (dotProductScope.writers dotProductWrites).entries.reverse).result
          (settle dotProductScope .empty []
            (dotProductScope.writers dotProductWrites).entries).result := by
  obtain ⟨hwrites, hschedules⟩ := Scope.resolve_order_irrelevant unshadowed_dotProduct
  have hops := reducesBy_dotProduct Reduction.neverUnresolved
  exact ⟨unshadowed_dotProduct, hops, (hwrites _ (fun _ => List.mem_reverse) _).mpr resolve_dotProduct,
    (hschedules _ _ (List.reverse_perm _) (List.Perm.refl _)).2 hops⟩

end StorageTyping
