/-!
# Tables keyed by name

A table is a finite map from names to values, kept as the list of its entries in ascending
order of the names (code point by code point, which is also the order of their UTF-8 bytes).
The order is part of the type, so two tables that answer every lookup alike are equal
(`Table.ext_find?`), and a list of names read off a table is sorted without further work.

`find?_insert`, `find?_erase` and `find?_map` say what each operation does to the lookups;
nothing else about an operation is needed elsewhere.
-/

namespace StorageTyping

/-- A finite map from names to values, its entries in strictly ascending order of the names. -/
structure Table (α : Type) where
  entries : List (String × α)
  ascending : entries.Pairwise fun a b => a.1 < b.1

namespace Table

variable {α β : Type}

/-- The value that a list of entries gives to a name, the first entry deciding. -/
def lookup (name : String) : List (String × α) → Option α
  | [] => none
  | (key, value) :: rest => if key = name then some value else lookup name rest

/-- Put an entry at its place in an ascending list, replacing the one of the same name. -/
def place (name : String) (value : α) : List (String × α) → List (String × α)
  | [] => [(name, value)]
  | (key, old) :: rest =>
    if name < key then (name, value) :: (key, old) :: rest
    else if key = name then (name, value) :: rest
    else (key, old) :: place name value rest

/-- Every entry after placing is the new one or an old one. -/
theorem mem_of_mem_place {name : String} {value : α} {entry : String × α} :
    {entries : List (String × α)} → entry ∈ place name value entries →
      entry = (name, value) ∨ entry ∈ entries
  | [], h => by simpa [place] using h
  | (key, old) :: rest, h => by
    unfold place at h
    split at h
    · simpa using h
    · split at h
      · rcases List.mem_cons.mp h with h | h
        · exact Or.inl h
        · exact Or.inr (List.mem_cons_of_mem _ h)
      · rcases List.mem_cons.mp h with h | h
        · exact Or.inr (h ▸ List.mem_cons_self)
        · exact (mem_of_mem_place h).imp id (List.mem_cons_of_mem _)

/-- Placing an entry keeps the names ascending. -/
theorem pairwise_place (name : String) (value : α) {entries : List (String × α)}
    (h : entries.Pairwise fun a b => a.1 < b.1) :
    (place name value entries).Pairwise fun a b => a.1 < b.1 := by
  induction entries with
  | nil => simp [place]
  | cons entry rest ih =>
    obtain ⟨key, old⟩ := entry
    obtain ⟨hhead, htail⟩ := List.pairwise_cons.mp h
    unfold place
    split
    · rename_i hlt
      refine List.pairwise_cons.mpr ⟨fun other hother => ?_, h⟩
      rcases List.mem_cons.mp hother with rfl | hother
      · exact hlt
      · exact String.lt_trans hlt (hhead other hother)
    · split
      · rename_i heq
        subst heq
        exact List.pairwise_cons.mpr ⟨hhead, htail⟩
      · refine List.pairwise_cons.mpr ⟨fun other hother => ?_, ih htail⟩
        rcases mem_of_mem_place hother with rfl | hother
        · grind
        · exact hhead other hother

/-- The table without entries. -/
def empty : Table α := ⟨[], List.Pairwise.nil⟩

instance : Inhabited (Table α) := ⟨empty⟩

/-- The value of a name, if the table has one. -/
def find? (table : Table α) (name : String) : Option α := lookup name table.entries

/-- Give a name a value, whether it had one or not. -/
def insert (table : Table α) (name : String) (value : α) : Table α :=
  ⟨place name value table.entries, pairwise_place name value table.ascending⟩

/-- Take a name out of the table. -/
def erase (table : Table α) (name : String) : Table α :=
  ⟨table.entries.filter fun entry => entry.1 ≠ name, table.ascending.filter _⟩

/-- Replace every value by its image. -/
def map (f : α → β) (table : Table α) : Table β :=
  ⟨table.entries.map fun entry => (entry.1, f entry.2), table.ascending.map _ fun _ _ h => h⟩

/-- Insert entries one after the other, so that the last entry of a name decides. -/
def insertAll (table : Table α) (entries : List (String × α)) : Table α :=
  entries.foldl (fun table entry => table.insert entry.1 entry.2) table

/-- Build a table from entries in any order, the last one of a name deciding. -/
def ofList (entries : List (String × α)) : Table α := empty.insertAll entries

/-- The names of a table in ascending order. -/
def names (table : Table α) : List String := table.entries.map (·.1)

/-- The names whose values meet a condition, in ascending order. -/
def namesWhere (table : Table α) (condition : α → Bool) : List String :=
  (table.entries.filter fun entry => condition entry.2).map (·.1)

@[simp] theorem find?_empty (name : String) : (empty : Table α).find? name = none := rfl

theorem lookup_place (name other : String) (value : α) (entries : List (String × α)) :
    lookup other (place name value entries) =
      if name = other then some value else lookup other entries := by
  induction entries with
  | nil => simp [place, lookup]
  | cons entry rest ih =>
    obtain ⟨key, old⟩ := entry
    unfold place
    split
    · simp [lookup]
    · split
      · simp only [lookup]
        split <;> simp_all
      · simp only [lookup, ih]
        split <;> split <;> simp_all

/-- An inserted name answers with its new value and every other name as before. -/
@[simp] theorem find?_insert (table : Table α) (name other : String) (value : α) :
    (table.insert name value).find? other = if name = other then some value else table.find? other :=
  lookup_place name other value table.entries

theorem lookup_filter_ne (name other : String) (entries : List (String × α)) :
    lookup other (entries.filter fun entry => entry.1 ≠ name) =
      if name = other then none else lookup other entries := by
  induction entries with
  | nil => simp [lookup]
  | cons entry rest ih =>
    obtain ⟨key, value⟩ := entry
    by_cases hkey : key = name
    · subst hkey
      simp_all [lookup]
    · rw [List.filter_cons_of_pos (by simpa using hkey)]
      simp only [lookup, ih]
      split <;> split <;> simp_all

/-- An erased name has no value and every other name keeps its own. -/
@[simp] theorem find?_erase (table : Table α) (name other : String) :
    (table.erase name).find? other = if name = other then none else table.find? other :=
  lookup_filter_ne name other table.entries

/-- Mapping the values maps every answer. -/
@[simp] theorem find?_map (f : α → β) (table : Table α) (name : String) :
    (table.map f).find? name = (table.find? name).map f := by
  obtain ⟨entries, ascending⟩ := table
  simp only [find?, map]
  clear ascending
  induction entries with
  | nil => rfl
  | cons entry rest ih =>
    simp only [List.map_cons, lookup, ih]
    split <;> simp

/-- A name has a value exactly where an entry of the table says so. -/
theorem find?_eq_some_iff {table : Table α} {name : String} {value : α} :
    table.find? name = some value ↔ (name, value) ∈ table.entries := by
  obtain ⟨entries, ascending⟩ := table
  simp only [find?]
  induction entries with
  | nil => simp [lookup]
  | cons entry rest ih =>
    obtain ⟨key, old⟩ := entry
    obtain ⟨hhead, htail⟩ := List.pairwise_cons.mp ascending
    simp only [lookup, List.mem_cons, Prod.mk.injEq]
    split
    · rename_i hkey
      subst hkey
      constructor
      · intro h
        exact Or.inl ⟨rfl, (Option.some.inj h).symm⟩
      · rintro (⟨-, rfl⟩ | hmem)
        · rfl
        · exact absurd (hhead _ hmem) (String.lt_irrefl _)
    · rename_i hkey
      rw [ih htail]
      constructor
      · exact Or.inr
      · rintro (⟨rfl, -⟩ | hmem)
        · exact absurd rfl hkey
        · exact hmem

/-- A name below all names of a list has no value there. -/
theorem lookup_eq_none_of_lt {name : String} {entries : List (String × α)}
    (h : ∀ entry ∈ entries, name < entry.1) : lookup name entries = none := by
  induction entries with
  | nil => rfl
  | cons entry rest ih =>
    obtain ⟨key, value⟩ := entry
    have hkey : key ≠ name := fun e => String.lt_irrefl _ (e ▸ h _ List.mem_cons_self)
    simp [lookup, hkey, ih fun entry hentry => h entry (List.mem_cons_of_mem _ hentry)]

theorem entries_eq_of_lookup_eq {left right : List (String × α)}
    (hleft : left.Pairwise fun a b => a.1 < b.1) (hright : right.Pairwise fun a b => a.1 < b.1)
    (h : ∀ name, lookup name left = lookup name right) : left = right := by
  induction left generalizing right with
  | nil =>
    cases right with
    | nil => rfl
    | cons entry rest => simpa [lookup] using h entry.1
  | cons entry rest ih =>
    cases right with
    | nil => simpa [lookup] using h entry.1
    | cons entry' rest' =>
      obtain ⟨key, value⟩ := entry
      obtain ⟨key', value'⟩ := entry'
      obtain ⟨hhead, htail⟩ := List.pairwise_cons.mp hleft
      obtain ⟨hhead', htail'⟩ := List.pairwise_cons.mp hright
      have hbelow : ∀ {a : String}, lookup a rest ≠ none → key < a := fun ha => by
        refine Decidable.byContradiction fun hna => ha ?_
        exact lookup_eq_none_of_lt fun entry hentry => by grind
      have hbelow' : ∀ {a : String}, lookup a rest' ≠ none → key' < a := fun ha => by
        refine Decidable.byContradiction fun hna => ha ?_
        exact lookup_eq_none_of_lt fun entry hentry => by grind
      have hkey : key = key' := by
        refine Decidable.byContradiction fun hne => ?_
        have h₁ := h key
        have h₂ := h key'
        simp only [lookup, if_true, Ne.symm hne, hne, if_false] at h₁ h₂
        have h₃ := hbelow' (a := key) (by simp [← h₁])
        have h₄ := hbelow (a := key') (by simp [h₂])
        exact String.lt_asymm h₃ h₄
      subst hkey
      have hvalue : value = value' := by simpa [lookup] using h key
      subst hvalue
      have hrest : rest = rest' := ih htail htail' fun name => by
        by_cases hname : key = name
        · subst hname
          rw [lookup_eq_none_of_lt hhead, lookup_eq_none_of_lt hhead']
        · simpa [lookup, hname] using h name
      rw [hrest]

/-- Two tables that answer every lookup alike are equal. -/
theorem ext_find? {left right : Table α} (h : ∀ name, left.find? name = right.find? name) :
    left = right := by
  obtain ⟨entries, ascending⟩ := left
  obtain ⟨entries', ascending'⟩ := right
  simp only [mk.injEq]
  exact entries_eq_of_lookup_eq ascending ascending' h

/-- The names of a table are strictly ascending. -/
theorem pairwise_names (table : Table α) : table.names.Pairwise (· < ·) :=
  table.ascending.map _ fun _ _ h => h

end Table

end StorageTyping
