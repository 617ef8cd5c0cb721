import StorageTyping.Table

/-!
# Parts of tables

A table is a part of another if the other has all of its entries. Inserting a new name makes a
table larger in this sense, and erasing a name, or restricting the table to some names, makes it
smaller.
-/

namespace StorageTyping

namespace Table

variable {α : Type}

/-- A name without a value is another one than a name with a value. -/
theorem ne_of_find? {table : Table α} {name other : String} {value : α} (hnone : table.find? name = none)
    (hsome : table.find? other = some value) : name ≠ other := by
  intro hname
  rw [hname, hsome] at hnone
  cases hnone

/-- Another table has the entries of this one. -/
def PartOf (small large : Table α) : Prop :=
  ∀ name value, small.find? name = some value → large.find? name = some value

theorem PartOf.trans {small middle large : Table α} (h : small.PartOf middle)
    (h' : middle.PartOf large) : small.PartOf large :=
  fun name value hsmall => h' name value (h name value hsmall)

theorem PartOf.antisymm {left right : Table α} (h : left.PartOf right)
    (h' : right.PartOf left) : left = right :=
  ext_find? fun name => Option.ext fun value => ⟨h name value, h' name value⟩

/-- A table is a part of what it becomes when a new name is inserted. -/
theorem partOf_insert {table : Table α} {name : String} (hnew : table.find? name = none)
    (value : α) : table.PartOf (table.insert name value) := by
  intro other found hfound
  have hname := ne_of_find? hnew hfound
  rw [find?_insert, if_neg hname, hfound]

theorem place_perm {name : String} {entries : List (String × α)} (h : lookup name entries = none)
    (value : α) : (place name value entries).Perm ((name, value) :: entries) := by
  induction entries with
  | nil => exact List.Perm.refl _
  | cons entry rest ih =>
    obtain ⟨key, old⟩ := entry
    rw [lookup] at h
    unfold place
    split
    · exact List.Perm.refl _
    · split
      · rename_i hkey
        rw [if_pos hkey] at h
        cases h
      · rename_i hkey
        rw [if_neg hkey] at h
        exact ((ih h).cons (key, old)).trans (List.Perm.swap _ _ _)

/-- A new name adds one entry. -/
theorem entries_insert_perm {table : Table α} {name : String} (hnew : table.find? name = none)
    (value : α) : (table.insert name value).entries.Perm ((name, value) :: table.entries) :=
  place_perm hnew value

/-- What is left when a name is erased is a part of the table. -/
theorem erase_partOf {table : Table α} {name : String} :
    (table.erase name).PartOf table := by
  intro other value hfound
  rw [find?_erase] at hfound
  split at hfound
  · cases hfound
  · exact hfound

/-- What lacks a name is a part of a table without the name if it is a part of the table. -/
theorem PartOf.erase {small large : Table α} (h : small.PartOf large) {name : String}
    (hnew : small.find? name = none) : small.PartOf (large.erase name) := by
  intro other value hfound
  have hname := ne_of_find? hnew hfound
  rw [find?_erase, if_neg hname, h other value hfound]

/-- A table has one entry for a name. -/
theorem nodup_entries (table : Table α) : (table.entries.map (·.1)).Nodup :=
  table.pairwise_names.imp String.ne_of_lt

/-- To take out a name that is not there changes nothing. -/
theorem erase_eq_self {table : Table α} {name : String} (h : table.find? name = none) :
    table.erase name = table := by
  refine ext_find? fun other => ?_
  by_cases hname : name = other
  · rw [find?_erase, if_pos hname, ← hname, h]
  · rw [find?_erase, if_neg hname]

/-- The entries of some names. -/
def restrict (table : Table α) (keep : String → Bool) : Table α :=
  ⟨table.entries.filter fun entry => keep entry.1, table.ascending.filter _⟩

/-- The names that are kept have their values, and no others. -/
theorem find?_restrict (table : Table α) (keep : String → Bool) (name : String) :
    (table.restrict keep).find? name = if keep name then table.find? name else none := by
  refine Option.ext fun value => ?_
  have hmem : (name, value) ∈ (table.restrict keep).entries ↔
      (name, value) ∈ table.entries ∧ keep name = true := List.mem_filter
  rw [find?_eq_some_iff, hmem, ← find?_eq_some_iff]
  by_cases hname : keep name = true <;> simp [hname]

/-- A table with the entries of another one put over its own. -/
def overlay (table more : Table α) : Table α := table.insertAll more.entries

/-- Of the entries of a name that are inserted in ascending order there is one, which decides. -/
theorem find?_insertAll (table : Table α) {entries : List (String × α)}
    (hascending : entries.Pairwise fun a b => a.1 < b.1) (name : String) :
    (table.insertAll entries).find? name = (lookup name entries).or (table.find? name) := by
  induction entries generalizing table with
  | nil => rfl
  | cons entry rest ih =>
    obtain ⟨hhead, htail⟩ := List.pairwise_cons.mp hascending
    have hinsert : table.insertAll (entry :: rest) = (table.insert entry.1 entry.2).insertAll rest := rfl
    rw [hinsert, ih _ htail, find?_insert, lookup]
    by_cases hname : entry.1 = name
    · rw [if_pos hname, if_pos hname, lookup_eq_none_of_lt (hname ▸ hhead)]
      rfl
    · rw [if_neg hname, if_neg hname]

/-- A name has its value in the table put over another one, or else in the other one. -/
@[simp] theorem find?_overlay (table more : Table α) (name : String) :
    (table.overlay more).find? name = (more.find? name).or (table.find? name) :=
  table.find?_insertAll more.ascending name

@[simp] theorem overlay_empty (table : Table α) : table.overlay .empty = table := rfl

/-- To put a name over a table last is to insert it. -/
theorem overlay_insert (table more : Table α) (name : String) (value : α) :
    table.overlay (more.insert name value) = (table.overlay more).insert name value := by
  refine ext_find? fun other => ?_
  by_cases hname : name = other <;> simp [hname]

/-- Only a name whose value meets a condition is among the names for it. -/
theorem mem_namesWhere_iff {table : Table α} {condition : α → Bool} {name : String} :
    name ∈ table.namesWhere condition ↔ ∃ value, table.find? name = some value ∧ condition value = true := by
  simp only [namesWhere, List.mem_map, List.mem_filter, find?_eq_some_iff, Prod.exists]
  grind

/-- The names for a condition ascend strictly. -/
theorem pairwise_namesWhere (table : Table α) (condition : α → Bool) :
    (table.namesWhere condition).Pairwise (· < ·) :=
  (table.ascending.filter _).map _ fun _ _ h => h

end Table

end StorageTyping
