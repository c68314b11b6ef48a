/-!
# Tables in order of entry

A table maps names to entries and remembers the order in which the names came in.  Replacing an
entry keeps its place; a name that was erased and comes in again stands at the end.

**Invariant.** No name stands twice.  It is part of the type, so `Table.names` never repeats one.

* `Table.get?`, `Table.insert`, `Table.erase` are the operations, `Table.names` is the order.
-/

namespace Laminar

/-- The entry under a name. -/
def lookupEntry {α : Type} (name : String) : List (String × α) → Option α
  | [] => none
  | (k, v) :: rest => if k = name then some v else lookupEntry name rest

/-- Set the entry under a name, in its place or at the end. -/
def setEntry {α : Type} (name : String) (value : α) : List (String × α) → List (String × α)
  | [] => [(name, value)]
  | (k, v) :: rest => if k = name then (k, value) :: rest else (k, v) :: setEntry name value rest

/-- Setting an entry adds its name at the end, if it is not there. -/
theorem map_fst_setEntry {α : Type} (name : String) (value : α) (entries : List (String × α)) :
    (setEntry name value entries).map Prod.fst =
      if name ∈ entries.map Prod.fst then entries.map Prod.fst
      else entries.map Prod.fst ++ [name] := by
  induction entries with
  | nil => simp [setEntry]
  | cons entry rest ih =>
    obtain ⟨k, v⟩ := entry
    by_cases hk : k = name
    · simp [setEntry, hk]
    · simp only [setEntry, if_neg hk, List.map_cons, ih, List.mem_cons, Ne.symm hk, false_or]
      split <;> rfl

/-- Setting repeats no name. -/
theorem nodup_setEntry {α : Type} {name : String} {value : α} {entries : List (String × α)}
    (h : (entries.map Prod.fst).Nodup) : ((setEntry name value entries).map Prod.fst).Nodup := by
  rw [map_fst_setEntry]
  split
  · exact h
  · rename_i hnew
    refine List.nodup_append.2 ⟨h, by simp, ?_⟩
    rintro k hk _ hname rfl
    rw [List.mem_singleton] at hname
    exact hnew (hname ▸ hk)

/-- A table in order of entry. -/
structure Table (α : Type) where
  entries : List (String × α)
  nodup : (entries.map Prod.fst).Nodup := by simp

namespace Table

variable {α : Type}

/-- The table without entries. -/
def empty : Table α := { entries := [] }

instance : Inhabited (Table α) := ⟨empty⟩

/-- The names, in the order they came in. -/
def names (t : Table α) : List String := t.entries.map Prod.fst

/-- The number of entries. -/
def size (t : Table α) : Nat := t.entries.length

/-- The entry under a name. -/
def get? (t : Table α) (name : String) : Option α := lookupEntry name t.entries

/-- Is there an entry under a name? -/
def contains (t : Table α) (name : String) : Bool := (t.get? name).isSome

/-- Set the entry under a name. -/
def insert (t : Table α) (name : String) (value : α) : Table α :=
  { entries := setEntry name value t.entries, nodup := nodup_setEntry t.nodup }

/-- Remove the entry under a name. -/
def erase (t : Table α) (name : String) : Table α :=
  { entries := t.entries.filter (·.1 != name)
    nodup := t.nodup.sublist ((List.filter_sublist).map Prod.fst) }

/-- The table with some entries, later ones replacing earlier ones. -/
def ofList (entries : List (String × α)) : Table α :=
  entries.foldl (fun t e => t.insert e.1 e.2) empty

/-! ### What the operations do -/

@[simp]
theorem get?_empty (name : String) : (empty : Table α).get? name = none := rfl

/-- Only the entry that is set changes. -/
theorem get?_insert (t : Table α) (name other : String) (value : α) :
    (t.insert name value).get? other = if name = other then some value else t.get? other := by
  obtain ⟨entries, nodup⟩ := t
  simp only [insert, get?]
  clear nodup
  induction entries with
  | nil => simp [setEntry, lookupEntry]
  | cons e rest ih =>
    obtain ⟨k, v⟩ := e
    by_cases hk : k = name
    · subst hk; by_cases ho : k = other <;> simp [setEntry, lookupEntry, ho]
    · by_cases ho : k = other
      · subst ho; simp [setEntry, lookupEntry, hk, Ne.symm hk]
      · simp [setEntry, lookupEntry, hk, ho, ih]

/-- Only the entry that is erased is gone. -/
theorem get?_erase (t : Table α) (name other : String) :
    (t.erase name).get? other = if name = other then none else t.get? other := by
  obtain ⟨entries, nodup⟩ := t
  simp only [erase, get?]
  clear nodup
  induction entries with
  | nil => simp [lookupEntry]
  | cons e rest ih =>
    obtain ⟨k, v⟩ := e
    by_cases hk : k = name
    · subst hk; by_cases ho : k = other <;> simp_all [lookupEntry]
    · by_cases ho : k = other
      · subst ho; simp [lookupEntry, hk, Ne.symm hk]
      · simp [lookupEntry, hk, ho, ih]

/-- A name has an entry exactly when it is listed. -/
theorem isSome_get?_iff (t : Table α) (name : String) :
    (t.get? name).isSome ↔ name ∈ t.names := by
  obtain ⟨entries, nodup⟩ := t
  simp only [get?, names]
  clear nodup
  induction entries with
  | nil => simp [lookupEntry]
  | cons e rest ih =>
    obtain ⟨k, v⟩ := e
    by_cases hk : k = name
    · simp [lookupEntry, hk]
    · simp [lookupEntry, hk, ih, Ne.symm hk]

end Table

end Laminar
