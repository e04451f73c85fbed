import CheckPlan.Text.Basic

namespace CheckPlan

/-- Values under distinct names, in the order in which the names came up. -/
structure Table (α : Type) where
  entries : List (Text × α)
  distinct : (entries.map Prod.fst).Nodup

namespace Table

variable {α : Type}

/-- The entries with the value under a name changed, or with the name put at
    the end when it is new. -/
def changeIn (name : Text) (change : Option α → α) : List (Text × α) → List (Text × α)
  | [] => [(name, change none)]
  | entry :: rest =>
    if entry.1 = name then
      (entry.1, change (some entry.2)) :: rest
    else
      entry :: changeIn name change rest

/-- A change adds at most the name itself, and adds it at the end. -/
theorem map_fst_changeIn (name : Text) (change : Option α → α) (entries : List (Text × α)) :
    (changeIn name change entries).map Prod.fst =
      if name ∈ entries.map Prod.fst then entries.map Prod.fst
      else entries.map Prod.fst ++ [name] := by
  induction entries with
  | nil => simp [changeIn]
  | cons entry rest ih =>
    by_cases hname : entry.1 = name
    · simp [changeIn, hname]
    · rw [changeIn, if_neg hname, List.map_cons, ih]
      by_cases hmem : name ∈ rest.map Prod.fst
      · rw [if_pos hmem, List.map_cons, if_pos (List.mem_cons_of_mem _ hmem)]
      · have hnot : name ∉ entry.1 :: rest.map Prod.fst := by
          simp only [List.mem_cons, not_or]
          exact ⟨fun h => hname h.symm, hmem⟩
        rw [if_neg hmem, List.map_cons, if_neg hnot, List.cons_append]

private theorem distinct_changeIn (name : Text) (change : Option α → α) {entries : List (Text × α)}
    (hdistinct : (entries.map Prod.fst).Nodup) :
    ((changeIn name change entries).map Prod.fst).Nodup := by
  rw [map_fst_changeIn]
  by_cases hmem : name ∈ entries.map Prod.fst
  · rwa [if_pos hmem]
  · rw [if_neg hmem, List.nodup_append]
    refine ⟨hdistinct, by simp, ?_⟩
    intro left hleft right hright heq
    rw [List.mem_singleton.mp hright] at heq
    exact hmem (heq ▸ hleft)

/-- The value under a name among entries. -/
def lookupIn (name : Text) (entries : List (Text × α)) : Option α :=
  (entries.find? fun entry => entry.1 = name).map Prod.snd

/-- Looking up after a change finds the changed value under its name, and what
    was there before under any other name. -/
private theorem lookupIn_changeIn (name other : Text) (change : Option α → α)
    (entries : List (Text × α)) :
    lookupIn other (changeIn name change entries) =
      if other = name then some (change (lookupIn name entries)) else lookupIn other entries := by
  induction entries with
  | nil =>
    by_cases hother : other = name
    · simp [changeIn, lookupIn, hother]
    · have hname : ¬ name = other := fun h => hother h.symm
      simp [changeIn, lookupIn, hother, hname]
  | cons entry rest ih =>
    by_cases hentry : entry.1 = name
    · by_cases hother : other = name
      · simp [changeIn, lookupIn, hentry, hother]
      · have hname : ¬ name = other := fun h => hother h.symm
        simp [changeIn, lookupIn, hentry, hother, hname]
    · unfold lookupIn at ih ⊢
      by_cases hfound : entry.1 = other
      · have hother : ¬ other = name := fun h => hentry (hfound.trans h)
        simp [changeIn, hfound, hother]
      · rw [changeIn, if_neg hentry]
        simpa [hentry, hfound] using ih

private theorem lookupIn_eq_none_iff {name : Text} {entries : List (Text × α)} :
    lookupIn name entries = none ↔ name ∉ entries.map Prod.fst := by
  rw [lookupIn, Option.map_eq_none_iff, List.find?_eq_none]
  constructor
  · intro hnone hmem
    obtain ⟨entry, hentry, rfl⟩ := List.mem_map.mp hmem
    exact hnone entry hentry (by simp)
  · intro hnot entry hentry heq
    exact hnot (List.mem_map.mpr ⟨entry, hentry, by simpa using heq⟩)

private theorem changeIn_const (name : Text) (value : α) {entries : List (Text × α)}
    (hdistinct : (entries.map Prod.fst).Nodup) :
    changeIn name (fun _ => value) entries =
      if name ∈ entries.map Prod.fst then
        entries.map fun entry => if entry.1 = name then (name, value) else entry
      else entries ++ [(name, value)] := by
  induction entries with
  | nil => rfl
  | cons entry rest ih =>
    rw [List.map_cons, List.nodup_cons] at hdistinct
    rw [changeIn, List.map_cons]
    by_cases hname : entry.1 = name
    · have hrest : ∀ other ∈ rest, (if other.1 = name then (name, value) else other) = other := by
        intro other hmem
        have hother : ¬ other.1 = name := by
          intro hother
          rw [hname, ← hother] at hdistinct
          exact hdistinct.1 (List.mem_map_of_mem hmem)
        rw [if_neg hother]
      rw [if_pos hname, if_pos (by simp [hname]), List.map_cons, if_pos hname, hname,
        List.map_congr_left hrest, List.map_id']
    · have hne : ¬ name = entry.1 := fun heq => hname heq.symm
      rw [if_neg hname, ih hdistinct.2]
      by_cases hmem : name ∈ rest.map Prod.fst
      · rw [if_pos hmem, if_pos (List.mem_cons_of_mem _ hmem), List.map_cons, if_neg hname]
      · rw [if_neg hmem, if_neg (by simpa [hne] using hmem), List.cons_append]

private theorem lookupIn_of_mem {entries : List (Text × α)}
    (hdistinct : (entries.map Prod.fst).Nodup)
    {entry : Text × α} (hmem : entry ∈ entries) : lookupIn entry.1 entries = some entry.2 := by
  induction entries with
  | nil => cases hmem
  | cons first rest ih =>
    rw [List.map_cons, List.nodup_cons] at hdistinct
    rcases List.mem_cons.mp hmem with rfl | hmem
    · simp [lookupIn]
    · have hne : ¬ first.1 = entry.1 := by
        intro heq
        rw [heq] at hdistinct
        exact hdistinct.1 (List.mem_map_of_mem hmem)
      have hrest := ih hdistinct.2 hmem
      unfold lookupIn at hrest ⊢
      rw [List.find?_cons_of_neg (by simp [hne]), hrest]

private theorem mem_of_lookupIn_eq_some {name : Text} {value : α} {entries : List (Text × α)}
    (hlookup : lookupIn name entries = some value) : (name, value) ∈ entries := by
  obtain ⟨entry, hfind, rfl⟩ := Option.map_eq_some_iff.mp hlookup
  have hname : entry.1 = name := by simpa using List.find?_some hfind
  rw [← hname]
  exact List.mem_of_find?_eq_some hfind

/-- The table without entries. -/
def empty : Table α :=
  ⟨[], List.nodup_nil⟩

instance : Inhabited (Table α) :=
  ⟨empty⟩

/-- The table with the value under a name changed. The change is given the
    present value, if there is one. -/
def change (table : Table α) (name : Text) (change : Option α → α) : Table α :=
  ⟨changeIn name change table.entries, distinct_changeIn name change table.distinct⟩

/-- The table with a value put under a name. A name that is already there
    keeps its place. -/
def insert (table : Table α) (name : Text) (value : α) : Table α :=
  table.change name fun _ => value

/-- The value under a name. -/
def get? (table : Table α) (name : Text) : Option α :=
  lookupIn name table.entries

/-- The names, in order. -/
def names (table : Table α) : List Text :=
  table.entries.map Prod.fst

@[simp] theorem get?_empty (name : Text) : (empty : Table α).get? name = none := rfl

theorem get?_change (table : Table α) (name other : Text) (update : Option α → α) :
    (table.change name update).get? other =
      if other = name then some (update (table.get? name)) else table.get? other :=
  lookupIn_changeIn name other update table.entries

/-- A name has no value exactly when it is not among the names. -/
theorem get?_eq_none_iff {table : Table α} {name : Text} :
    table.get? name = none ↔ name ∉ table.names :=
  lookupIn_eq_none_iff

theorem mem_names_of_get?_eq_some {table : Table α} {name : Text} {value : α}
    (hget : table.get? name = some value) : name ∈ table.names := by
  rw [← Classical.not_not (a := name ∈ table.names), ← get?_eq_none_iff, hget]
  exact Option.some_ne_none value

/-- A change keeps the order of the names and puts a new one at the end. -/
theorem names_change (table : Table α) (name : Text) (update : Option α → α) :
    (table.change name update).names =
      if name ∈ table.names then table.names else table.names ++ [name] :=
  map_fst_changeIn name update table.entries

/-- The values, in the order of their names. -/
def values (table : Table α) : List α :=
  table.entries.map Prod.snd

/-- Putting a value under a name replaces the value at its place, or adds an
    entry at the end when the name is new. -/
theorem entries_insert (table : Table α) (name : Text) (value : α) :
    (table.insert name value).entries =
      if name ∈ table.names then
        table.entries.map fun entry => if entry.1 = name then (name, value) else entry
      else table.entries ++ [(name, value)] :=
  changeIn_const name value table.distinct

theorem get?_of_mem {table : Table α} {entry : Text × α} (hmem : entry ∈ table.entries) :
    table.get? entry.1 = some entry.2 :=
  lookupIn_of_mem table.distinct hmem

theorem mem_entries_iff {table : Table α} {entry : Text × α} :
    entry ∈ table.entries ↔ table.get? entry.1 = some entry.2 :=
  ⟨get?_of_mem, mem_of_lookupIn_eq_some⟩

/-- The names and what is found under them make up the table. -/
theorem map_get?_names (table : Table α) : table.names.map table.get? = table.values.map some := by
  rw [names, values, List.map_map, List.map_map, List.map_inj_left]
  intro entry hmem
  exact get?_of_mem hmem

theorem eq_of_entries_eq {left right : Table α} (hentries : left.entries = right.entries) :
    left = right := by
  cases left
  cases right
  cases hentries
  rfl

/-- Tables with the same names, in order, and the same values under them are
    equal. -/
theorem eq_of_get?_eq {left right : Table α} (hnames : left.names = right.names)
    (hget : ∀ name, left.get? name = right.get? name) : left = right := by
  have hvalues : left.values = right.values := by
    have hsome : left.values.map some = right.values.map some := by
      rw [← map_get?_names, ← map_get?_names, hnames, funext hget]
    exact (List.map_inj_right fun _ _ heq => Option.some.inj heq).mp hsome
  apply eq_of_entries_eq
  exact (List.zip_of_prod hnames hvalues).trans (List.zip_of_prod rfl rfl).symm

/-- The number of entries. -/
def size (table : Table α) : Nat :=
  table.entries.length

/-- The entries sorted by name. -/
def sorted (table : Table α) : List (Text × α) :=
  table.entries.mergeSort fun left right => Text.precedes left.1 right.1

end Table

end CheckPlan
