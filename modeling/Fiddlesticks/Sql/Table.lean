import Mathlib.Data.List.Sort
import Mathlib.Tactic.Common

/-!
# Tables

Rows with increasing ids, and the statements that insert, delete, update and select them. The
lemmas say what a statement does to the rows that share a column value `key row = k`, in the
order of their ids: `values key k` is that part of a table. Statements about one part leave every
other part alone.
-/

namespace Sql

/-- A table: its rows in the order of their ids, all of them below the next id. -/
structure Table (R : Type) where
  rows : List (Nat × R)
  next : Nat
  increasing : rows.Pairwise (·.1 < ·.1)
  below : ∀ row ∈ rows, row.1 < next

namespace Table

variable {R K : Type}

/-! ## Statements -/

/-- A new table. -/
def empty : Table R where
  rows := []
  next := 0
  increasing := .nil
  below := by simp

/-- `INSERT`. -/
def insert (t : Table R) (r : R) : Table R where
  rows := t.rows ++ [(t.next, r)]
  next := t.next + 1
  increasing := by
    rw [List.pairwise_append]
    refine ⟨t.increasing, List.pairwise_singleton _ _, ?_⟩
    intro row hrow last hlast
    rw [List.mem_singleton.mp hlast]
    exact t.below row hrow
  below := by
    intro row hrow
    rcases List.mem_append.mp hrow with hold | hnew
    · have := t.below row hold
      omega
    · rw [List.mem_singleton.mp hnew]
      show t.next < t.next + 1
      omega

/-- `DELETE FROM .. WHERE p`. -/
def deleteWhere (t : Table R) (p : R → Bool) : Table R where
  rows := t.rows.filter fun row => !p row.2
  next := t.next
  increasing := t.increasing.filter _
  below row hrow := t.below row (List.mem_of_mem_filter hrow)

/-- `UPDATE .. SET f WHERE p`. The condition may name the id. -/
def updateWhere (t : Table R) (p : Nat × R → Bool) (f : R → R) : Table R where
  rows := t.rows.map fun row => if p row then (row.1, f row.2) else row
  next := t.next
  increasing := by
    rw [List.pairwise_map]
    refine t.increasing.imp ?_
    intro a b hab
    split <;> split <;> exact hab
  below := by
    intro row hrow
    obtain ⟨old, hold, rfl⟩ := List.mem_map.mp hrow
    have := t.below old hold
    split <;> exact this

variable [DecidableEq K]

/-- Whether a row conflicts with the table on a unique key. -/
def conflicts (t : Table R) (key : R → K) (r : R) : Bool :=
  t.rows.any fun row => key row.2 = key r

/-- `INSERT` into a table with a unique key. -/
def insertUnique (t : Table R) (key : R → K) (r : R) : Option (Table R) :=
  if t.conflicts key r then none else some (t.insert r)

/-- `INSERT OR IGNORE`, with the number of inserted rows. -/
def insertOrIgnore (t : Table R) (key : R → K) (r : R) : Nat × Table R :=
  if t.conflicts key r then (0, t) else (1, t.insert r)

/-- `INSERT .. ON CONFLICT(key) DO UPDATE SET` of all other columns. -/
def upsert (t : Table R) (key : R → K) (r : R) : Table R :=
  if t.conflicts key r then t.updateWhere (fun row => key row.2 = key r) fun _ => r
  else t.insert r

/-- The rows with a column value, in the order of their ids. -/
def part (t : Table R) (key : R → K) (k : K) : List (Nat × R) :=
  t.rows.filter fun row => key row.2 = k

/-- `SELECT .. WHERE key = k ORDER BY le`. -/
def select (t : Table R) (key : R → K) (k : K) (le : Nat × R → Nat × R → Prop)
    [DecidableRel le] : List (Nat × R) :=
  (t.part key k).insertionSort le

/-- The rows of a part without their ids. -/
def values (t : Table R) (key : R → K) (k : K) : List R :=
  (t.part key k).map Prod.snd

/-! ## What statements do to a part -/

variable {t : Table R} {key : R → K} {k : K}

/-- The ids of a part increase. -/
theorem part_increasing (t : Table R) (key : R → K) (k : K) :
    (t.part key k).Pairwise (·.1 < ·.1) :=
  t.increasing.filter _

/-- An empty table has no values. -/
@[simp] theorem values_empty : (empty : Table R).values key k = [] := rfl

/-- A key has no values when its part is empty. -/
@[simp] theorem values_eq_nil_iff : t.values key k = [] ↔ t.part key k = [] :=
  List.map_eq_nil_iff

/-- An inserted row comes last in its part. -/
theorem part_insert (r : R) : (t.insert r).part key k =
    t.part key k ++ if key r = k then [(t.next, r)] else [] := by
  show (t.rows ++ [(t.next, r)]).filter _ = _
  rw [List.filter_append, part]
  by_cases hr : key r = k <;> simp [hr]

/-- An insert adds its row at the end of its part. -/
theorem values_insert (r : R) : (t.insert r).values key k =
    t.values key k ++ if key r = k then [r] else [] := by
  rw [values, part_insert, List.map_append, ← values]
  split <;> rfl

/-- Deleting a part empties it and leaves the others alone. -/
theorem values_deleteWhere (k' : K) : (t.deleteWhere fun r => key r = k').values key k =
    if k = k' then [] else t.values key k := by
  show ((t.rows.filter _).filter _).map _ = _
  rw [List.filter_filter]
  split
  · rename_i hk
    subst hk
    rw [List.map_eq_nil_iff, List.filter_eq_nil_iff]
    simp
  · rename_i hk
    rw [values, part]
    congr 1
    refine List.filter_congr fun row _ => ?_
    by_cases hrow : key row.2 = k
    · simp [hrow, hk]
    · simp [hrow]

/-- An update that keeps keys changes each part in place. -/
theorem part_updateWhere {p : Nat × R → Bool} {f : R → R}
    (hf : ∀ row, p row = true → key (f row.2) = key row.2) :
    (t.updateWhere p f).part key k =
      (t.part key k).map fun row => if p row then (row.1, f row.2) else row := by
  show (t.rows.map _).filter _ = _
  rw [List.filter_map, part]
  congr 1
  refine List.filter_congr fun row _ => ?_
  by_cases hp : p row = true
  · simp [hp, hf row hp]
  · simp [hp]

/-- An update that keeps the column changes each part row by row. -/
theorem values_updateWhere {p : R → Bool} {f : R → R}
    (hf : ∀ r, p r = true → key (f r) = key r) :
    (t.updateWhere (fun row => p row.2) f).values key k =
      (t.values key k).map fun r => if p r then f r else r := by
  rw [values, part_updateWhere fun row => hf row.2, values, List.map_map, List.map_map]
  refine List.map_congr_left fun row _ => ?_
  show (if p row.2 = true then (row.1, f row.2) else row).2 =
    if p row.2 = true then f row.2 else row.2
  split <;> rfl

/-- A row is determined by its id. -/
theorem row_of_id {a b : Nat × R} (ha : a ∈ t.rows) (hb : b ∈ t.rows) (hid : a.1 = b.1) : a = b :=
  List.inj_on_of_nodup_map
    (List.pairwise_map.mpr (t.increasing.imp fun hlt => Nat.ne_of_lt hlt)) ha hb hid

/-- An update of one row by its id leaves the parts without that row alone. -/
theorem part_update_other {f : R → R} {found : Nat × R} (hfound : found ∈ t.rows)
    (hother : key found.2 ≠ k) (hf : ∀ r, key (f r) = key r) :
    (t.updateWhere (·.1 = found.1) f).part key k = t.part key k := by
  rw [part_updateWhere fun row _ => hf row.2]
  refine (List.map_congr_left fun row hrow => ?_).trans (List.map_id _)
  have hne : row.1 ≠ found.1 := by
    intro hid
    rw [row_of_id (List.mem_of_mem_filter hrow) hfound hid] at hrow
    exact hother (by simpa using List.of_mem_filter hrow)
  simp [hne]

/-! ## Unique keys -/

section unique

variable {U : Type} [DecidableEq U] {unique : R → U} {r : R}

/-- A row conflicts on a key that determines its part when its part has a row with that key. -/
theorem conflicts_iff (hkey : ∀ a b, unique a = unique b → key a = key b) :
    t.conflicts unique r = true ↔ ∃ old ∈ t.values key (key r), unique old = unique r := by
  simp only [conflicts, List.any_eq_true, decide_eq_true_eq, values, part, List.mem_map,
    List.mem_filter]
  constructor
  · intro h
    obtain ⟨row, hrow, heq⟩ := h
    exact ⟨row.2, ⟨row, ⟨hrow, hkey _ _ heq⟩, rfl⟩, heq⟩
  · intro h
    obtain ⟨_, ⟨row, ⟨hrow, _⟩, rfl⟩, heq⟩ := h
    exact ⟨row, hrow, heq⟩

/-- A row whose key is new is inserted. -/
theorem insertUnique_eq_some (hkey : ∀ a b, unique a = unique b → key a = key b)
    (hnew : ∀ old ∈ t.values key (key r), unique old ≠ unique r) :
    t.insertUnique unique r = some (t.insert r) := by
  rw [insertUnique, if_neg]
  rw [conflicts_iff hkey]
  intro h
  obtain ⟨old, hold, heq⟩ := h
  exact hnew old hold heq

end unique

/-- A row of a column that is itself the unique key conflicts when its part is not empty. -/
theorem conflicts_self_iff {r : R} : t.conflicts key r = true ↔ t.values key (key r) ≠ [] := by
  rw [conflicts_iff fun _ _ h => h]
  constructor
  · rintro ⟨old, hold, _⟩ hnil
    rw [hnil] at hold
    cases hold
  · intro hne
    obtain ⟨old, hold⟩ := List.exists_mem_of_ne_nil _ hne
    refine ⟨old, hold, ?_⟩
    rw [values, List.mem_map] at hold
    obtain ⟨row, hrow, rfl⟩ := hold
    simpa using List.of_mem_filter hrow

/-- An upsert leaves its row as the only one of its part, if there was at most one. -/
theorem values_upsert {r : R} (hone : (t.values key (key r)).length ≤ 1) :
    (t.upsert key r).values key k = if key r = k then [r] else t.values key k := by
  rw [upsert]
  by_cases hconflict : t.conflicts key r = true
  · have hne := conflicts_self_iff.mp hconflict
    have hupdate := values_updateWhere (t := t) (k := k) (p := fun old => decide (key old = key r))
      (f := fun _ => r) fun old hold => (of_decide_eq_true hold).symm
    rw [if_pos hconflict]
    refine hupdate.trans ?_
    by_cases hk : key r = k
    · subst hk
      obtain ⟨old, hold⟩ := List.length_eq_one_iff.mp
        (le_antisymm hone (List.length_pos_iff.mpr hne))
      have hkey : key old = key r := by
        have hmem : old ∈ t.values key (key r) := hold ▸ List.mem_singleton_self old
        obtain ⟨row, hrow, rfl⟩ := List.mem_map.mp hmem
        simpa using List.of_mem_filter hrow
      simp [hold, hkey]
    · rw [if_neg hk]
      refine (List.map_congr_left fun old hold => ?_).trans (List.map_id _)
      obtain ⟨row, hrow, rfl⟩ := List.mem_map.mp hold
      have hrowk : key row.2 = k := by simpa using List.of_mem_filter hrow
      simp [hrowk, Ne.symm hk]
  · have hnil : t.values key (key r) = [] := by
      by_contra hne
      exact hconflict (conflicts_self_iff.mpr hne)
    rw [if_neg hconflict, values_insert]
    by_cases hk : key r = k
    · subst hk
      simp [hnil]
    · simp [hk]

/-! ## Selects -/

/-- Ordering by a relation that the rows are already in does nothing. -/
theorem select_eq_part {le : Nat × R → Nat × R → Prop} [DecidableRel le]
    (hle : (t.part key k).Pairwise le) : t.select key k le = t.part key k :=
  hle.insertionSort_eq

/-- `ORDER BY id` is the order of the part. -/
theorem select_by_id : t.select key k (·.1 ≤ ·.1) = t.part key k :=
  select_eq_part ((t.part_increasing key k).imp Nat.le_of_lt)

end Table

end Sql
