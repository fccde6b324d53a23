import Mathlib.Data.List.Sort
import Mathlib.Tactic

/-!
# Items collected by their keys

Items that are inserted into an ordered map by a key of theirs. The map is left with the last item
of each key, in the order of the keys.
-/

namespace Collect

open Std

variable {κ α : Type}

/-! ## The last item of a key -/

section

variable [DecidableEq κ] {key : α → κ}

/-- The last item with a key. -/
def lastWith (key : α → κ) (items : List α) (k : κ) : Option α :=
  items.reverse.find? (key · = k)

/-- The last item with a key is one of the items and has the key. -/
theorem lastWith_some {items : List α} {k : κ} {item : α} (h : lastWith key items k = some item) :
    item ∈ items ∧ key item = k :=
  ⟨List.mem_reverse.1 (List.mem_of_find?_eq_some h), by simpa using List.find?_some h⟩

/-- The key of an item has a last item. -/
theorem exists_lastWith (key : α → κ) {items : List α} {item : α} (h : item ∈ items) :
    ∃ last, lastWith key items (key item) = some last :=
  Option.isSome_iff_exists.1 (List.find?_isSome.2 ⟨item, List.mem_reverse.2 h, by simp⟩)

/-- The last item is in the second part unless that has none. -/
theorem lastWith_append (first rest : List α) (k : κ) :
    lastWith key (first ++ rest) k = (lastWith key rest k).or (lastWith key first k) := by
  rw [lastWith, List.reverse_append, List.find?_append]
  rfl

/-- Distinct keys leave no choice for the last item with a key. -/
theorem lastWith_of_nodup {items : List α} (hitems : (items.map key).Nodup) {k : κ} {item : α} :
    lastWith key items k = some item ↔ item ∈ items ∧ key item = k := by
  refine ⟨lastWith_some, ?_⟩
  intro h
  obtain ⟨hitem, rfl⟩ := h
  obtain ⟨last, hlast⟩ := exists_lastWith key hitem
  obtain ⟨hmem, hkey⟩ := lastWith_some hlast
  rw [hlast, List.inj_on_of_nodup_map hitems hmem hitem hkey]

end

/-! ## Collected items -/

variable [Ord κ] {key : α → κ}

/-- Insert items by their keys. -/
def insertAll [TransOrd κ] (key : α → κ) (map : ExtTreeMap κ α) (items : List α) :
    ExtTreeMap κ α :=
  items.foldl (fun map item => map.insert (key item) item) map

/-- The items in the order of their keys, the last of those with equal keys. -/
def byKey [TransOrd κ] (key : α → κ) (items : List α) : List α :=
  (insertAll key ∅ items).toList.map Prod.snd

/-- The keys of the items increase strictly. -/
def KeysIncrease (key : α → κ) (items : List α) : Prop :=
  items.Pairwise fun a b => compare (key a) (key b) = .lt

/-- Items are inserted part by part. -/
theorem insertAll_append [TransOrd κ] (map : ExtTreeMap κ α) (first rest : List α) :
    insertAll key map (first ++ rest) = insertAll key (insertAll key map first) rest :=
  List.foldl_append

variable [LawfulEqOrd κ]

/-- Keys that increase are different. -/
theorem KeysIncrease.nodup {items : List α} (h : KeysIncrease key items) :
    (items.map key).Nodup := by
  refine List.pairwise_map.2 (h.imp fun hlt heq => ?_)
  simp [heq] at hlt

variable [TransOrd κ] [DecidableEq κ]

/-- A lookup finds the last item inserted or what was there. -/
theorem getElem?_insertAll (map : ExtTreeMap κ α) (items : List α) (k : κ) :
    (insertAll key map items)[k]? = (lastWith key items k).or map[k]? := by
  induction items using List.reverseRecOn with
  | nil => simp [insertAll, lastWith]
  | append_singleton items item ih =>
      rw [insertAll, List.foldl_append, List.foldl_cons, List.foldl_nil, ← insertAll]
      rw [ExtTreeMap.getElem?_insert, ih, lastWith, lastWith, List.reverse_append]
      by_cases hkey : key item = k
      · simp [hkey]
      · simp [hkey]

/-- Inserting items into a map that has only keys of these items forgets the map. -/
theorem insertAll_of_subset {map : ExtTreeMap κ α} {items : List α}
    (hmap : ∀ k ∈ map, ∃ item ∈ items, key item = k) :
    insertAll key map items = insertAll key ∅ items := by
  refine ExtTreeMap.ext_getElem? fun k => ?_
  rw [getElem?_insertAll, getElem?_insertAll]
  cases hlast : lastWith key items k with
  | some item => simp
  | none =>
      have hk : k ∉ map := by
        intro hk
        obtain ⟨item, hitem, rfl⟩ := hmap k hk
        obtain ⟨last, hsome⟩ := exists_lastWith key hitem
        rw [hlast] at hsome
        cases hsome
      simp [hk]

/-- The entries of the map. -/
theorem mem_insertAll {items : List α} {k : κ} {item : α} :
    (k, item) ∈ (insertAll key ∅ items).toList ↔ lastWith key items k = some item := by
  rw [ExtTreeMap.mem_toList_iff_getElem?_eq_some, getElem?_insertAll]
  simp

/-! ## The items in order -/

/-- The sorted items are the last ones of their keys. -/
theorem mem_byKey {items : List α} {item : α} :
    item ∈ byKey key items ↔ lastWith key items (key item) = some item := by
  rw [byKey, List.mem_map]
  constructor
  · intro h
    obtain ⟨⟨k, last⟩, hentry, rfl⟩ := h
    have hlast := mem_insertAll.1 hentry
    rwa [(lastWith_some hlast).2]
  · exact fun hlast => ⟨(key item, item), mem_insertAll.2 hlast, rfl⟩

/-- The sorted items have increasing keys. -/
theorem byKey_increasing (key : α → κ) (items : List α) : KeysIncrease key (byKey key items) := by
  rw [KeysIncrease, byKey, List.pairwise_map]
  refine List.Pairwise.imp_of_mem ?_ (ExtTreeMap.ordered_keys_toList (t := insertAll key ∅ items))
  intro a b ha hb hab
  have hkey : ∀ entry ∈ (insertAll key ∅ items).toList, key entry.2 = entry.1 := by
    intro entry hentry
    exact (lastWith_some (mem_insertAll.1 hentry)).2
  rwa [hkey a ha, hkey b hb]

/-- Items are in order exactly when their keys increase strictly. -/
theorem byKey_eq_self_iff (items : List α) : byKey key items = items ↔ KeysIncrease key items := by
  constructor
  · intro h
    rw [← h]
    exact byKey_increasing key items
  · intro h
    let before (a b : κ × α) : Prop := compare a.1 b.1 = .lt
    have : Std.Irrefl before := ⟨fun a hlt => by simp [before] at hlt⟩
    have : Std.Antisymm before := ⟨fun a b hab hba => absurd hba (OrientedCmp.not_lt_of_lt hab)⟩
    have hentries : (insertAll key ∅ items).toList = items.map fun item => (key item, item) := by
      refine List.Pairwise.eq_of_mem_iff (r := before) ExtTreeMap.ordered_keys_toList
        (List.pairwise_map.2 h) ?_
      rintro ⟨k, item⟩
      rw [mem_insertAll, lastWith_of_nodup h.nodup]
      aesop
    rw [byKey, hentries, List.map_map]
    exact List.map_id' items

/-- No item is left out with its key. -/
@[simp] theorem byKey_eq_nil_iff (items : List α) : byKey key items = [] ↔ items = [] := by
  constructor
  · intro h
    cases items with
    | nil => rfl
    | cons item items =>
        obtain ⟨last, hlast⟩ := exists_lastWith key (List.mem_cons_self (a := item))
        rw [← (lastWith_some hlast).2] at hlast
        have hmem := mem_byKey.2 hlast
        rw [h] at hmem
        cases hmem
  · rintro rfl
    rfl

/-- With others before them, items end up as they are exactly when no other has another key and
their keys are distinct. -/
theorem byKey_append_perm_iff (others items : List α) :
    (byKey key (others ++ items)).Perm items ↔
      (∀ other ∈ others, ∃ item ∈ items, key item = key other) ∧ (items.map key).Nodup := by
  have hordered := (byKey_increasing key (others ++ items)).nodup
  constructor
  · intro hperm
    refine ⟨fun other hother => ?_, (hperm.map _).nodup_iff.1 hordered⟩
    obtain ⟨last, hlast⟩ := exists_lastWith key (List.mem_append_left items hother)
    have hkey := (lastWith_some hlast).2
    refine ⟨last, hperm.subset (mem_byKey.2 ?_), hkey⟩
    rwa [hkey]
  · intro h
    obtain ⟨hothers, hitems⟩ := h
    refine (List.perm_ext_iff_of_nodup hordered.of_map hitems.of_map).2 fun item => ?_
    rw [mem_byKey, lastWith_append]
    constructor
    · intro hlast
      cases hfinal : lastWith key items (key item) with
      | some final =>
          rw [hfinal] at hlast
          cases hlast
          exact (lastWith_some hfinal).1
      | none =>
          rw [hfinal, Option.none_or] at hlast
          obtain ⟨final, hmem, hkey⟩ := hothers item (lastWith_some hlast).1
          rw [(lastWith_of_nodup hitems).2 ⟨hmem, hkey⟩] at hfinal
          cases hfinal
    · intro hmem
      rw [(lastWith_of_nodup hitems).2 ⟨hmem, rfl⟩, Option.some_or]

end Collect
