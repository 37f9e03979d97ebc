import Tether.Table

/-! Tables read through their lookups. The order of the entries does not matter to any of these;
that no key stands twice matters only to filters, which could otherwise uncover an older entry. -/

namespace Tether.Table

variable {α : Type}

theorem get?_nil (key : String) : get? ([] : Table α) key = none := rfl

theorem get?_cons (k key : String) (v : α) (t : Table α) :
    get? ((k, v) :: t) key = if key = k then some v else t.get? key := by
  by_cases h : key = k
  · subst h
    simp [get?]
  · simp [get?, List.lookup_cons, beq_eq_false_iff_ne.mpr h, h]

theorem get?_alter (t : Table α) (k key : String) (f : Option α → α) :
    (t.alter k f).get? key = if key = k then some (f (t.get? k)) else t.get? key := by
  induction t with
  | nil => simp [alter, get?_cons, get?_nil]
  | cons entry rest ih =>
      obtain ⟨k', v⟩ := entry
      by_cases hk : k = k'
      · subst hk
        simp only [alter, beq_self_eq_true, ↓reduceIte, get?_cons]
        split <;> simp_all
      · simp only [alter, beq_eq_false_iff_ne.mpr hk, Bool.false_eq_true, ↓reduceIte, get?_cons,
          ih, hk]
        by_cases hKey : key = k <;> simp_all

@[simp]
theorem get?_insert (t : Table α) (k key : String) (v : α) :
    (t.insert k v).get? key = if key = k then some v else t.get? key :=
  get?_alter t k key fun _ => v

/-- A filter on keys alone hides every entry of the keys it takes out. -/
@[simp]
theorem get?_erase (t : Table α) (k key : String) :
    (t.erase k).get? key = if key = k then none else t.get? key := by
  induction t with
  | nil => simp [erase, get?_nil]
  | cons entry rest ih =>
      obtain ⟨k', v⟩ := entry
      have hRest : get? (rest.filter fun entry => !(k == entry.1)) key =
          if key = k then none else get? rest key := ih
      by_cases hk : k = k'
      · subst hk
        by_cases hKey : key = k <;> simp_all [erase, get?_cons]
      · by_cases hKey : key = k
        · subst hKey
          simp_all [erase, get?_cons]
        · simp_all [erase, get?_cons]

theorem mem_of_get? {t : Table α} {key : String} {v : α} (h : t.get? key = some v) :
    (key, v) ∈ t := by
  obtain ⟨before, behind, hSplit, _⟩ := List.lookup_eq_some_iff.mp h
  simp [hSplit]

/-- With every key once, every entry is found. -/
theorem get?_of_mem {t : Table α} (hKeys : t.keys.Nodup) {key : String} {v : α}
    (h : (key, v) ∈ t) : t.get? key = some v := by
  induction t with
  | nil => cases h
  | cons entry rest ih =>
      obtain ⟨k, v'⟩ := entry
      rw [keys, List.map_cons, List.nodup_cons] at hKeys
      rw [get?_cons]
      rcases List.mem_cons.mp h with hFirst | hRest
      · cases hFirst
        exact if_pos rfl
      · have hOther : key ≠ k := by
          rintro rfl
          exact hKeys.1 (List.mem_map.mpr ⟨_, hRest, rfl⟩)
        rw [if_neg hOther]
        exact ih hKeys.2 hRest

/-- With every key once, a lookup in the part that a filter keeps is the old lookup, filtered. -/
theorem get?_filter {t : Table α} (hKeys : t.keys.Nodup) (keep : String × α → Bool)
    (key : String) :
    get? (t.filter keep) key = (t.get? key).filter fun v => keep (key, v) := by
  induction t with
  | nil => rfl
  | cons entry rest ih =>
      obtain ⟨k, v⟩ := entry
      rw [keys, List.map_cons, List.nodup_cons] at hKeys
      rw [get?_cons]
      by_cases hKey : key = k
      · subst hKey
        by_cases hKeep : keep (key, v) = true
        · simp [hKeep, get?_cons, Option.filter_some]
        · have hNone : get? rest key = none := by
            cases hRest : get? rest key with
            | none => rfl
            | some w => exact absurd (List.mem_map.mpr ⟨_, mem_of_get? hRest, rfl⟩) hKeys.1
          rw [List.filter_cons_of_neg hKeep, ih hKeys.2, hNone]
          simp [hKeep, Option.filter_some]
      · rw [if_neg hKey, List.filter_cons]
        split
        · rw [get?_cons, if_neg hKey, ih hKeys.2]
        · exact ih hKeys.2

/-- No filter uncovers a key that is not there. -/
theorem get?_filter_of_none {t : Table α} {key : String} (h : t.get? key = none)
    (keep : String × α → Bool) : get? (t.filter keep) key = none :=
  List.lookup_eq_none_iff.mpr fun entry he =>
    List.lookup_eq_none_iff.mp h entry (List.mem_filter.mp he).1

theorem keys_alter (t : Table α) (k : String) (f : Option α → α) :
    (t.alter k f).keys = if k ∈ t.keys then t.keys else t.keys ++ [k] := by
  induction t with
  | nil => simp [alter, keys]
  | cons entry rest ih =>
      obtain ⟨k', v⟩ := entry
      by_cases hk : k = k'
      · subst hk
        simp [alter, keys]
      · have hRest := ih
        simp only [keys] at hRest
        simp only [alter, beq_eq_false_iff_ne.mpr hk, Bool.false_eq_true, ↓reduceIte, keys,
          List.map_cons, hRest, List.mem_cons, hk, false_or]
        by_cases hMem : k ∈ rest.map Prod.fst <;> simp [hMem]

theorem get?_eq_none_iff {t : Table α} {key : String} : t.get? key = none ↔ key ∉ t.keys := by
  rw [get?, List.lookup_eq_none_iff, keys]
  simp only [List.mem_map, not_exists, not_and, bne_iff_ne]
  exact forall₂_congr fun _ _ => ⟨Ne.symm, Ne.symm⟩

/-- With every key once, a lookup among the values that are kept in some form is the old lookup. -/
theorem get?_filterMap {β : Type} {t : Table α} (hKeys : t.keys.Nodup) (f : α → Option β)
    (key : String) :
    get? (t.filterMap fun entry => (f entry.2).map (entry.1, ·)) key = (t.get? key).bind f := by
  induction t with
  | nil => rfl
  | cons entry rest ih =>
      obtain ⟨k, v⟩ := entry
      rw [keys, List.map_cons, List.nodup_cons] at hKeys
      have hRest := ih hKeys.2
      rw [get?_cons]
      cases hv : f v with
      | none =>
          rw [List.filterMap_cons_none (by simp [hv]), hRest]
          by_cases hKey : key = k
          · subst hKey
            simp [hv, get?_eq_none_iff.mpr hKeys.1]
          · simp [hKey]
      | some w =>
          rw [List.filterMap_cons_some (b := (k, w)) (by simp [hv]), get?_cons, hRest]
          by_cases hKey : key = k <;> simp [hKey, hv]

theorem length_keys (t : Table α) : t.keys.length = t.length := List.length_map ..

/-- A new key makes the table longer by one. -/
theorem length_insert {t : Table α} {k : String} (h : t.get? k = none) (v : α) :
    (t.insert k v).length = t.length + 1 := by
  rw [← length_keys, insert, keys_alter, if_neg (get?_eq_none_iff.mp h), List.length_append,
    length_keys, List.length_singleton]

/-- Erasing a key makes the table shorter by one. -/
theorem length_erase {t : Table α} (hKeys : t.keys.Nodup) {k : String} {v : α}
    (h : t.get? k = some v) : (t.erase k).length + 1 = t.length := by
  induction t with
  | nil => cases h
  | cons entry rest ih =>
      obtain ⟨k', v'⟩ := entry
      rw [keys, List.map_cons, List.nodup_cons] at hKeys
      rw [get?_cons] at h
      by_cases hk : k = k'
      · subst hk
        have hRest : erase rest k = rest := by
          refine List.filter_eq_self.mpr fun entry he => ?_
          have hOther : k ≠ entry.1 := by
            rintro rfl
            exact hKeys.1 (List.mem_map.mpr ⟨entry, he, rfl⟩)
          simpa using hOther
        have hFirst : Table.erase ((k, v') :: rest) k = erase rest k := by
          simp [erase]
        rw [hFirst, hRest, List.length_cons]
      · rw [if_neg hk] at h
        have hFirst : Table.erase ((k', v') :: rest) k = (k', v') :: erase rest k := by
          simp [erase, hk]
        rw [hFirst, List.length_cons, ih hKeys.2 h, List.length_cons]

theorem nodup_insert {t : Table α} (hKeys : t.keys.Nodup) (k : String) (v : α) :
    (t.insert k v).keys.Nodup := by
  rw [insert, keys_alter]
  split
  · exact hKeys
  · next hk => exact List.nodup_append.mpr ⟨hKeys, by simp, by
      intro a ha b hb he
      rw [List.mem_singleton] at hb
      exact hk (hb ▸ he ▸ ha)⟩

theorem nodup_filter {t : Table α} (hKeys : t.keys.Nodup) (keep : String × α → Bool) :
    keys (t.filter keep) |>.Nodup :=
  (List.filter_sublist.map Prod.fst).nodup hKeys

end Tether.Table
