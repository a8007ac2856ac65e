import Witnessed.KeyMap

/-!
Laws of maps from key hashes: what a lookup finds after an insertion, and that the entries are
exactly what lookups find. No key stands twice, because the entries ascend strictly.
-/

namespace Witnessed.KeyMap

variable {α : Type}

theorem lookup_place (key other : KeyHash) (value : α) (entries : List (KeyHash × α)) :
    ((place key value entries).find? fun e => e.1 = other).map (·.2) =
      if other = key then some value
      else (entries.find? fun e => e.1 = other).map (·.2) := by
  induction entries with
  | nil => by_cases h : key = other <;> simp [place, h, eq_comm]
  | cons d rest ih =>
      simp only [place]
      split
      · by_cases h : key = other <;> simp [h, eq_comm]
      · split
        · rename_i eq
          by_cases h : key = other <;> simp [h, eq_comm, ← eq]
        · rename_i ne
          by_cases h : d.1 = other
          · have : other ≠ key := fun g => ne (g.symm.trans h.symm)
            simp [h, this]
          · simpa [h] using ih

@[simp] theorem find?_insert (m : KeyMap α) (key other : KeyHash) (value : α) :
    (m.insert key value).find? other = if other = key then some value else m.find? other :=
  lookup_place key other value m.entries

@[simp] theorem find?_empty (key : KeyHash) : (empty : KeyMap α).find? key = none := rfl

theorem contains_eq_false {m : KeyMap α} {key : KeyHash} :
    m.contains key = false ↔ m.find? key = none := by
  simp [contains]

theorem contains_insert (m : KeyMap α) (key other : KeyHash) (value : α) :
    (m.insert key value).contains other = (decide (other = key) || m.contains other) := by
  by_cases h : other = key <;> simp [contains, h]

theorem nodup_keys (m : KeyMap α) : m.keys.Nodup := by
  refine List.pairwise_map.2 (m.ascending.imp fun h eq => ?_)
  exact Octets.lt_irrefl _ (eq ▸ h)

/-- The entries are the pairs that lookups find. -/
theorem mem_entries_iff {m : KeyMap α} {key : KeyHash} {value : α} :
    (key, value) ∈ m.entries ↔ m.find? key = some value := by
  obtain ⟨entries, ascending⟩ := m
  simp only [find?]
  induction entries with
  | nil => simp
  | cons e rest ih =>
      obtain ⟨before, later⟩ := List.pairwise_cons.1 ascending
      by_cases h : e.1 = key
      · have absent : (key, value) ∉ rest := fun mem =>
          Octets.lt_irrefl key (by simpa [h] using before _ mem)
        subst h
        simp [absent, Prod.ext_iff, eq_comm]
      · have ne : (key, value) ≠ e := fun g => h (by rw [← g])
        simpa [h, ne] using ih later

theorem mem_keys_iff {m : KeyMap α} {key : KeyHash} :
    key ∈ m.keys ↔ m.contains key = true := by
  simp [keys, contains, mem_entries_iff, Option.isSome_iff_exists]

theorem place_perm {key : KeyHash} {value : α} {entries : List (KeyHash × α)}
    (absent : ∀ e ∈ entries, e.1 ≠ key) :
    (place key value entries).Perm ((key, value) :: entries) := by
  induction entries with
  | nil => exact .refl _
  | cons e rest ih =>
      obtain ⟨ne, later⟩ := List.forall_mem_cons.1 absent
      simp only [place]
      split
      · exact .refl _
      · rw [if_neg (Ne.symm ne)]
        exact (List.Perm.cons e (ih later)).trans (.swap ..)

/-- Nothing gives way to an entry with a new key. -/
theorem insert_perm {m : KeyMap α} {key : KeyHash} (absent : m.contains key = false)
    (value : α) : (m.insert key value).entries.Perm ((key, value) :: m.entries) := by
  refine place_perm fun e mem same => ?_
  rw [contains_eq_false, ← same] at absent
  rw [mem_entries_iff.1 mem] at absent
  contradiction

theorem eq_of_perm {m n : KeyMap α} (perm : m.entries.Perm n.entries) : m = n := by
  obtain ⟨as, ha⟩ := m
  obtain ⟨bs, hb⟩ := n
  congr
  refine perm.eq_of_pairwise (fun a b _ _ ab ba => ?_) ha hb
  exact absurd (Octets.lt_trans ab ba) (Octets.lt_irrefl a.1)

theorem nodup_entries (m : KeyMap α) : m.entries.Nodup := by
  refine m.ascending.imp fun h eq => ?_
  exact Octets.lt_irrefl _ (eq ▸ h)

/-- Maps in which every lookup finds the same are the same map. -/
theorem ext_find? {m n : KeyMap α} (same : ∀ key, m.find? key = n.find? key) : m = n := by
  apply eq_of_perm
  rw [List.perm_ext_iff_of_nodup m.nodup_entries n.nodup_entries]
  rintro ⟨key, value⟩
  rw [mem_entries_iff, mem_entries_iff, same]

/-! ## First come, first kept -/

section Keep

variable {key : α → KeyHash} {m : KeyMap α}

/-- The map with one more value under its own key, unless there is an entry with that key. -/
def keep (key : α → KeyHash) (m : KeyMap α) (value : α) : KeyMap α :=
  if m.contains (key value) then m else m.insert (key value) value

/-- The map with values that come one after the other. -/
def keepAll (key : α → KeyHash) (m : KeyMap α) (values : List α) : KeyMap α :=
  values.foldl (keep key) m

theorem find?_keep (m : KeyMap α) (value : α) (other : KeyHash) :
    (m.keep key value).find? other =
      (m.find? other).or (if key value = other then some value else none) := by
  unfold keep
  by_cases same : key value = other
  · subst same
    cases found : m.find? (key value) <;> simp [contains, found]
  · cases m.contains (key value) <;> simp [same, Ne.symm same]

/-- A lookup finds what was there before, or else the first value that came with the key. -/
theorem find?_keepAll (m : KeyMap α) (values : List α) (other : KeyHash) :
    (m.keepAll key values).find? other =
      (m.find? other).or (values.find? fun value => key value = other) := by
  induction values generalizing m with
  | nil => exact Option.or_none.symm
  | cons value rest ih =>
      rw [keepAll, List.foldl_cons, ← keepAll, ih, find?_keep, Option.or_assoc, List.find?_cons]
      by_cases same : key value = other <;> simp [same]

/-- Every value stands under its own key. -/
def Own (key : α → KeyHash) (m : KeyMap α) : Prop :=
  ∀ entry ∈ m.entries, entry.1 = key entry.2

theorem own_empty (key : α → KeyHash) : (empty : KeyMap α).Own key :=
  fun _ mem => absurd mem List.not_mem_nil

theorem Own.keepAll (own : m.Own key) (values : List α) : (m.keepAll key values).Own key := by
  rintro ⟨other, value⟩ mem
  rw [mem_entries_iff, find?_keepAll, Option.or_eq_some_iff] at mem
  rcases mem with old | ⟨_, new⟩
  · exact own (other, value) (mem_entries_iff.2 old)
  · have same := List.find?_some new
    exact (of_decide_eq_true same).symm

theorem Own.mem_values_iff (own : m.Own key) {value : α} :
    value ∈ m.values ↔ m.find? (key value) = some value := by
  rw [← mem_entries_iff, values, List.mem_map]
  constructor
  · rintro ⟨entry, mem, rfl⟩
    rwa [← own entry mem]
  · exact fun mem => ⟨_, mem, rfl⟩

/-- Values with the same key are the same value. -/
theorem Own.unique (own : m.Own key) {a b : α} (ha : a ∈ m.values) (hb : b ∈ m.values)
    (same : key a = key b) : a = b := by
  rw [own.mem_values_iff] at ha hb
  rw [same, hb] at ha
  exact (Option.some.inj ha).symm

theorem Own.nodup_values (own : m.Own key) : m.values.Nodup := by
  refine List.pairwise_map.2 (m.ascending.imp_of_mem fun ha hb lt same => ?_)
  rw [own _ ha, own _ hb, same] at lt
  exact Octets.lt_irrefl _ lt

end Keep

/-! ## A map and a larger one -/

section Beyond

variable [DecidableEq α] {fewer more : KeyMap α}

/-- The entries of a map that another one does not have. -/
def beyond (more fewer : KeyMap α) : List (KeyHash × α) :=
  more.entries.filter (· ∉ fewer.entries)

/-- A map that has all entries of another one consists of those and the entries beyond. -/
theorem entries_perm_beyond (sub : fewer.entries ⊆ more.entries) :
    more.entries.Perm (fewer.entries ++ more.beyond fewer) := by
  have apart : (fewer.entries ++ more.beyond fewer).Nodup := by
    refine List.nodup_append.2 ⟨fewer.nodup_entries, more.nodup_entries.filter _, ?_⟩
    rintro a mem _ other rfl
    exact of_decide_eq_true (List.mem_filter.1 other).2 mem
  rw [List.perm_ext_iff_of_nodup more.nodup_entries apart]
  intro entry
  rw [List.mem_append, beyond, List.mem_filter, decide_eq_true_eq]
  constructor
  · intro mem
    by_cases old : entry ∈ fewer.entries
    · exact .inl old
    · exact .inr ⟨mem, old⟩
  · rintro (old | ⟨mem, _⟩)
    · exact sub old
    · exact mem

theorem size_eq_add_beyond (sub : fewer.entries ⊆ more.entries) :
    more.size = fewer.size + (more.beyond fewer).length := by
  rw [size, (entries_perm_beyond sub).length_eq, List.length_append, size]

end Beyond

end Witnessed.KeyMap
