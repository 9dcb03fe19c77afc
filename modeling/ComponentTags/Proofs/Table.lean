/-
# Laws of tables

How the operations on tables act on keys and values: what is added at the end, what is undone, and
what taking over a whole table changes.
-/
import ComponentTags.Table
import Mathlib.Data.List.Nodup
import Mathlib.Tactic.Common

namespace ComponentTags.Table

variable {α β : Type} [DecidableEq α] {t new : Table α β} {key other : α} {value : β}

/-! ### Keys -/

lemma mem_keys_iff : key ∈ t.keys ↔ ∃ value, t.get? key = some value := by
  induction t with
  | nil => simp [keys, get?]
  | cons entry rest ih =>
    obtain ⟨k, v⟩ := entry
    by_cases h : k = key
    · simp [keys, get?, h]
    · simpa [keys, get?, h, Ne.symm h] using ih

lemma get?_eq_none_iff : t.get? key = none ↔ key ∉ t.keys := by
  rw [mem_keys_iff, Option.eq_none_iff_forall_ne_some]
  simp

lemma has_iff : t.has key = true ↔ key ∈ t.keys := by
  rw [has, Option.isSome_iff_exists, mem_keys_iff]

/-- The entries of a table with distinct keys are its keys with their values. -/
lemma mem_iff_get? (h : t.keys.Nodup) : (key, value) ∈ t ↔ t.get? key = some value := by
  induction t with
  | nil => simp [get?]
  | cons entry rest ih =>
    obtain ⟨k, v⟩ := entry
    have hnodup : k ∉ keys rest ∧ (keys rest).Nodup := List.nodup_cons.mp h
    by_cases hk : k = key
    · -- the key stands at the front and nowhere else
      subst hk
      have hrest : (k, value) ∉ rest := fun hmem => hnodup.1 (List.mem_map_of_mem hmem)
      simp [get?, hrest, eq_comm]
    · simp [get?, hk, Ne.symm hk, ih hnodup.2]

lemma mem_of_get? (h : t.get? key = some value) : (key, value) ∈ t := by
  induction t with
  | nil => cases h
  | cons entry rest ih =>
    rw [get?] at h
    split at h
    · next hkey =>
      cases h
      subst hkey
      exact List.mem_cons_self
    · exact List.mem_cons_of_mem _ (ih h)

/-! ### Setting and erasing -/

/-- An entry after setting a key is an old one or the new one. -/
lemma mem_of_mem_set {entry : α × β} (h : entry ∈ t.set key value) :
    entry ∈ t ∨ entry = (key, value) := by
  induction t with
  | nil => exact .inr (List.mem_singleton.mp h)
  | cons first rest ih =>
    rw [set] at h
    split at h
    · next hkey =>
      rcases List.mem_cons.mp h with rfl | h
      · exact .inr (by rw [← hkey])
      · exact .inl (List.mem_cons_of_mem _ h)
    · rcases List.mem_cons.mp h with rfl | h
      · exact .inl List.mem_cons_self
      · exact (ih h).imp_left (List.mem_cons_of_mem _)

/-- A new key comes last. -/
lemma set_of_not_mem (h : key ∉ t.keys) : t.set key value = t ++ [(key, value)] := by
  induction t with
  | nil => rfl
  | cons entry rest ih =>
    obtain ⟨k, v⟩ := entry
    simp only [keys, List.map_cons, List.mem_cons, not_or] at h
    rw [set, if_neg (Ne.symm h.1), ih h.2, List.cons_append]

lemma keys_set_of_not_mem (h : key ∉ t.keys) : (t.set key value).keys = t.keys ++ [key] :=
  keys_set_of_not_has (Bool.eq_false_iff.mpr (mt has_iff.mp h)) value

lemma keys_set_of_mem (h : key ∈ t.keys) : (t.set key value).keys = t.keys :=
  keys_set_of_has (has_iff.mpr h) value

lemma mem_keys_set : other ∈ (t.set key value).keys ↔ other ∈ t.keys ∨ other = key := by
  by_cases h : key ∈ t.keys
  · rw [keys_set_of_mem h]
    refine ⟨.inl, ?_⟩
    rintro (hother | rfl)
    · exact hother
    · exact h
  · simp [keys_set_of_not_mem h]

lemma nodup_keys_set (h : t.keys.Nodup) : (t.set key value).keys.Nodup := by
  by_cases hkey : key ∈ t.keys
  · rwa [keys_set_of_mem hkey]
  · rw [keys_set_of_not_mem hkey]
    exact List.nodup_append.mpr ⟨h, List.nodup_singleton key, by
      rintro a ha b hb rfl
      exact hkey (List.mem_singleton.mp hb ▸ ha)⟩

/-- Which keys a table has after setting one does not depend on the values. -/
lemma keys_set_congr {γ : Type} {t' : Table α γ} {value' : γ} (h : t.keys = t'.keys) :
    (t.set key value).keys = (t'.set key value').keys := by
  by_cases hkey : key ∈ t.keys
  · rw [keys_set_of_mem hkey, keys_set_of_mem (h ▸ hkey), h]
  · rw [keys_set_of_not_mem hkey, keys_set_of_not_mem (h ▸ hkey), h]

lemma keys_erase : (t.erase key).keys = t.keys.filter (· ≠ key) := by
  rw [keys, keys, erase, List.filter_map]
  rfl

lemma nodup_keys_erase (h : t.keys.Nodup) : (t.erase key).keys.Nodup := by
  rw [keys_erase]
  exact h.filter _

lemma not_mem_keys_erase : key ∉ (t.erase key).keys := by
  simp [keys_erase]

/-- Erasing a new key undoes setting it. -/
lemma erase_set_of_not_mem (h : key ∉ t.keys) : (t.set key value).erase key = t := by
  have hothers : ∀ entry ∈ t, entry.1 ≠ key := by
    rintro ⟨k, v⟩ hentry rfl
    exact h (List.mem_map_of_mem hentry)
  rw [set_of_not_mem h, erase, List.filter_append, List.filter_eq_self.mpr (by simpa using hothers)]
  simp

/-- Setting the old value undoes setting a new one. -/
lemma set_set_of_get? {value' : β} (h : t.get? key = some value) :
    (t.set key value').set key value = t := by
  induction t with
  | nil => simp [get?] at h
  | cons entry rest ih =>
    obtain ⟨k, v⟩ := entry
    by_cases hk : k = key
    · have hv : v = value := by simpa [get?, hk] using h
      simp [set, hk, hv]
    · have hrest : get? key rest = some value := by simpa [get?, hk] using h
      simp [set, hk, ih hrest]

/-! ### Taking over a table -/

lemma setAll_cons {entry : α × β} : t.setAll (entry :: new) = (t.set entry.1 entry.2).setAll new :=
  rfl

/-- What is taken over from a table with distinct keys. -/
lemma get?_setAll (h : new.keys.Nodup) : (t.setAll new).get? key = (new.get? key).or (t.get? key) := by
  induction new generalizing t with
  | nil => rfl
  | cons entry rest ih =>
    obtain ⟨k, v⟩ := entry
    have hnodup : k ∉ keys rest ∧ (keys rest).Nodup := List.nodup_cons.mp h
    rw [setAll_cons, ih hnodup.2, get?_set]
    by_cases hk : k = key
    · subst hk
      simp [get?, get?_eq_none_iff.mpr hnodup.1]
    · simp [get?, hk]

lemma mem_of_mem_setAll {entry : α × β} (h : entry ∈ t.setAll new) : entry ∈ t ∨ entry ∈ new := by
  induction new generalizing t with
  | nil => exact .inl h
  | cons first rest ih =>
    rcases ih h with h | h
    · rcases mem_of_mem_set h with h | rfl
      · exact .inl h
      · exact .inr List.mem_cons_self
    · exact .inr (List.mem_cons_of_mem _ h)

lemma get?_setAll_eq_some (h : (t.setAll new).get? key = some value) :
    (key, value) ∈ new ∨ t.get? key = some value := by
  induction new generalizing t with
  | nil => exact .inr h
  | cons first rest ih =>
    rcases ih h with h | h
    · exact .inl (List.mem_cons_of_mem _ h)
    · rw [get?_set] at h
      split at h
      · next hkey =>
        cases h
        subst hkey
        exact .inl List.mem_cons_self
      · exact .inr h

lemma nodup_keys_setAll (h : t.keys.Nodup) : (t.setAll new).keys.Nodup := by
  induction new generalizing t with
  | nil => exact h
  | cons entry rest ih => exact ih (nodup_keys_set h)

lemma mem_keys_setAll : key ∈ (t.setAll new).keys ↔ key ∈ t.keys ∨ key ∈ new.keys := by
  induction new generalizing t with
  | nil => simp [setAll, keys]
  | cons entry rest ih =>
    have hcons : key ∈ keys (entry :: rest) ↔ key = entry.1 ∨ key ∈ keys rest := List.mem_cons
    rw [setAll_cons, ih, mem_keys_set, hcons, or_assoc]

lemma keys_setAll_of_subset (h : ∀ k ∈ new.keys, k ∈ t.keys) : (t.setAll new).keys = t.keys := by
  induction new generalizing t with
  | nil => rfl
  | cons entry rest ih =>
    have hentry : entry.1 ∈ t.keys := h entry.1 (List.mem_cons_self ..)
    have hkeys : (t.set entry.1 entry.2).keys = t.keys := keys_set_of_mem hentry
    rw [setAll_cons, ih, hkeys]
    intro k hk
    rw [hkeys]
    exact h k (List.mem_cons_of_mem _ hk)

/-! ### Changing all values -/

omit [DecidableEq α] in
lemma keys_map {γ : Type} (change : β → γ) :
    keys (t.map fun entry => (entry.1, change entry.2)) = t.keys := by
  rw [keys, List.map_map]
  rfl

lemma get?_map {γ : Type} (change : β → γ) :
    get? key (t.map fun entry => (entry.1, change entry.2)) = (t.get? key).map change := by
  induction t with
  | nil => rfl
  | cons entry rest ih =>
    by_cases h : entry.1 = key
    · simp [get?, h]
    · simpa [get?, h] using ih

/-! ### Tables of entries -/

lemma setAll_append {more : Table α β} : t.setAll (new ++ more) = (t.setAll new).setAll more :=
  List.foldl_append

/-- A key that is not taken over keeps its value. -/
lemma get?_setAll_of_notMem (h : key ∉ new.keys) : (t.setAll new).get? key = t.get? key := by
  induction new generalizing t with
  | nil => rfl
  | cons entry rest ih =>
    obtain ⟨hne, hrest⟩ := not_or.mp (mt List.mem_cons.mpr h)
    rw [setAll_cons, ih hrest, get?_set, if_neg (Ne.symm hne)]

/-- A key that is taken over has a value from there. -/
lemma exists_get?_setAll (h : key ∈ new.keys) :
    ∃ value, (key, value) ∈ new ∧ (t.setAll new).get? key = some value := by
  induction new generalizing t with
  | nil => cases h
  | cons entry rest ih =>
    obtain ⟨k, v⟩ := entry
    by_cases hrest : key ∈ keys rest
    · obtain ⟨value, hmem, hvalue⟩ := ih (t := t.set k v) hrest
      exact ⟨value, List.mem_cons_of_mem _ hmem, hvalue⟩
    · obtain rfl : key = k := (List.mem_cons.mp h).resolve_right hrest
      exact ⟨v, List.mem_cons_self, by rw [setAll_cons, get?_setAll_of_notMem hrest, get?_set_self]⟩

/-- New keys come last, in their order. -/
lemma setAll_of_nodup (h : (t.keys ++ new.keys).Nodup) : t.setAll new = t ++ new := by
  induction new generalizing t with
  | nil => rw [List.append_nil]; rfl
  | cons entry rest ih =>
    obtain ⟨k, v⟩ := entry
    have hcons : (t.keys ++ k :: keys rest).Nodup := h
    have hnot : k ∉ t.keys := fun hmem =>
      (List.nodup_append.mp hcons).2.2 k hmem k List.mem_cons_self rfl
    rw [setAll_cons, set_of_not_mem hnot, ih, List.append_assoc, List.singleton_append]
    simpa [keys] using hcons

/-- Entries with distinct keys are a table. -/
lemma ofEntries_of_nodup (h : new.keys.Nodup) : ofEntries new = new :=
  setAll_of_nodup (t := []) h

/-- The last entry of a key counts. -/
lemma get?_ofEntries_append {front behind : Table α β} (h : key ∉ behind.keys) :
    (ofEntries (front ++ (key, value) :: behind)).get? key = some value := by
  rw [ofEntries, setAll_append, setAll_cons, get?_setAll_of_notMem h, get?_set_self]

/-- An entry that another one of its key follows does not count. -/
lemma get?_ofEntries_mem (h : (ofEntries new).get? key = some value) : (key, value) ∈ new :=
  (get?_setAll_eq_some h).resolve_right nofun

/-- The values of some keys by themselves. -/
lemma get?_filter (p : α → Bool) (t : Table α β) :
    get? key (t.filter fun entry => p entry.1) = if p key then t.get? key else none := by
  induction t with
  | nil => simp [get?]
  | cons entry rest ih =>
    obtain ⟨k, v⟩ := entry
    by_cases hk : k = key
    · subst hk
      by_cases hp : p k = true
      · simp [get?, hp]
      · simpa [get?, hp] using ih
    · by_cases hp : p k = true
      · simpa [get?, hp, hk] using ih
      · simpa [get?, hp, hk] using ih

omit [DecidableEq α] in
lemma nodup_keys_filter {p : α × β → Bool} (h : t.keys.Nodup) : keys (t.filter p) |>.Nodup :=
  h.sublist (List.filter_sublist.map _)

/-! ### Things with names -/

section Named

variable {ι : Type} {name : ι → α} {g : ι → Option β} {things : List ι} {x : ι}

/-- Some of the things in a list have values, under their names. -/
def named (name : ι → α) (g : ι → Option β) (things : List ι) : Table α β :=
  things.filterMap fun x => (g x).map fun v => (name x, v)

omit [DecidableEq α] in
lemma keys_named_sublist : (named name g things).keys.Sublist (things.map name) := by
  induction things with
  | nil => exact .slnil
  | cons x rest ih =>
    cases hx : g x with
    | none => simpa [named, keys, hx] using ih.cons (name x)
    | some v => simpa [named, keys, hx] using ih.cons_cons (name x)

omit [DecidableEq α] in
lemma nodup_keys_named (h : (things.map name).Nodup) : (named name g things).keys.Nodup :=
  h.sublist keys_named_sublist

/-- A thing whose name no other one has is found under it. -/
lemma get?_named (h : (things.map name).Nodup) (hx : x ∈ things) :
    (named name g things).get? (name x) = g x := by
  induction things with
  | nil => cases hx
  | cons y rest ih =>
    obtain ⟨hnot, hrest⟩ := List.nodup_cons.mp h
    rcases List.mem_cons.mp hx with rfl | hx
    · have hnone : (named name g rest).get? (name x) = none :=
        get?_eq_none_iff.mpr fun hmem => hnot (keys_named_sublist.subset hmem)
      cases hgx : g x with
      | none => simpa [named, hgx] using hnone
      | some v => simp [named, hgx, get?]
    · have hne : name y ≠ name x := fun heq => hnot (heq ▸ List.mem_map_of_mem hx)
      cases hgy : g y with
      | none => simpa [named, hgy] using ih hrest hx
      | some v => simpa [named, hgy, get?, hne] using ih hrest hx

end Named

end ComponentTags.Table
