/-
# Tables

A table maps keys to values and remembers the order in which its keys were first set.  Attributes of
a tag, fields of a component and the registered templates are tables, because their order shows in
what is printed.  Setting a key again keeps its place; erasing a key and setting it again moves it to
the end.
-/

namespace ComponentTags

/-- A finite map whose keys stand in the order in which they were first set. -/
abbrev Table (α β : Type) := List (α × β)

namespace Table

variable {α β : Type} [DecidableEq α]

/-- The keys in order. -/
def keys (t : Table α β) : List α := t.map Prod.fst

/-- The values in order. -/
def values (t : Table α β) : List β := t.map Prod.snd

/-- The value of a key. -/
def get? (key : α) : Table α β → Option β
  | [] => none
  | (k, v) :: rest => if k = key then some v else get? key rest

/-- Whether a key has a value. -/
def has (key : α) (t : Table α β) : Bool := (get? key t).isSome

/-- The table in which a key has a new value, at its old place or else at the end. -/
def set (key : α) (value : β) : Table α β → Table α β
  | [] => [(key, value)]
  | (k, v) :: rest => if k = key then (k, value) :: rest else (k, v) :: set key value rest

/-- The table without a key. -/
def erase (key : α) (t : Table α β) : Table α β := t.filter (fun entry => decide (entry.1 ≠ key))

/-- The table in which the keys of another one have their values from there. -/
def setAll (t new : Table α β) : Table α β :=
  new.foldl (fun table entry => table.set entry.1 entry.2) t

/-- The table that a list of entries describes when a later entry of a key overwrites an earlier
one. -/
def ofEntries (entries : List (α × β)) : Table α β := setAll [] entries

/-! ## Small facts -/

theorem get?_set (key other : α) (value : β) (t : Table α β) :
    get? other (t.set key value) = if key = other then some value else get? other t := by
  induction t with
  | nil => by_cases h : key = other <;> simp [set, get?, h]
  | cons entry rest ih =>
    obtain ⟨k, v⟩ := entry
    by_cases hk : k = key
    · subst hk
      by_cases h : k = other <;> simp [set, get?, h]
    · by_cases h : k = other
      · subst h
        simp [set, get?, hk, Ne.symm hk]
      · simp [set, get?, hk, h, ih]

theorem get?_set_self (key : α) (value : β) (t : Table α β) :
    get? key (t.set key value) = some value := by
  simp [get?_set]

theorem get?_erase_self (key : α) (t : Table α β) : get? key (t.erase key) = none := by
  induction t with
  | nil => rfl
  | cons entry rest ih =>
    obtain ⟨k, v⟩ := entry
    by_cases h : k = key
    · simpa [erase, h] using ih
    · simpa [erase, get?, h] using ih

theorem get?_erase_of_ne {key other : α} (h : key ≠ other) (t : Table α β) :
    get? other (t.erase key) = get? other t := by
  induction t with
  | nil => rfl
  | cons entry rest ih =>
    obtain ⟨k, v⟩ := entry
    by_cases hk : k = key
    · subst hk
      simpa [erase, get?, h] using ih
    · by_cases ho : k = other
      · subst ho
        simp [erase, get?, hk]
      · simpa [erase, get?, hk, ho] using ih

theorem keys_set_of_has {key : α} {t : Table α β} (h : t.has key = true) (value : β) :
    (t.set key value).keys = t.keys := by
  induction t with
  | nil => simp [has, get?] at h
  | cons entry rest ih =>
    obtain ⟨k, v⟩ := entry
    by_cases hk : k = key
    · simp [set, keys, hk]
    · have h' : has key rest = true := by simpa [has, get?, hk] using h
      have := ih h'
      simp only [keys] at this
      simp [set, keys, hk, this]

theorem keys_set_of_not_has {key : α} {t : Table α β} (h : t.has key = false) (value : β) :
    (t.set key value).keys = t.keys ++ [key] := by
  induction t with
  | nil => rfl
  | cons entry rest ih =>
    obtain ⟨k, v⟩ := entry
    have hk : k ≠ key := by
      intro hk
      simp [has, get?, hk] at h
    have h' : has key rest = false := by simpa [has, get?, hk] using h
    have := ih h'
    simp only [keys] at this
    simp [set, keys, hk, this]

end Table

end ComponentTags
