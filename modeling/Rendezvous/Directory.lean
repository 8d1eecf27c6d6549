/-
# Directories

A directory keeps one value under each of its keys, in the order in which the
keys came in. It is seen through `get?` alone: every operation is described by
what it does to the value under each key, and that no key occurs twice is part of
the type.
-/

namespace Rendezvous

/-- Values under distinct keys, in the order of the keys' arrival. -/
structure Directory (κ : Type) (α : Type) where
  entries : List (κ × α)
  distinct : (entries.map Prod.fst).Nodup
  deriving DecidableEq, Repr

namespace Directory

variable {κ α : Type} [DecidableEq κ]

/-- The directory without keys. -/
def empty : Directory κ α := ⟨[], List.nodup_nil⟩

instance : Inhabited (Directory κ α) := ⟨empty⟩

/-- The value under a key. -/
def get? (directory : Directory κ α) (key : κ) : Option α :=
  directory.entries.lookup key

/-- How many keys there are. -/
def size (directory : Directory κ α) : Nat :=
  directory.entries.length

/-- Put a value in the place of the one under a key. -/
def replace (key : κ) (value : α) (entries : List (κ × α)) : List (κ × α) :=
  entries.map fun entry => if entry.1 = key then (key, value) else entry

theorem map_fst_replace (key : κ) (value : α) (entries : List (κ × α)) :
    (replace key value entries).map Prod.fst = entries.map Prod.fst := by
  induction entries with
  | nil => rfl
  | cons entry rest ih =>
    have head : (if entry.1 = key then (key, value) else entry).1 = entry.1 := by
      split <;> simp_all
    simp_all [replace]

/-- Put a value under a key; a new key comes last. -/
def set (directory : Directory κ α) (key : κ) (value : α) : Directory κ α :=
  if known : key ∈ directory.entries.map Prod.fst then
    ⟨replace key value directory.entries, by
      rw [map_fst_replace]; exact directory.distinct⟩
  else
    ⟨directory.entries ++ [(key, value)], by
      rw [List.map_append, List.nodup_append]
      refine ⟨directory.distinct, by simp, ?_⟩
      intro left inside right last
      simp only [List.map_cons, List.map_nil, List.mem_singleton] at last
      subst last
      exact fun same => known (same ▸ inside)⟩

/-- Take a key and its value out. -/
def erase (directory : Directory κ α) (key : κ) : Directory κ α :=
  ⟨directory.entries.filter fun entry => entry.1 ≠ key,
    directory.distinct.sublist (List.filter_sublist.map Prod.fst)⟩

@[simp] theorem get?_empty (key : κ) : (empty : Directory κ α).get? key = none := rfl

omit [DecidableEq κ] in
@[simp] theorem size_empty : (empty : Directory κ α).size = 0 := rfl

theorem lookup_replace_self {key : κ} {value : α} {entries : List (κ × α)}
    (known : key ∈ entries.map Prod.fst) :
    (replace key value entries).lookup key = some value := by
  induction entries with
  | nil => simp at known
  | cons entry rest ih =>
    obtain ⟨first, old⟩ := entry
    by_cases same : first = key
    · simp [replace, same]
    · have later : key ∈ rest.map Prod.fst := by
        simpa [Ne.symm same] using known
      have differs : (key == first) = false := by simp [Ne.symm same]
      simpa [replace, same, List.lookup_cons, differs] using ih later

theorem lookup_replace_of_ne {key other : κ} (ne : other ≠ key) (value : α)
    (entries : List (κ × α)) :
    (replace key value entries).lookup other = entries.lookup other := by
  induction entries with
  | nil => rfl
  | cons entry rest ih =>
    obtain ⟨first, old⟩ := entry
    by_cases same : first = key
    · subst same
      have differs : (other == first) = false := by simp [ne]
      simpa [replace, List.lookup_cons, differs] using ih
    · by_cases found : other = first
      · simp [replace, same, found]
      · have differs : (other == first) = false := by simp [found]
        simpa [replace, same, List.lookup_cons, differs] using ih

theorem lookup_eq_none_iff_not_mem {key : κ} {entries : List (κ × α)} :
    entries.lookup key = none ↔ key ∉ entries.map Prod.fst := by
  induction entries with
  | nil => simp
  | cons entry rest ih =>
    obtain ⟨first, old⟩ := entry
    by_cases same : key = first
    · simp [same]
    · have differs : (key == first) = false := by simp [same]
      simp [List.lookup_cons, differs, same, ih]

theorem lookup_append_singleton (key other : κ) (value : α) (entries : List (κ × α)) :
    (entries ++ [(key, value)]).lookup other =
      (entries.lookup other).or (if other = key then some value else none) := by
  induction entries with
  | nil =>
    by_cases same : other = key
    · simp [same]
    · have differs : (other == key) = false := by simp [same]
      simp [List.lookup_cons, differs, same]
  | cons entry rest ih =>
    obtain ⟨first, old⟩ := entry
    by_cases found : other = first
    · simp [found]
    · have differs : (other == first) = false := by simp [found]
      simpa [List.lookup_cons, differs] using ih

@[simp] theorem get?_set_self (directory : Directory κ α) (key : κ) (value : α) :
    (directory.set key value).get? key = some value := by
  unfold set get?
  split
  · next known => exact lookup_replace_self known
  · next unknown =>
    rw [lookup_append_singleton, lookup_eq_none_iff_not_mem.mpr unknown]
    simp

theorem get?_set_of_ne (directory : Directory κ α) {key other : κ} (ne : other ≠ key)
    (value : α) : (directory.set key value).get? other = directory.get? other := by
  unfold set get?
  split
  · exact lookup_replace_of_ne ne value _
  · rw [lookup_append_singleton]
    simp [ne]

theorem get?_set (directory : Directory κ α) (key other : κ) (value : α) :
    (directory.set key value).get? other =
      if other = key then some value else directory.get? other := by
  by_cases same : other = key
  · subst same
    simp
  · simp [same, get?_set_of_ne]

theorem lookup_filter_ne (key other : κ) (entries : List (κ × α)) :
    (entries.filter fun entry => entry.1 ≠ key).lookup other =
      if other = key then none else entries.lookup other := by
  induction entries with
  | nil => simp
  | cons entry rest ih =>
    obtain ⟨first, old⟩ := entry
    by_cases same : first = key
    · subst same
      rw [List.filter_cons_of_neg (by simp), ih]
      by_cases found : other = first
      · simp [found]
      · have differs : (other == first) = false := by simp [found]
        simp [List.lookup_cons, differs]
    · rw [List.filter_cons_of_pos (by simpa using same)]
      by_cases found : other = first
      · simp [found, same]
      · have differs : (other == first) = false := by simp [found]
        simpa only [List.lookup_cons, differs] using ih

theorem get?_erase (directory : Directory κ α) (key other : κ) :
    (directory.erase key).get? other =
      if other = key then none else directory.get? other :=
  lookup_filter_ne key other directory.entries

@[simp] theorem get?_erase_self (directory : Directory κ α) (key : κ) :
    (directory.erase key).get? key = none := by
  simp [get?_erase]

/-- A directory under whose keys nothing is found is the one without keys. -/
theorem eq_empty_of_get? {directory : Directory κ α}
    (nothing : ∀ key, directory.get? key = none) : directory = empty := by
  obtain ⟨entries, distinct⟩ := directory
  cases entries with
  | nil => rfl
  | cons entry rest =>
    have found : (entry :: rest).lookup entry.1 = none := nothing entry.1
    simp at found

end Directory

end Rendezvous
