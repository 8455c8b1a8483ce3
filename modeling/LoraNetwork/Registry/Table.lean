/-!
# Tables

A finite map as the list of its entries. Setting an entry removes the earlier ones of its key, so
the entry found is always the one set last; three lemmas say what is found after each change.
-/

namespace LoraNetwork

/-- A finite map, as the list of its entries. -/
structure Table (κ ν : Type) where
  /-- The entries; of two with one key the first counts. -/
  entries : List (κ × ν) := []

namespace Table

variable {κ ν : Type} [DecidableEq κ]

/-- The map without entries. -/
def empty : Table κ ν := {}

/-- The value of a key. -/
def get? (t : Table κ ν) (key : κ) : Option ν :=
  (t.entries.find? fun entry => entry.1 = key).map Prod.snd

/-- The map without a key. -/
def erase (t : Table κ ν) (key : κ) : Table κ ν :=
  ⟨t.entries.filter fun entry => entry.1 ≠ key⟩

/-- The map with a value for a key. -/
def set (t : Table κ ν) (key : κ) (value : ν) : Table κ ν :=
  ⟨(key, value) :: (t.erase key).entries⟩

/-- Nothing is found in an empty map. -/
@[simp] theorem get?_empty (key : κ) : (empty : Table κ ν).get? key = none := rfl

/-- After a key was removed, it has no value and every other key the value it had. -/
theorem get?_erase (t : Table κ ν) (key other : κ) :
    (t.erase key).get? other = if key = other then none else t.get? other := by
  by_cases h : key = other
  · subst h
    simp [get?, erase]
  · have hsame : (fun entry : κ × ν => !decide (entry.1 = key) && decide (entry.1 = other)) =
        fun entry => decide (entry.1 = other) := by
      funext entry
      by_cases ho : entry.1 = other
      · simp [ho, Ne.symm h]
      · simp [ho]
    simp [get?, erase, h, hsame]

/-- After a change of one key, that key has its new value and every other key the value it had. -/
theorem get?_set (t : Table κ ν) (key other : κ) (value : ν) :
    (t.set key value).get? other = if key = other then some value else t.get? other := by
  have herase := get?_erase t key other
  by_cases h : key = other
  · simp [get?, set, h]
  · rw [if_neg h] at herase ⊢
    rw [← herase]
    simp [get?, set, h]

end Table

end LoraNetwork
