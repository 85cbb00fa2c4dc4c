
set_option autoImplicit false

namespace Reckoner

structure Bindings (α : Type) where
  entries : List (String × α) := []

namespace Bindings

variable {α : Type}

def find? (name : String) : List (String × α) → Option α
  | [] => none
  | (k, v) :: rest => if k = name then some v else find? name rest

def put (name : String) (value : α) : List (String × α) → List (String × α)
  | [] => [(name, value)]
  | (k, v) :: rest =>
    if k = name then (name, value) :: rest
    else if name < k then (name, value) :: (k, v) :: rest
    else (k, v) :: put name value rest

def get? (b : Bindings α) (name : String) : Option α := find? name b.entries

def set (b : Bindings α) (name : String) (value : α) : Bindings α := ⟨put name value b.entries⟩

def erase (b : Bindings α) (name : String) : Bindings α :=
  ⟨b.entries.filter fun e => decide (e.1 ≠ name)⟩

def setAll (b : Bindings α) (entries : List (String × α)) : Bindings α :=
  entries.foldl (fun b e => b.set e.1 e.2) b

def ofList (entries : List (String × α)) : Bindings α := setAll {} entries

def size (b : Bindings α) : Nat := b.entries.length

theorem find?_put (name other : String) (value : α) (entries : List (String × α)) :
    find? other (put name value entries) =
      if name = other then some value else find? other entries := by
  induction entries with
  | nil => simp [put, find?]
  | cons e rest ih =>
    obtain ⟨k, v⟩ := e
    by_cases hk : k = name
    · subst hk; by_cases ho : k = other <;> simp [put, find?, ho]
    · by_cases hl : name < k
      · simp [put, find?, hk, hl]
      · simp only [put, if_neg hk, if_neg hl, find?, ih]
        by_cases ho : k = other
        · subst ho; simp [Ne.symm hk]
        · simp [ho]

theorem mem_of_find? {name : String} {value : α} {entries : List (String × α)}
    (h : find? name entries = some value) : (name, value) ∈ entries := by
  induction entries with
  | nil => cases h
  | cons e rest ih =>
    obtain ⟨k, v⟩ := e
    by_cases hk : k = name
    · rw [find?, if_pos hk] at h
      cases h
      exact hk ▸ List.mem_cons_self
    · rw [find?, if_neg hk] at h
      exact List.mem_cons_of_mem _ (ih h)

theorem mem_put {name : String} {value : α} {entries : List (String × α)} {x : String × α}
    (h : x ∈ put name value entries) : x = (name, value) ∨ x ∈ entries := by
  induction entries with
  | nil => exact .inl (List.mem_singleton.1 h)
  | cons e rest ih =>
    obtain ⟨k, v⟩ := e
    simp only [put] at h
    split at h
    · exact (List.mem_cons.1 h).imp_right (List.mem_cons_of_mem _)
    · split at h
      · exact List.mem_cons.1 h
      · rcases List.mem_cons.1 h with rfl | h
        · exact .inr List.mem_cons_self
        · exact (ih h).imp_right (List.mem_cons_of_mem _)

theorem get?_set (b : Bindings α) (name other : String) (value : α) :
    (b.set name value).get? other = if name = other then some value else b.get? other :=
  find?_put name other value b.entries

theorem get?_erase (b : Bindings α) (name other : String) :
    (b.erase name).get? other = if name = other then none else b.get? other := by
  simp only [get?, erase]
  induction b.entries with
  | nil => simp [find?]
  | cons e rest ih =>
    obtain ⟨k, v⟩ := e
    by_cases hk : k = name
    · subst hk; simp only [List.filter, ne_eq, not_true_eq_false, decide_false, ih, find?]
      by_cases ho : k = other <;> simp [ho]
    · simp only [List.filter, ne_eq, hk, not_false_eq_true, decide_true, find?, ih]
      by_cases ho : k = other
      · subst ho; simp [Ne.symm hk]
      · simp [ho]

end Bindings

end Reckoner
