/-! # Keyed lists

A keyed list is a list of pairs, read as a finite map that remembers insertion order: labels and
annotations of an object, the members of a JSON object.

* `find? k`: the value at `k`; of several pairs with one key the first counts.
* `put k v`: the value at `k` becomes `v`. A key that was there keeps its place, a new one goes
  last.
* `keys`: the keys in order.

The main statements say what `put` does to the other two. -/

namespace RouteOverrides.Keyed

variable {α : Type} {β : Type}

def find? (k : String) : List (String × α) → Option α
  | [] => none
  | (k', v) :: rest => if k' = k then some v else find? k rest

/-- Sets the value at a key: in place if the key is there, else at the end. -/
def put (k : String) (v : α) : List (String × α) → List (String × α)
  | [] => [(k, v)]
  | (k', v') :: rest => if k' = k then (k, v) :: rest else (k', v') :: put k v rest

/-- The keys in order. -/
def keys (xs : List (String × α)) : List String := xs.map (·.1)

/-- A keyed list of pairs in which a later pair overrides an earlier one of the same key. -/
def ofPairs (xs : List (String × α)) : List (String × α) :=
  xs.foldl (fun acc pair => put pair.1 pair.2 acc) []

@[simp] theorem find?_nil (k : String) : find? k ([] : List (String × α)) = none := rfl

@[simp] theorem find?_put_self (k : String) (v : α) (xs : List (String × α)) :
    find? k (put k v xs) = some v := by
  induction xs with
  | nil => simp [put, find?]
  | cons pair rest ih =>
    simp only [put]
    split <;> simp_all [find?]

@[simp] theorem find?_put_of_ne {k k' : String} (h : k ≠ k') (v : α) (xs : List (String × α)) :
    find? k' (put k v xs) = find? k' xs := by
  induction xs with
  | nil => simp [put, find?, h]
  | cons pair rest ih =>
    simp only [put]
    split
    · rename_i hk
      simp [find?, h, hk]
    · simp [find?, ih]

/-- Setting a key that is there keeps the keys and their order. -/
theorem keys_put_of_mem {k : String} {xs : List (String × α)} (h : k ∈ keys xs) (v : α) :
    keys (put k v xs) = keys xs := by
  induction xs with
  | nil => simp [keys] at h
  | cons pair rest ih =>
    simp only [put]
    split
    · rename_i hk
      simp [keys, hk]
    · rename_i hk
      have hrest : k ∈ keys rest := by
        simp only [keys, List.map_cons, List.mem_cons] at h
        exact h.resolve_left fun h' => hk h'.symm
      simpa [keys] using ih hrest

/-- Setting a new key puts it last. -/
theorem put_of_not_mem {k : String} {xs : List (String × α)} (h : k ∉ keys xs) (v : α) :
    put k v xs = xs ++ [(k, v)] := by
  induction xs with
  | nil => rfl
  | cons pair rest ih =>
    simp only [keys, List.map_cons, List.mem_cons, not_or] at h
    simp only [put, if_neg (Ne.symm h.1), List.cons_append, ih h.2]

theorem find?_eq_none_iff {k : String} {xs : List (String × α)} :
    find? k xs = none ↔ k ∉ keys xs := by
  induction xs with
  | nil => simp [keys]
  | cons pair rest ih =>
    simp only [find?, keys, List.map_cons, List.mem_cons, not_or]
    split
    · rename_i hk
      simp [hk]
    · rename_i hk
      rw [ih]
      exact ⟨fun h => ⟨fun h' => hk h'.symm, h⟩, fun h => h.2⟩

/-- Looking up after a change of all values. -/
theorem find?_map (f : α → β) (k : String) (xs : List (String × α)) :
    find? k (xs.map fun pair => (pair.1, f pair.2)) = (find? k xs).map f := by
  induction xs with
  | nil => rfl
  | cons pair rest ih =>
    simp only [List.map_cons, find?]
    split
    · rfl
    · exact ih

end RouteOverrides.Keyed
