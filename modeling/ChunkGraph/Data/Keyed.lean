/-!
# Lists of values under keys

Where answers show an order, values are kept under their keys in a list: a new
key goes to the end, and a known key keeps its place when its value changes.

## Main definitions

* `put` — the value under a key set or changed.
* `erase` — the key taken out.
* `renew` — the value put at the end, the key's old place given up.
* `addTo` — one more item in the list under a key.

## Main statements

* `lookup_put`, `lookup_foldl_put` — what is found after values have been put.
* `lookup_erase` — what is found after a key has been taken out.
* `keys_put` — where the key of a value stands.
-/

namespace ChunkGraph.Keyed

variable {κ α : Type} [BEq κ]

/-- The value put under a key: in place if the key is there, at the end otherwise. -/
def put (key : κ) (value : α) : List (κ × α) → List (κ × α)
  | [] => [(key, value)]
  | (name, old) :: rest =>
      if name == key then (name, value) :: rest else (name, old) :: put key value rest

/-- The key is there. -/
def has (key : κ) (entries : List (κ × α)) : Bool := entries.any (·.1 == key)

/-- The list without a key. -/
def erase (key : κ) (entries : List (κ × α)) : List (κ × α) := entries.filter (!·.1 == key)

/-- The value put under a key at the end, wherever the key stood before. -/
def renew (key : κ) (value : α) (entries : List (κ × α)) : List (κ × α) :=
  erase key entries ++ [(key, value)]

/-- One more item at the end of the list under a key. -/
def addTo (key : κ) (item : α) : List (κ × List α) → List (κ × List α)
  | [] => [(key, [item])]
  | (name, items) :: rest =>
      if name == key then (name, items ++ [item]) :: rest
      else (name, items) :: addTo key item rest

section Lemmas

variable [LawfulBEq κ]

/-- After a value has been put it is found under its key, and all else is as before. -/
theorem lookup_put (key other : κ) (value : α) (entries : List (κ × α)) :
    (put key value entries).lookup other =
      if other == key then some value else entries.lookup other := by
  induction entries with
  | nil => by_cases h : other == key <;> simp [put, List.lookup_cons, h]
  | cons entry rest ih =>
      obtain ⟨name, old⟩ := entry
      by_cases hk : name == key
      · have hk' := eq_of_beq hk
        subst hk'
        by_cases h : other == name <;> simp [put, List.lookup_cons, h]
      · by_cases h : other == name
        · have h' := eq_of_beq h
          subst h'
          simp [put, hk]
        · have hk' : (name == key) = false := by simpa using hk
          have h' : (other == name) = false := by simpa using h
          simp [put, hk', List.lookup_cons, h', ih]

/-- A known key keeps its place and a new one goes to the end. -/
theorem keys_put (key : κ) (value : α) (entries : List (κ × α)) :
    (put key value entries).map (·.1) =
      if has key entries then entries.map (·.1) else entries.map (·.1) ++ [key] := by
  induction entries with
  | nil => simp [put, has]
  | cons entry rest ih =>
      obtain ⟨name, old⟩ := entry
      by_cases hk : name == key
      · simp [put, has, hk]
      · simp only [put, hk, has, List.map_cons, List.any_cons] at ih ⊢
        by_cases hr : rest.any (·.1 == key) <;> simp_all

/-- Of several values put under one key the last is found; else what was there before. -/
theorem lookup_foldl_put {β : Type} (key : β → κ) (value : β → α) (items : List β)
    (entries : List (κ × α)) (other : κ) :
    (items.foldl (fun entries item => put (key item) (value item) entries) entries).lookup other =
      ((items.reverse.find? (key · == other)).map value).or (entries.lookup other) := by
  induction items generalizing entries with
  | nil => simp
  | cons item items ih =>
      rw [List.foldl_cons, ih, lookup_put, List.reverse_cons, List.find?_append]
      cases hrest : items.reverse.find? (key · == other) with
      | some found => simp
      | none =>
          by_cases hkey : key item = other
          · subst hkey
            simp
          · have hkey' : (other == key item) = false := beq_eq_false_iff_ne.mpr (Ne.symm hkey)
            simp [hkey, hkey']

/-- A key that is there has a value. -/
theorem has_iff_exists_lookup (key : κ) (entries : List (κ × α)) :
    has key entries = true ↔ ∃ value, entries.lookup key = some value := by
  induction entries with
  | nil => simp [has]
  | cons entry rest ih =>
      obtain ⟨name, old⟩ := entry
      by_cases hk : key = name
      · subst hk
        simp [has]
      · have hk' : (key == name) = false := beq_eq_false_iff_ne.mpr hk
        have hk'' : (name == key) = false := beq_eq_false_iff_ne.mpr (Ne.symm hk)
        simp only [has, List.any_cons, hk'', Bool.false_or, List.lookup_cons, hk'] at ih ⊢
        exact ih

/-- A key is there when it is among the keys. -/
theorem has_iff_mem_keys (key : κ) (entries : List (κ × α)) :
    has key entries = true ↔ key ∈ entries.map (·.1) := by
  simp [has]

/-- A key that is taken out is gone, and all else is as before. -/
theorem lookup_erase (key other : κ) (entries : List (κ × α)) :
    (erase key entries).lookup other =
      if other == key then none else entries.lookup other := by
  induction entries with
  | nil => simp [erase]
  | cons entry rest ih =>
      obtain ⟨name, old⟩ := entry
      simp only [erase] at ih ⊢
      by_cases hk : name = key
      · subst hk
        by_cases ho : other = name
        · subst ho
          simpa using ih
        · have ho' : (other == name) = false := beq_eq_false_iff_ne.mpr ho
          simpa [List.lookup_cons, ho'] using ih
      · have hk' : (name == key) = false := beq_eq_false_iff_ne.mpr hk
        simp only [List.filter_cons, hk', Bool.not_false, if_true, List.lookup_cons]
        by_cases ho : other = name
        · subst ho
          simp [hk]
        · have ho' : (other == name) = false := beq_eq_false_iff_ne.mpr ho
          simp only [ho']
          exact ih

end Lemmas

end ChunkGraph.Keyed
