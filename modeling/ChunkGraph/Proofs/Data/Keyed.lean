import ChunkGraph.Data.Keyed
import Mathlib.Data.List.Nodup

/-!
# Lists whose keys are different

A value that is put under a new key goes to the end, and an item that is added
to a list under a key leaves the other lists as they are. Neither makes a key
occur twice. When no key does, to stand in the list and to be found in it are
the same.

## Main results

* `put_of_not_mem` — a new key goes to the end.
* `nodup_keys_put`, `nodup_keys_erase` — keys stay different while values are
  put and keys are taken out.
* `lookup_filter` — what is found among the entries with some keys.
* `erase_append_cons` — taking a key out takes out one value.
* `nodup_keys_foldl_addTo` — keys stay different while items are added.
* `lookup_foldl_addTo` — under a key all items of that key are found.
* `mem_iff_lookup` — what stands in the list is found.
* `lookup_renew`, `nodup_keys_renew` — values put at the end.
-/

namespace ChunkGraph.Keyed

variable {κ α : Type} [BEq κ] [LawfulBEq κ]

/-- A new key goes to the end. -/
theorem put_of_not_mem {key : κ} {entries : List (κ × α)} (value : α)
    (h : key ∉ entries.map (·.1)) : put key value entries = entries ++ [(key, value)] := by
  induction entries with
  | nil => rfl
  | cons entry rest ih =>
      obtain ⟨name, old⟩ := entry
      rw [List.map_cons, List.mem_cons, not_or] at h
      have hname : ¬ (name == key) = true := fun hsame => h.1 (eq_of_beq hsame).symm
      rw [put, if_neg hname, ih h.2]
      rfl

/-- Entries with different keys stay as they are when they are put one after the other. -/
theorem foldl_put_of_nodup {done entries : List (κ × α)}
    (h : ((done ++ entries).map (·.1)).Nodup) :
    entries.foldl (fun found (name, value) => put name value found) done = done ++ entries := by
  induction entries generalizing done with
  | nil => exact (List.append_nil done).symm
  | cons entry entries ih =>
      obtain ⟨name, value⟩ := entry
      have hsplit : done ++ (name, value) :: entries = done ++ [(name, value)] ++ entries := by simp
      have hnew : name ∉ done.map (·.1) := by
        rw [List.map_append, List.nodup_append] at h
        exact fun hmem => h.2.2 name hmem name List.mem_cons_self rfl
      rw [List.foldl_cons]
      dsimp only
      rw [put_of_not_mem value hnew, hsplit]
      exact ih (hsplit ▸ h)

/-- A key without a value is not there. -/
theorem lookup_eq_none_of_not_mem {key : κ} {entries : List (κ × α)}
    (h : key ∉ entries.map (·.1)) : entries.lookup key = none := by
  cases hlookup : entries.lookup key with
  | none => rfl
  | some value =>
      have hhas := (has_iff_exists_lookup key entries).mpr ⟨value, hlookup⟩
      exact absurd ((has_iff_mem_keys key entries).mp hhas) h

/-- Of the entries with keys that are wanted, what is found is found as before. -/
theorem lookup_filter (wanted : κ → Bool) (key : κ) (entries : List (κ × α)) :
    (entries.filter (wanted ·.1)).lookup key =
      if wanted key then entries.lookup key else none := by
  induction entries with
  | nil => simp
  | cons entry rest ih =>
      obtain ⟨name, value⟩ := entry
      by_cases hsame : key = name
      · subst hsame
        cases hkey : wanted key with
        | true => simp [hkey]
        | false => simpa [List.filter_cons, hkey] using ih
      · have hname : (key == name) = false := beq_eq_false_iff_ne.mpr hsame
        rw [List.filter_cons, List.lookup_cons, hname]
        split
        · rw [List.lookup_cons, hname, ih]
        · exact ih

/-- Keys stay different while a value is put. -/
theorem nodup_keys_put {entries : List (κ × α)} (h : (entries.map (·.1)).Nodup) (key : κ)
    (value : α) : ((put key value entries).map (·.1)).Nodup := by
  rw [keys_put]
  split
  · exact h
  · rename_i hnew
    rw [has_iff_mem_keys] at hnew
    exact List.nodup_append.mpr ⟨h, List.nodup_singleton key, fun a ha b hb hab =>
      hnew (List.mem_singleton.mp hb ▸ hab ▸ ha)⟩

omit [LawfulBEq κ] in
/-- Keys stay different while a key is taken out. -/
theorem nodup_keys_erase {entries : List (κ × α)} (h : (entries.map (·.1)).Nodup) (key : κ) :
    ((erase key entries).map (·.1)).Nodup := h.sublist (List.filter_sublist.map _)

/-- A key that is not there cannot be taken out. -/
theorem erase_of_not_mem {key : κ} {entries : List (κ × α)} (h : key ∉ entries.map (·.1)) :
    erase key entries = entries := by
  refine List.filter_eq_self.mpr fun entry hentry => ?_
  have hne : entry.1 ≠ key := fun heq => h (heq ▸ List.mem_map_of_mem hentry)
  simpa using hne

/-- With different keys, one value is taken out with its key. -/
theorem erase_append_cons {front back : List (κ × α)} {entry : κ × α}
    (h : ((front ++ entry :: back).map (·.1)).Nodup) :
    erase entry.1 (front ++ entry :: back) = front ++ back := by
  rw [List.map_append, List.map_cons, List.nodup_middle] at h
  have hnew : entry.1 ∉ (front ++ back).map (·.1) := by
    rw [List.map_append]
    exact (List.nodup_cons.mp h).1
  have hself : erase entry.1 (front ++ entry :: back) = erase entry.1 (front ++ back) := by
    simp [erase, List.filter_append]
  rw [hself, erase_of_not_mem hnew]

omit [LawfulBEq κ] in
/-- One more item under a key leaves the keys as they are, or the key is new. -/
theorem keys_addTo (key : κ) (item : α) (entries : List (κ × List α)) :
    (addTo key item entries).map (·.1) =
      if has key entries then entries.map (·.1) else entries.map (·.1) ++ [key] := by
  induction entries with
  | nil => rfl
  | cons entry rest ih =>
      obtain ⟨name, items⟩ := entry
      unfold addTo has
      rw [List.any_cons]
      by_cases hname : (name == key) = true
      · rw [if_pos hname, hname, Bool.true_or, if_pos rfl]
        rfl
      · rw [if_neg hname, List.map_cons, ih, Bool.eq_false_iff.mpr hname, Bool.false_or]
        unfold has
        split
        · rfl
        · rfl

/-- One more item is found behind the others under its key, and all else is as before. -/
theorem lookup_addTo (key other : κ) (item : α) (entries : List (κ × List α)) :
    (addTo key item entries).lookup other =
      if other == key then some ((entries.lookup key).getD [] ++ [item])
      else entries.lookup other := by
  induction entries with
  | nil =>
      unfold addTo
      rw [List.lookup_cons]
      split
      · rename_i hother
        rw [if_pos hother]
        rfl
      · rename_i hother
        rw [if_neg (by simpa using hother)]
  | cons entry rest ih =>
      obtain ⟨name, items⟩ := entry
      unfold addTo
      by_cases hname : (name == key) = true
      · obtain rfl := eq_of_beq hname
        rw [if_pos hname, List.lookup_cons, List.lookup_cons, List.lookup_cons, hname]
        cases hother : other == name with
        | true => rfl
        | false => rfl
      · rw [if_neg hname, List.lookup_cons, ih, List.lookup_cons, List.lookup_cons]
        have hkey : (key == name) = false :=
          beq_eq_false_iff_ne.mpr fun hsame => hname (beq_iff_eq.mpr hsame.symm)
        rw [hkey]
        cases hother : other == name with
        | true =>
            obtain rfl := eq_of_beq hother
            exact (if_neg hname).symm
        | false => rfl

/-- The keys of lists that items have been added to are different. -/
theorem nodup_keys_foldl_addTo (key : α → κ) (items : List α) {entries : List (κ × List α)}
    (h : (entries.map (·.1)).Nodup) :
    ((items.foldl (fun entries item => addTo (key item) item entries) entries).map
      (·.1)).Nodup := by
  induction items generalizing entries with
  | nil => exact h
  | cons item items ih =>
      apply ih
      rw [keys_addTo]
      split
      · exact h
      · rename_i hnew
        rw [List.nodup_append]
        refine ⟨h, by simp, ?_⟩
        intro a ha b hb hab
        rw [List.mem_singleton.mp hb] at hab
        exact hnew ((has_iff_mem_keys _ entries).mpr (hab ▸ ha))

/-- Under a key all items of that key are found, in their order. -/
theorem lookup_foldl_addTo (key : α → κ) (items : List α) (entries : List (κ × List α))
    (other : κ) :
    (items.foldl (fun entries item => addTo (key item) item entries) entries).lookup other =
      if (items.filter (key · == other)).isEmpty then entries.lookup other
      else some ((entries.lookup other).getD [] ++ items.filter (key · == other)) := by
  induction items generalizing entries with
  | nil => rfl
  | cons item items ih =>
      rw [List.foldl_cons, ih, lookup_addTo]
      by_cases hkey : (key item == other) = true
      · obtain rfl := eq_of_beq hkey
        rw [if_pos hkey, List.filter_cons, if_pos hkey, Option.getD_some, List.isEmpty_cons,
          if_neg Bool.false_ne_true, List.append_assoc, List.singleton_append]
        split
        · rename_i hempty
          rw [List.isEmpty_iff.mp hempty]
        · rfl
      · have hother : ¬ (other == key item) = true := fun hsame =>
          hkey (beq_iff_eq.mpr (eq_of_beq hsame).symm)
        rw [if_neg hother, List.filter_cons, if_neg hkey]

/-- What is found under a key stands in the list. -/
theorem mem_of_lookup {key : κ} {value : α} {entries : List (κ × α)}
    (h : entries.lookup key = some value) : (key, value) ∈ entries := by
  obtain ⟨before, after, heq, _⟩ := List.lookup_eq_some_iff.mp h
  rw [heq]
  exact List.mem_append_right before List.mem_cons_self

/-- With different keys, what stands in the list is found under its key. -/
theorem mem_iff_lookup {entries : List (κ × α)} (h : (entries.map (·.1)).Nodup) {key : κ}
    {value : α} : (key, value) ∈ entries ↔ entries.lookup key = some value := by
  refine ⟨fun hmem => ?_, mem_of_lookup⟩
  obtain ⟨found, hfound⟩ := (has_iff_exists_lookup key entries).mp
    ((has_iff_mem_keys key entries).mpr (List.mem_map_of_mem hmem))
  have hsame : ((key, found) : κ × α) = (key, value) :=
    List.inj_on_of_nodup_map h (mem_of_lookup hfound) hmem rfl
  rw [hfound, (Prod.mk.inj hsame).2]

/-! ## Values put at the end -/

/-- A value that has been put at the end is found, and all else is as before. -/
theorem lookup_renew (key other : κ) (value : α) (entries : List (κ × α)) :
    (renew key value entries).lookup other =
      if other == key then some value else entries.lookup other := by
  unfold renew
  rw [List.lookup_append, lookup_erase, List.lookup_cons]
  cases hother : other == key with
  | true => rfl
  | false =>
      simp only [Bool.false_eq_true, if_false]
      cases entries.lookup other with
      | some found => rfl
      | none => rfl

/-- Keys stay different while a value is put at the end. -/
theorem nodup_keys_renew {entries : List (κ × α)} (h : (entries.map (·.1)).Nodup) (key : κ)
    (value : α) : ((renew key value entries).map (·.1)).Nodup := by
  unfold renew
  rw [List.map_append, List.nodup_append]
  refine ⟨nodup_keys_erase h key, List.nodup_singleton key, ?_⟩
  intro a ha b hb hab
  obtain ⟨entry, hentry, rfl⟩ := List.mem_map.mp ha
  have hne : entry.1 ≠ key := by simpa using List.of_mem_filter hentry
  exact hne (hab.trans (List.mem_singleton.mp hb))

/-- With different keys, at most one value is taken out with a key. -/
theorem length_le_length_erase {entries : List (κ × α)} (h : (entries.map (·.1)).Nodup)
    (key : κ) : entries.length ≤ (erase key entries).length + 1 := by
  by_cases hmem : key ∈ entries.map (·.1)
  · obtain ⟨entry, hentry, rfl⟩ := List.mem_map.mp hmem
    obtain ⟨front, back, rfl⟩ := List.append_of_mem hentry
    rw [erase_append_cons h]
    simp
    omega
  · rw [erase_of_not_mem hmem]
    omega

end ChunkGraph.Keyed
