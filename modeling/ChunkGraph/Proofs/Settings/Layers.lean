import ChunkGraph.Proofs.Data.Partial
import ChunkGraph.Settings.Document
import Mathlib.Data.List.Nodup

/-!
# The layers of settings

A setting has its value from the first of three layers that says something: an
environment variable, the settings file, the standard. Reading one section,
setting one entry and looking at one variable all change settings entry by
entry, and so do several of these in a row.

The table of variables follows one rule: the name of a variable is made of the
section and the key, and its text is read as a value of the type of the
standard. Two settings have no variable.

## Main definitions

* `Settings.mapEntries` — settings changed entry by entry.
* `Settings.given?` — what structured data give for a setting.
* `Settings.variableOf`, `Settings.withoutVariable` — the variable of a setting,
  and the settings that have none.
* `Settings.layered` — the settings that the three layers come to.

## Main results

* `Settings.ofValue_eq_ok`, `Settings.override_eq_ok_iff` — the two upper layers.
* `Settings.overrides_eq` — the rule that the table of variables follows.
* `Settings.load_eq_ok_iff` — when there are settings for a run, and which.
* `Settings.load_layers` — the same for a single setting.
-/

namespace ChunkGraph.Settings

open Data

/-! ## Entry by entry -/

/-- Values under keys, found after all of them have been changed. -/
theorem lookup_map_entries {α β : Type} (f : String → α → β) (entries : List (String × α))
    (key : String) :
    (entries.map fun (name, value) => (name, f name value)).lookup key =
      (entries.lookup key).map (f key) := by
  induction entries with
  | nil => rfl
  | cons entry rest ih =>
      obtain ⟨name, value⟩ := entry
      rw [List.map_cons, List.lookup_cons, List.lookup_cons, ih]
      cases hsame : key == name with
      | true => rw [eq_of_beq hsame]; rfl
      | false => rfl

/-- The settings with each value replaced by what its section, its key and the value say. -/
def mapEntries (f : String → String → Value → Value) (s : Settings) : Settings :=
  ⟨s.sections.map fun (name, entries) =>
    (name, entries.map fun (key, value) => (key, f name key value))⟩

/-- The value of a key that its section has. -/
def value? (s : Settings) (name key : String) : Option Value :=
  (s.sections.lookup name).bind (·.lookup key)

/-- The sections with their keys. -/
def keys (s : Settings) : List (String × String) :=
  s.sections.flatMap fun (name, entries) => entries.map fun (key, _) => (name, key)

section Entries

variable {f g : String → String → Value → Value} {s : Settings} {name key : String}

theorem mapEntries_mapEntries :
    (s.mapEntries g).mapEntries f =
      s.mapEntries fun name key value => f name key (g name key value) := by
  simp [mapEntries, List.map_map, Function.comp_def]

theorem mapEntries_of_forall (h : ∀ name key value, f name key value = value) :
    s.mapEntries f = s := by
  simp [mapEntries, h]

theorem mapEntries_congr
    (h : ∀ name key value, (name, key) ∈ s.keys → f name key value = g name key value) :
    s.mapEntries f = s.mapEntries g := by
  unfold mapEntries
  congr 1
  apply List.map_congr_left
  rintro ⟨name, entries⟩ hentries
  refine congrArg (name, ·) (List.map_congr_left ?_)
  rintro ⟨key, value⟩ hvalue
  have hkey : (name, key) ∈ s.keys :=
    List.mem_flatMap.mpr ⟨(name, entries), hentries, List.mem_map.mpr ⟨(key, value), hvalue, rfl⟩⟩
  exact congrArg (key, ·) (h name key value hkey)

theorem set_eq_mapEntries (value : Value) :
    s.set name key value =
      s.mapEntries fun other field old => if other = name ∧ field = key then value else old := by
  unfold set mapEntries
  congr 1
  apply List.map_congr_left
  rintro ⟨other, entries⟩ _
  by_cases hname : other = name
  · simp [hname, setEntry]
  · simp [hname]

theorem value?_mapEntries :
    (s.mapEntries f).value? name key = (s.value? name key).map (f name key) := by
  have hsection := lookup_map_entries
    (fun name entries => entries.map fun (key, value) => (key, f name key value)) s.sections name
  unfold value? mapEntries
  rw [hsection]
  cases s.sections.lookup name with
  | none => rfl
  | some entries => exact lookup_map_entries (f name) entries key

/-- A value changed entry by entry. -/
theorem get_mapEntries {value : Value} (h : s.value? name key = some value) :
    (s.mapEntries f).get name key = f name key value := by
  show ((s.mapEntries f).value? name key).getD .null = _
  rw [value?_mapEntries, h]
  rfl

end Entries

/-! ## The file -/

/-- What structured data give for a setting; of a repeated key the last value counts. -/
def given? (data : Value) (name key : String) : Option Value :=
  (data.get? name).bind fun part => part.fields.reverse.lookup key

/-- Values set one after the other: of a repeated key the last value counts. -/
theorem foldl_set (entries : List (String × Value)) (s : Settings) (name : String) :
    entries.foldl (fun s (key, value) => s.set name key value) s =
      s.mapEntries fun other key old =>
        if other = name then (entries.reverse.lookup key).getD old else old := by
  induction entries generalizing s with
  | nil => exact (mapEntries_of_forall fun _ _ _ => by simp).symm
  | cons entry rest ih =>
      obtain ⟨key, value⟩ := entry
      rw [List.foldl_cons, ih]
      dsimp only
      rw [set_eq_mapEntries, mapEntries_mapEntries]
      congr 1
      funext other field old
      rw [List.reverse_cons, List.lookup_append]
      by_cases hname : other = name
      · rw [if_pos hname, if_pos hname]
        cases rest.reverse.lookup field with
        | some found => rfl
        | none =>
            by_cases hkey : field = key
            · simp [hname, hkey]
            · simp [hkey, List.lookup_cons, beq_eq_false_iff_ne.mpr hkey]
      · simp [hname]

/-- What can be read of a section are the entries with texts as keys. -/
theorem sectionEntries_eq_ok {title : String} {known : List String} {value : Value}
    {entries : List (String × Value)} (h : sectionEntries title known value = .ok entries) :
    entries = value.fields := by
  unfold sectionEntries at h
  split at h
  · split at h
    · dsimp only at h
      split at h
      · exact absurd h (by simp)
      · exact (Except.ok.inj h).symm
    · exact absurd h (by simp)
  · rename_i hnot
    split at h
    · cases value with
      | table entries => exact absurd rfl (hnot entries)
      | scalar _ => exact (Except.ok.inj h).symm
      | list _ => exact (Except.ok.inj h).symm
    · exact absurd h (by simp)

/-- What is found for a section is what stands under its name. -/
theorem sectionData?_cases (name : String) (data : Value) :
    (∃ reason, sectionData? name data = some (.error reason)) ∨
      sectionData? name data = (data.get? name).map .ok := by
  cases data with
  | table entries => exact Or.inr rfl
  | list items =>
      by_cases hitem : (items.any fun item => item.asText? == some name) = true
      · exact Or.inl ⟨_, if_pos hitem⟩
      · exact Or.inr (if_neg hitem)
  | scalar datum =>
      cases datum with
      | text s =>
          by_cases hpart : Text.hasPart name.toList s.toList = true
          · exact Or.inl ⟨_, if_pos hpart⟩
          · exact Or.inr (if_neg hpart)
      | null => exact Or.inr rfl
      | bool _ => exact Or.inr rfl
      | int _ => exact Or.inr rfl
      | float _ => exact Or.inr rfl

/-- A section that can be read sets what the data give for it. -/
theorem readSection_eq_ok {data : Value} {s t : Settings} {name : String}
    (h : readSection data s name = .ok t) :
    t = s.mapEntries fun other key old =>
      if other = name then (given? data name key).getD old else old := by
  unfold readSection at h
  rcases sectionData?_cases name data with ⟨reason, herror⟩ | hfound
  · rw [herror] at h
    exact absurd h (by simp [Except.bind])
  · rw [hfound] at h
    unfold given?
    cases hdata : data.get? name with
    | none =>
        rw [hdata] at h
        obtain rfl := Except.ok.inj h
        exact (mapEntries_of_forall fun _ _ _ => by simp).symm
    | some part =>
        rw [hdata] at h
        dsimp only [Option.map_some] at h
        split at h
        · exact absurd h (by simp)
        · rename_i entries hentries
          obtain rfl := Except.ok.inj h
          rw [sectionEntries_eq_ok hentries, foldl_set]
          rfl

theorem foldlM_readSection {data : Value} {names : List String} {s t : Settings}
    (h : names.foldlM (readSection data) s = .ok t) :
    t = s.mapEntries fun name key old =>
      if name ∈ names then (given? data name key).getD old else old := by
  induction names generalizing s with
  | nil =>
      obtain rfl := Except.ok.inj h
      exact (mapEntries_of_forall fun _ _ _ => by simp).symm
  | cons name rest ih =>
      rw [List.foldlM_cons] at h
      cases hread : readSection data s name with
      | error failure =>
          rw [hread] at h
          exact absurd h (by simp [bind, Except.bind])
      | ok u =>
          rw [hread] at h
          rw [ih h, readSection_eq_ok hread, mapEntries_mapEntries]
          congr 1
          funext other key old
          by_cases hname : other = name
          · subst hname
            cases given? data other key with
            | none => simp
            | some value => simp
          · simp [hname]

/-- Settings that can be read are the standard ones with what the data give. -/
theorem ofValue_eq_ok {data : Value} {t : Settings} (h : ofValue data = .ok t) :
    t = standard.mapEntries fun name key old => (given? data name key).getD old := by
  have hfold : (standard.sections.map (·.1)).foldlM (readSection data) standard = .ok t := by
    unfold ofValue at h
    split at h
    · exact h
    · exact h
    · exact h
    · exact absurd h (by simp)
  rw [foldlM_readSection hfold]
  apply mapEntries_congr
  intro name key old hkey
  obtain ⟨⟨other, entries⟩, hsection, hentry⟩ := List.mem_flatMap.mp hkey
  obtain ⟨_, _, heq⟩ := List.mem_map.mp hentry
  obtain ⟨rfl, _⟩ := Prod.mk.inj heq
  exact if_pos (List.mem_map.mpr ⟨(other, entries), hsection, rfl⟩)

/-! ## The environment -/

/-- The variable can be read if it is set. -/
def Override.Readable (env : Environment) (o : Override) : Prop :=
  ∀ text, env.lookup o.envName = some text → ∃ value, o.conversion.apply text = .ok value

/-- What a variable says, if it is set and can be read. -/
def Override.said? (env : Environment) (o : Override) : Option Value :=
  (env.lookup o.envName).bind fun text => (o.conversion.apply text).toOption

/-- What the variable of a setting says. -/
def said? (env : Environment) (os : List Override) (name key : String) : Option Value :=
  (os.find? fun o => o.name == name && o.key == key).bind (·.said? env)

theorem said?_cons (env : Environment) (o : Override) (rest : List Override) (name key : String) :
    said? env (o :: rest) name key =
      if o.name = name ∧ o.key = key then o.said? env else said? env rest name key := by
  unfold said?
  rw [List.find?_cons]
  by_cases hsets : o.name = name ∧ o.key = key
  · simp [hsets]
  · have hnot : (o.name == name && o.key == key) = false := by
      rw [Bool.and_eq_false_iff, beq_eq_false_iff_ne, beq_eq_false_iff_ne]
      exact not_and_or.mp hsets
    rw [hnot, if_neg hsets]

theorem said?_eq_none {env : Environment} {os : List Override} {name key : String}
    (h : (name, key) ∉ os.map fun o => (o.name, o.key)) : said? env os name key = none := by
  induction os with
  | nil => rfl
  | cons o rest ih =>
      rw [List.map_cons, List.mem_cons, not_or] at h
      rw [said?_cons, if_neg fun hsets => h.1 (Prod.ext hsets.1.symm hsets.2.symm), ih h.2]

/-- One variable that can be read changes at most its setting. -/
theorem overrideOne_of_readable {env : Environment} {o : Override} (s : Settings)
    (h : o.Readable env) :
    overrideOne env s o = .ok (s.mapEntries fun name key old =>
      if o.name = name ∧ o.key = key then (o.said? env).getD old else old) := by
  unfold overrideOne Override.said?
  cases hset : env.lookup o.envName with
  | none => exact congrArg Except.ok (mapEntries_of_forall fun _ _ _ => by simp).symm
  | some text =>
      obtain ⟨value, hvalue⟩ := h text hset
      dsimp only
      rw [hvalue]
      refine congrArg Except.ok ((set_eq_mapEntries value).trans ?_)
      congr 1
      funext name key old
      simp only [Option.bind_some, hvalue, eq_comm]
      rfl

/-- Variables that can be read change the settings they are for. -/
theorem overrideFrom_of_readable {env : Environment} {os : List Override} (s : Settings)
    (hnodup : (os.map fun o => (o.name, o.key)).Nodup) (h : ∀ o ∈ os, o.Readable env) :
    overrideFrom env s os =
      (s.mapEntries fun name key old => (said? env os name key).getD old, none) := by
  induction os generalizing s with
  | nil => exact congrArg (·, none) (mapEntries_of_forall fun _ _ _ => rfl).symm
  | cons o rest ih =>
      rw [List.map_cons, List.nodup_cons] at hnodup
      unfold overrideFrom
      rw [overrideOne_of_readable s (h o List.mem_cons_self)]
      dsimp only
      rw [ih _ hnodup.2 fun other hother => h other (List.mem_cons_of_mem o hother),
        mapEntries_mapEntries]
      congr 2
      funext name key old
      rw [said?_cons]
      split
      · rename_i hsets
        obtain ⟨rfl, rfl⟩ := hsets
        rw [said?_eq_none hnodup.1]
        rfl
      · rfl

/-- If not all variables can be read, it ends with a failure. -/
theorem overrideFrom_of_not_readable {env : Environment} {os : List Override} (s : Settings)
    {o : Override} (ho : o ∈ os) (h : ¬o.Readable env) :
    ∃ failure, (overrideFrom env s os).2 = some failure := by
  induction os generalizing s with
  | nil => exact absurd ho List.not_mem_nil
  | cons first rest ih =>
      unfold overrideFrom
      cases hone : overrideOne env s first with
      | error failure => exact ⟨failure, rfl⟩
      | ok t =>
          rcases List.mem_cons.mp ho with rfl | hrest
          · refine absurd (fun text hset => ?_) h
            unfold overrideOne at hone
            rw [hset] at hone
            dsimp only at hone
            cases hvalue : o.conversion.apply text with
            | ok value => exact ⟨value, rfl⟩
            | error failure =>
                rw [hvalue] at hone
                exact absurd hone (by simp [Except.map])
          · exact ih t hrest

theorem nodup_overrides : (overrides.map fun o => (o.name, o.key)).Nodup := by decide

/-- The environment is applied exactly if all variables that are set can be read. -/
theorem override_eq_ok_iff {env : Environment} {s t : Settings} :
    s.override env = .ok t ↔
      (∀ o ∈ overrides, o.Readable env) ∧
        t = s.mapEntries fun name key old => (said? env overrides name key).getD old := by
  unfold override
  by_cases hall : ∀ o ∈ overrides, o.Readable env
  · rw [overrideFrom_of_readable s nodup_overrides hall]
    exact ⟨fun h => ⟨hall, (Except.ok.inj h).symm⟩, fun h => congrArg Except.ok h.2.symm⟩
  · refine iff_of_false ?_ fun h => hall h.1
    have ⟨o, ho, hnot⟩ : ∃ o ∈ overrides, ¬o.Readable env := by
      simpa using hall
    obtain ⟨failure, hfailure⟩ := overrideFrom_of_not_readable s ho hnot
    cases hfrom : overrideFrom env s overrides with
    | mk u found =>
        rw [hfrom] at hfailure
        obtain rfl : found = some failure := hfailure
        simp

/-! ## The rule for variables -/

/-- A text with capital letters. -/
def capitals (text : String) : String := String.ofList (text.toList.map Char.toUpper)

/-- The name of the variable for a setting. -/
def variableOf (name key : String) : String :=
  "DEPCHUNK_" ++ capitals name ++ "_" ++ capitals key

/-- How a text is read for a setting with a given standard. -/
def conversionOf : Value → Conversion
  | .scalar (.int _) => .integer
  | .scalar (.float _) => .number
  | .scalar (.bool _) => .truth
  | .scalar _ => .text
  | _ => .texts

/-- The settings that no variable overrides. -/
def withoutVariable : List (String × String) :=
  [("extraction", "module_extensions"), ("logging", "format")]

/-- The variable of a setting, as the rule has it. -/
def overrideOf (name key : String) : Override :=
  ⟨variableOf name key, name, key, conversionOf (standard.get name key)⟩

/-- The table of variables follows the rule, but for two settings. -/
theorem overrides_eq :
    overrides = (standard.keys.filter fun setting => !withoutVariable.contains setting).map
      fun setting => overrideOf setting.1 setting.2 := by
  decide +kernel

/-- What the variable of a setting says, as the rule has it. -/
def ofVariable? (env : Environment) (name key : String) : Option Value :=
  if (name, key) ∈ withoutVariable then none else (overrideOf name key).said? env

section OfVariable

variable {env other : Environment} {name key : String}

/-- A variable that is set and can be read says something. -/
theorem ofVariable?_of_read {text : String} {value : Value} (hwith : (name, key) ∉ withoutVariable)
    (htext : env.lookup (variableOf name key) = some text)
    (hvalue : (conversionOf (standard.get name key)).apply text = .ok value) :
    ofVariable? env name key = some value := by
  unfold ofVariable? Override.said? overrideOf
  rw [if_neg hwith, htext, Option.bind_some, hvalue]
  rfl

theorem ofVariable?_of_silent
    (h : (name, key) ∈ withoutVariable ∨ env.lookup (variableOf name key) = none) :
    ofVariable? env name key = none := by
  unfold ofVariable? Override.said? overrideOf
  split
  · rfl
  · rename_i hwith
    rw [h.resolve_left hwith]
    rfl

/-- What other variables say makes no difference. -/
theorem ofVariable?_congr
    (h : (name, key) ∈ withoutVariable ∨
      other.lookup (variableOf name key) = env.lookup (variableOf name key)) :
    ofVariable? other name key = ofVariable? env name key := by
  unfold ofVariable? Override.said? overrideOf
  split
  · rfl
  · rename_i hwith
    rw [h.resolve_left hwith]

end OfVariable

theorem said?_map_overrideOf (env : Environment) (settings : List (String × String))
    (name key : String) :
    said? env (settings.map fun setting => overrideOf setting.1 setting.2) name key =
      if (name, key) ∈ settings then (overrideOf name key).said? env else none := by
  induction settings with
  | nil => rfl
  | cons setting rest ih =>
      obtain ⟨other, field⟩ := setting
      rw [List.map_cons, said?_cons, ih]
      by_cases hsets : other = name ∧ field = key
      · obtain ⟨rfl, rfl⟩ := hsets
        rw [if_pos ⟨rfl, rfl⟩, if_pos List.mem_cons_self]
      · have hmem : (name, key) ∈ (other, field) :: rest ↔ (name, key) ∈ rest := by
          rw [List.mem_cons, Prod.mk.injEq]
          exact or_iff_right fun hsame => hsets ⟨hsame.1.symm, hsame.2.symm⟩
        refine (if_neg hsets).trans ?_
        simp only [hmem]

/-- The table of variables says what the rule says. -/
theorem said?_overrides (env : Environment) {name key : String}
    (h : (name, key) ∈ standard.keys) :
    said? env overrides name key = ofVariable? env name key := by
  rw [overrides_eq, said?_map_overrideOf]
  unfold ofVariable?
  by_cases hwithout : (name, key) ∈ withoutVariable
  · rw [if_pos hwithout, if_neg fun hmem => by simpa [hwithout] using (List.mem_filter.mp hmem).2]
  · rw [if_neg hwithout, if_pos (List.mem_filter.mpr ⟨h, by simpa using hwithout⟩)]

/-- All variables can be read exactly if those can that the rule gives. -/
theorem readable_overrides_iff {env : Environment} :
    (∀ o ∈ overrides, o.Readable env) ↔
      ∀ name key, (name, key) ∈ standard.keys → (name, key) ∉ withoutVariable →
        (overrideOf name key).Readable env := by
  rw [overrides_eq, List.forall_mem_map]
  constructor
  · intro h name key hkey hwith
    exact h (name, key) (List.mem_filter.mpr ⟨hkey, by simpa using hwith⟩)
  · rintro h ⟨name, key⟩ hmem
    obtain ⟨hkey, hwith⟩ := List.mem_filter.mp hmem
    exact h name key hkey (by simpa using hwith)

/-! ## The settings of a run -/

/-- The data of a settings file. -/
def fileData (yaml : YamlReader) (disk : Disk) (path : Path) : Except Failure Value := do
  if let some failure := disk.probeFault? path then throw failure
  if !disk.pathExists path then throw (.settingsNotFound path.text)
  let text ← disk.readStrict path
  let format ← formatOf path
  readData yaml format text

theorem ofFile_eq (yaml : YamlReader) (disk : Disk) (path : Path) :
    ofFile yaml disk path = (fileData yaml disk path).bind ofValue := by
  unfold ofFile fileData
  cases disk.probeFault? path with
  | some failure => rfl
  | none =>
      cases disk.pathExists path with
      | false => rfl
      | true =>
          cases disk.readStrict path with
          | error failure => rfl
          | ok text =>
              cases formatOf path with
              | error failure => rfl
              | ok format => rfl

/-- The data that settings are read from; without a file they say nothing. -/
def dataOf (yaml : YamlReader) (disk : Disk) : Option Path → Except Failure Value
  | some path => fileData yaml disk path
  | none => .ok (.table [])

/-- The settings that the three layers come to. -/
def layered (env : Environment) (data : Value) : Settings :=
  standard.mapEntries fun name key old =>
    (ofVariable? env name key).getD ((given? data name key).getD old)

theorem check_eq_ok_iff {s t : Settings} : s.check = .ok t ↔ s = t ∧ t.check = .ok t := by
  constructor
  · intro h
    have hsame : s = t := by
      unfold check at h
      split at h
      · exact absurd h (by simp)
      · exact Except.ok.inj h
    exact ⟨hsame, hsame ▸ h⟩
  · rintro ⟨rfl, h⟩
    exact h

/-- The environment goes over settings that were read, in layers. -/
theorem override_of_ofValue {env : Environment} {data : Value} {t u : Settings}
    (ht : ofValue data = .ok t) :
    t.override env = .ok u ↔ (∀ o ∈ overrides, o.Readable env) ∧ layered env data = u := by
  have hlayered : layered env data =
      t.mapEntries fun name key old => (said? env overrides name key).getD old := by
    rw [ofValue_eq_ok ht, mapEntries_mapEntries]
    apply mapEntries_congr
    intro name key old hkey
    rw [said?_overrides env hkey]
  rw [override_eq_ok_iff, hlayered]
  exact and_congr_right fun _ => eq_comm

theorem load_eq (yaml : YamlReader) (disk : Disk) (env : Environment) (path : Option Path) :
    load yaml disk env path =
      ((dataOf yaml disk path).bind ofValue).bind fun t => (t.override env).bind check := by
  unfold load dataOf
  cases path with
  | none => rfl
  | some path =>
      dsimp only
      rw [ofFile_eq]
      rfl

/-- There are settings for a run exactly if the data describe settings, all variables that are set
can be read, and the three layers keep the ranges. Then it is these. -/
theorem load_eq_ok_iff {yaml : YamlReader} {disk : Disk} {env : Environment} {path : Option Path}
    {s : Settings} :
    load yaml disk env path = .ok s ↔
      ∃ data, dataOf yaml disk path = .ok data ∧ (∃ t, ofValue data = .ok t) ∧
        (∀ o ∈ overrides, o.Readable env) ∧ layered env data = s ∧ s.check = .ok s := by
  rw [load_eq]
  constructor
  · intro h
    obtain ⟨t, hread, hchecked⟩ := ok_of_bind_eq_ok h
    obtain ⟨data, hdata, ht⟩ := ok_of_bind_eq_ok hread
    obtain ⟨u, hu, hcheck⟩ := ok_of_bind_eq_ok hchecked
    obtain ⟨hread, rfl⟩ := (override_of_ofValue ht).mp hu
    obtain ⟨rfl, hkept⟩ := check_eq_ok_iff.mp hcheck
    exact ⟨data, hdata, ⟨t, ht⟩, hread, rfl, hkept⟩
  · rintro ⟨data, hdata, ⟨t, ht⟩, hread, rfl, hkept⟩
    have hoverride : t.override env = .ok (layered env data) :=
      (override_of_ofValue ht).mpr ⟨hread, rfl⟩
    rw [hdata]
    show ((ofValue data).bind fun t => (t.override env).bind check) = _
    rw [ht]
    show (t.override env).bind check = _
    rw [hoverride]
    exact hkept

/-- A setting of the standard has a value in the layers. -/
theorem get_layered (env : Environment) (data : Value) {name key : String}
    (h : (name, key) ∈ standard.keys) :
    (layered env data).get name key =
      (ofVariable? env name key).getD
        ((given? data name key).getD (standard.get name key)) := by
  have hhas : ∀ setting ∈ standard.keys, (standard.value? setting.1 setting.2).isSome := by decide
  obtain ⟨value, hvalue⟩ := Option.isSome_iff_exists.mp (hhas (name, key) h)
  have hstandard : standard.get name key = value := by
    show (standard.value? name key).getD .null = value
    rw [hvalue]
    rfl
  rw [hstandard]
  exact get_mapEntries hvalue

/-- The value of a setting with a variable is the text of its variable, read as the standard's type,
if the variable is set; otherwise, and for the two settings without a variable, what the file gives,
or the standard. No other variable has a say. If a variable that is set cannot be read, or the
layers do not keep the ranges, there are no settings. -/
theorem load_layers (yaml : YamlReader) (disk : Disk) (env : Environment) (path : Option Path) :
    (∀ s, load yaml disk env path = .ok s → ∃ data, dataOf yaml disk path = .ok data ∧
      layered env data = s ∧
      ∀ name key, (name, key) ∈ standard.keys →
        ((name, key) ∉ withoutVariable → ∀ text, env.lookup (variableOf name key) = some text →
          (conversionOf (standard.get name key)).apply text = .ok (s.get name key)) ∧
        ((name, key) ∈ withoutVariable ∨ env.lookup (variableOf name key) = none →
          s.get name key = (given? data name key).getD (standard.get name key)) ∧
        ∀ other t, load yaml disk other path = .ok t →
          ((name, key) ∈ withoutVariable ∨
            other.lookup (variableOf name key) = env.lookup (variableOf name key)) →
          t.get name key = s.get name key) ∧
      (∀ name key text, (name, key) ∈ standard.keys → (name, key) ∉ withoutVariable →
        env.lookup (variableOf name key) = some text →
        (∀ value, (conversionOf (standard.get name key)).apply text ≠ .ok value) →
          ∃ failure, load yaml disk env path = .error failure) ∧
      ∀ data reason, dataOf yaml disk path = .ok data → (layered env data).check = .error reason →
        ∃ failure, load yaml disk env path = .error failure := by
  refine ⟨?_, ?_, ?_⟩
  · intro s hload
    obtain ⟨data, hdata, _, hread, rfl, _⟩ := load_eq_ok_iff.mp hload
    refine ⟨data, hdata, rfl, fun name key hkey => ⟨?_, ?_, ?_⟩⟩
    · intro hwith text htext
      obtain ⟨value, hvalue⟩ := readable_overrides_iff.mp hread name key hkey hwith text htext
      rw [get_layered env data hkey, ofVariable?_of_read hwith htext hvalue]
      exact hvalue
    · intro hsilent
      rw [get_layered env data hkey, ofVariable?_of_silent hsilent]
      rfl
    · intro other t hother hsame
      obtain ⟨data', hdata', _, _, rfl, _⟩ := load_eq_ok_iff.mp hother
      obtain rfl := Except.ok.inj (hdata'.symm.trans hdata)
      rw [get_layered other data' hkey, get_layered env data' hkey, ofVariable?_congr hsame]
  · intro name key text hkey hwith htext hnot
    refine exists_error_of_forall_ne_ok fun s hload => ?_
    obtain ⟨_, _, _, hread, _⟩ := load_eq_ok_iff.mp hload
    obtain ⟨value, hvalue⟩ := readable_overrides_iff.mp hread name key hkey hwith text htext
    exact hnot value hvalue
  · intro data reason hdata hreason
    refine exists_error_of_forall_ne_ok fun s hload => ?_
    obtain ⟨data', hdata', _, _, rfl, hkept⟩ := load_eq_ok_iff.mp hload
    obtain rfl := Except.ok.inj (hdata'.symm.trans hdata)
    exact absurd (hreason.symm.trans hkept) (by simp)

/-- A disk with a settings file that gives two settings. -/
def settingsDisk : Disk :=
  ⟨[(["settings.json".toList], .file (Text.Utf8.encode
    "\x7b\"chunking\": \x7b\"chunk_size\": 64, \"min_chunk_size\": 10\x7d\x7d".toList) 0)]⟩

/-- A reader that takes no document for YAML. -/
def noYaml : YamlReader := fun _ => .error .malformedYaml

/-- A variable over a file over the standard, a variable that is no number, and one out of range. -/
theorem load_layers_chunking :
    (∃ s, load noYaml settingsDisk [("DEPCHUNK_CHUNKING_CHUNK_SIZE", "1_000")]
        (some (Path.ofText "settings.json")) = .ok s ∧
      (conversionOf (standard.get "chunking" "chunk_size")).apply "1_000" =
        .ok (s.get "chunking" "chunk_size") ∧
      ∃ data, dataOf noYaml settingsDisk (some (Path.ofText "settings.json")) = .ok data ∧
        s.get "chunking" "min_chunk_size" =
          (given? data "chunking" "min_chunk_size").getD
            (standard.get "chunking" "min_chunk_size")) ∧
      (∃ failure, load noYaml settingsDisk [("DEPCHUNK_SERVER_PORT", "x")]
        (some (Path.ofText "settings.json")) = .error failure) ∧
      ∃ failure, load noYaml settingsDisk [("DEPCHUNK_CHUNKING_CHUNK_SIZE", "0")] none =
        .error failure := by
  refine ⟨?_, ?_, ?_⟩
  · have hok : (load noYaml settingsDisk [("DEPCHUNK_CHUNKING_CHUNK_SIZE", "1_000")]
        (some (Path.ofText "settings.json"))).isOk = true := by
      decide +kernel
    cases hload : load noYaml settingsDisk [("DEPCHUNK_CHUNKING_CHUNK_SIZE", "1_000")]
        (some (Path.ofText "settings.json")) with
    | error failure => exact absurd (hload ▸ hok) (by simp [Except.isOk, Except.toBool])
    | ok s =>
        obtain ⟨data, hdata, _, hvalues⟩ := (load_layers _ _ _ _).1 s hload
        have hsize := (hvalues "chunking" "chunk_size" (by decide)).1 (by decide) "1_000"
          (by decide)
        have hmin := (hvalues "chunking" "min_chunk_size" (by decide)).2.1
          (Or.inr (by decide))
        exact ⟨s, rfl, hsize, data, hdata, hmin⟩
  · refine (load_layers _ _ _ _).2.1 "server" "port" "x" (by decide) (by decide) (by decide) ?_
    intro value hvalue
    have hnot : ((conversionOf (standard.get "server" "port")).apply "x").isOk = false := by
      decide +kernel
    rw [hvalue] at hnot
    exact absurd hnot (by simp [Except.isOk, Except.toBool])
  · have hnot : (layered [("DEPCHUNK_CHUNKING_CHUNK_SIZE", "0")] (.table [])).check.isOk =
        false := by
      decide +kernel
    cases hcheck : (layered [("DEPCHUNK_CHUNKING_CHUNK_SIZE", "0")] (.table [])).check with
    | ok s => exact absurd (hcheck ▸ hnot) (by simp [Except.isOk, Except.toBool])
    | error reason => exact (load_layers noYaml {} _ none).2.2 (.table []) reason rfl hcheck

/-- The variables that the rule gives for the two settings have no effect. -/
theorem load_passes_over_variables :
    ("logging", "format") ∈ standard.keys ∧
      ("extraction", "module_extensions") ∈ standard.keys ∧
      (load noYaml {} [(variableOf "logging" "format", "%(message)s")] none).toOption.map
          (fun s => (s.get "logging" "format").asText?) =
        some (some "%(asctime)s - %(name)s - %(levelname)s - %(message)s") ∧
      (load noYaml {} [(variableOf "extraction" "module_extensions", ".ts,.py")] none).toOption.map
          (fun s => (s.get "extraction" "module_extensions").parts) =
        some [".ts", ".tsx", ".js", ".jsx", ".vue", ".py", ""] := by
  refine ⟨by decide, by decide, ?_, ?_⟩
  · decide +kernel
  · decide +kernel

end ChunkGraph.Settings
