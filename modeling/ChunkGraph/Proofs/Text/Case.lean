import ChunkGraph.Language.Registry
import Mathlib.Data.Nat.ModEq

/-!
# Lower case is final

A text in lower case stays as it is when it is put in lower case again. What
could go against it is a form that has a form of its own, or a form that is one
of the two characters whose forms are made in another way. The table has no such
forms: its runs are compared by where they begin and end, and by their steps.

## Main definitions

* `Text.Progression` — numbers at equal distances.
* `Text.formRuns` — the runs of characters that have a form.
* `Text.Settled` — a character that lower-casing leaves as it is, wherever it
  stands.

## Main results

* `Text.apart_of_mem_formRuns` — no form has a form.
* `Text.settled_of_mem_lowerFrom` — what lower-casing produces is settled.
* `lowerText_lowerText` — a text in lower case stays as it is.
-/

namespace ChunkGraph

namespace Text

/-! ## Progressions -/

/-- Numbers at equal distances. -/
structure Progression where
  /-- The first number. -/
  first : Nat
  /-- The last number. -/
  last : Nat
  /-- The distance from one number to the next, none if there is only one. -/
  step : Nat

namespace Progression

/-- The numbers from `first` to `last` that are steps away from `first`. -/
def of (first last step : Nat) : Progression := ⟨first, last, if first = last then 0 else step⟩

/-- The number is one of the progression. -/
structure Has (p : Progression) (n : Nat) : Prop where
  /-- It is not below the first. -/
  first_le : p.first ≤ n
  /-- It is not above the last. -/
  le_last : n ≤ p.last
  /-- It is steps away from the first. -/
  step_dvd : p.step ∣ n - p.first

theorem has_of_iff {first last step n : Nat} :
    (of first last step).Has n ↔ first ≤ n ∧ n ≤ last ∧ (n - first) % step = 0 := by
  by_cases hsingle : first = last
  · constructor
    · rintro ⟨hfirst, hlast, _⟩
      have hzero : n - first = 0 := Nat.sub_eq_zero_of_le (hsingle ▸ hlast)
      exact ⟨hfirst, hlast, by rw [hzero, Nat.zero_mod]⟩
    · rintro ⟨hfirst, hlast, _⟩
      have hzero : n - first = 0 := Nat.sub_eq_zero_of_le (hsingle ▸ hlast)
      refine ⟨hfirst, hlast, ?_⟩
      show _ ∣ n - first
      rw [hzero]
      exact Nat.dvd_zero _
  · have hstep : (of first last step).step = step := if_neg hsingle
    constructor
    · rintro ⟨hfirst, hlast, hdvd⟩
      rw [hstep] at hdvd
      exact ⟨hfirst, hlast, Nat.mod_eq_zero_of_dvd hdvd⟩
    · rintro ⟨hfirst, hlast, hmod⟩
      refine ⟨hfirst, hlast, ?_⟩
      rw [hstep]
      exact Nat.dvd_of_mod_eq_zero hmod

/-- The progressions have no number in common: one ends before the other begins, or what both
steps have in common does not divide the way between them. -/
def apart (p q : Progression) : Bool :=
  Nat.blt p.last q.first || Nat.blt q.last p.first ||
    !Nat.beq (p.first % Nat.gcd p.step q.step) (q.first % Nat.gcd p.step q.step)

theorem not_has_of_apart {p q : Progression} (h : p.apart q = true) {n : Nat} (hp : p.Has n) :
    ¬ q.Has n := by
  intro hq
  have hfirst : p.first % Nat.gcd p.step q.step = n % Nat.gcd p.step q.step :=
    (Nat.modEq_iff_dvd' hp.first_le).mpr ((Nat.gcd_dvd_left _ _).trans hp.step_dvd)
  have hother : q.first % Nat.gcd p.step q.step = n % Nat.gcd p.step q.step :=
    (Nat.modEq_iff_dvd' hq.first_le).mpr ((Nat.gcd_dvd_right _ _).trans hq.step_dvd)
  have hsame := hfirst.trans hother.symm
  have hbelow := hp.first_le.trans hq.le_last
  have habove := hq.first_le.trans hp.le_last
  rw [apart, hsame, Nat.beq_refl, Bool.not_true, Bool.or_false, Bool.or_eq_true, Nat.blt_eq,
    Nat.blt_eq] at h
  omega

end Progression

/-! ## The runs of the table -/

/-- Runs of characters with a form, those below `U+0080` included. -/
def formRuns : List (Nat × Nat × Nat × Int) := (0x41, 0x5A, 1, 32) :: Table.lowerRuns

/-- The characters of a run. -/
def charactersOf : Nat × Nat × Nat × Int → Progression
  | (first, last, step, _) => .of first last step

/-- The forms of the characters of a run. -/
def formsOf : Nat × Nat × Nat × Int → Progression
  | (first, last, step, distance) =>
      .of ((first : Int) + distance).toNat ((last : Int) + distance).toNat step

/-- The capital `I` with a dot above, whose form has two characters. -/
def dotted : Progression := .of 0x130 0x130 1

/-- No form has a form, and none has two characters. -/
theorem apart_of_mem_formRuns : ((formRuns.map formsOf).all fun forms =>
    (dotted :: formRuns.map charactersOf).all forms.apart) = true := by
  decide +kernel

/-- Forms are characters. -/
theorem valid_of_mem_formRuns : ∀ run ∈ formRuns, 0 ≤ (run.1 : Int) + run.2.2.2 ∧
    ((run.2.1 : Int) + run.2.2.2 < 0xD800 ∨
      0xDFFF < (run.1 : Int) + run.2.2.2 ∧ (run.2.1 : Int) + run.2.2.2 < 0x110000) := by
  decide +kernel

/-- Characters below `U+0080` have no forms in the table. -/
theorem le_of_mem_lowerRuns : ∀ run ∈ Table.lowerRuns, 0x80 ≤ run.1 := by decide +kernel

/-! ## Settled characters -/

theorem toNat_ofNat {n : Nat} (h : n < 0xD800 ∨ 0xDFFF < n ∧ n < 0x110000) :
    (Char.ofNat n).toNat = n := by
  have hvalid : n.isValidChar := h
  rw [Char.ofNat, dif_pos hvalid]
  rfl

/-- A character in no run is its own form, and the form of one in a run is one of the run's. -/
theorem lowerChar_cases (c : Char) :
    (lowerChar c = c ∧ ∀ run ∈ formRuns, ¬ (charactersOf run).Has c.toNat) ∨
      ∃ run ∈ formRuns, (charactersOf run).Has c.toNat ∧
        (formsOf run).Has (lowerChar c).toNat := by
  unfold lowerChar
  split
  · rename_i hascii
    split
    · rename_i hletter
      simp only [Bool.and_eq_true, decide_eq_true_eq] at hletter
      have hlow : 0x41 ≤ c.toNat := hletter.1
      have hhigh : c.toNat ≤ 0x5A := hletter.2
      refine Or.inr ⟨_, List.mem_cons_self,
        Progression.has_of_iff.mpr ⟨hlow, hhigh, Nat.mod_one _⟩, ?_⟩
      rw [toNat_ofNat (by omega)]
      exact Progression.has_of_iff.mpr ⟨by omega, by omega, Nat.mod_one _⟩
    · rename_i hletter
      refine Or.inl ⟨rfl, fun run hrun hhas => ?_⟩
      rcases List.mem_cons.mp hrun with rfl | hrun
      · apply hletter
        simp only [Bool.and_eq_true, decide_eq_true_eq]
        exact ⟨hhas.first_le, hhas.le_last⟩
      · have hbehind := le_of_mem_lowerRuns run hrun
        have hfirst : run.1 ≤ c.toNat := hhas.first_le
        omega
  · rename_i hascii
    split
    · rename_i first last step distance hfind
      have hmem := List.mem_of_find?_eq_some hfind
      have hin := List.find?_some hfind
      simp only [Bool.and_eq_true, decide_eq_true_eq, beq_iff_eq] at hin
      obtain ⟨⟨hfirst, hlast⟩, hstep⟩ := hin
      have hvalid := valid_of_mem_formRuns _ (List.mem_cons_of_mem _ hmem)
      simp only at hvalid
      refine Or.inr ⟨_, List.mem_cons_of_mem _ hmem,
        Progression.has_of_iff.mpr ⟨hfirst, hlast, hstep⟩, ?_⟩
      rw [toNat_ofNat (by omega)]
      refine Progression.has_of_iff.mpr ⟨by omega, by omega, ?_⟩
      have hsame : ((c.toNat : Int) + distance).toNat - ((first : Int) + distance).toNat =
          c.toNat - first := by omega
      rw [hsame]
      exact hstep
    · rename_i hfind
      refine Or.inl ⟨rfl, fun run hrun hhas => ?_⟩
      rcases List.mem_cons.mp hrun with rfl | hrun
      · exact hascii (Nat.lt_of_le_of_lt hhas.le_last (by decide))
      · obtain ⟨first, last, step, distance⟩ := run
        obtain ⟨hfirst, hlast, hstep⟩ := Progression.has_of_iff.mp hhas
        refine List.find?_eq_none.mp hfind _ hrun ?_
        simp only [hfirst, hlast, hstep, decide_true, Bool.and_self, beq_self_eq_true]

/-- Lower-casing leaves the character as it is, wherever it stands. -/
structure Settled (c : Char) : Prop where
  /-- It is not a sigma, whose form depends on what is around it. -/
  ne_sigma : c.toNat ≠ 0x3A3
  /-- It is not the letter with two characters for a form. -/
  ne_dotted : c.toNat ≠ 0x130
  /-- It is its own form. -/
  lowerChar_eq : lowerChar c = c

instance (c : Char) : Decidable (Settled c) :=
  decidable_of_iff (c.toNat ≠ 0x3A3 ∧ c.toNat ≠ 0x130 ∧ lowerChar c = c)
    ⟨fun ⟨hsigma, hdotted, heq⟩ => ⟨hsigma, hdotted, heq⟩,
      fun ⟨hsigma, hdotted, heq⟩ => ⟨hsigma, hdotted, heq⟩⟩

/-- The form of a character is settled, if the character has one by itself. -/
theorem settled_lowerChar {c : Char} (hsigma : c.toNat ≠ 0x3A3) (hdotted : c.toNat ≠ 0x130) :
    Settled (lowerChar c) := by
  rcases lowerChar_cases c with ⟨hsame, _⟩ | ⟨run, hrun, _, hform⟩
  · rw [hsame]
    exact ⟨hsigma, hdotted, hsame⟩
  · have hnone : ∀ other ∈ dotted :: formRuns.map charactersOf,
        ¬ other.Has (lowerChar c).toNat := by
      intro other hother
      have hall := List.all_eq_true.mp apart_of_mem_formRuns _ (List.mem_map_of_mem hrun)
      exact Progression.not_has_of_apart (List.all_eq_true.mp hall other hother) hform
    refine ⟨fun heq => ?_, fun heq => ?_, ?_⟩
    · refine hnone (charactersOf (0x3A3, 0x3AB, 1, 32))
        (List.mem_cons_of_mem _ (List.mem_map_of_mem (by decide))) ?_
      rw [heq]
      exact Progression.has_of_iff.mpr (by decide)
    · refine hnone dotted List.mem_cons_self ?_
      rw [heq]
      exact Progression.has_of_iff.mpr (by decide)
    · rcases lowerChar_cases (lowerChar c) with ⟨hsame, _⟩ | ⟨other, hother, hhas, _⟩
      · exact hsame
      · exact absurd hhas (hnone _ (List.mem_cons_of_mem _ (List.mem_map_of_mem hother)))

/-- What lower-casing produces is settled. -/
theorem settled_of_mem_lowerFrom (before text : List Char) :
    ∀ c ∈ lowerFrom before text, Settled c := by
  induction text generalizing before with
  | nil => exact fun _ h => absurd h List.not_mem_nil
  | cons c rest ih =>
      rw [lowerFrom]
      refine List.forall_mem_append.mpr ⟨?_, ih (c :: before)⟩
      split
      · rw [List.forall_mem_singleton]
        split
        · decide
        · decide
      · rename_i hsigma
        split
        · refine List.forall_mem_cons.mpr ⟨?_, List.forall_mem_singleton.mpr ?_⟩
          · decide
          · decide
        · rename_i hdotted
          exact List.forall_mem_singleton.mpr (settled_lowerChar (by simpa using hsigma)
            (by simpa using hdotted))

/-- A text of settled characters stays as it is. -/
theorem lowerFrom_of_settled (before : List Char) {text : List Char}
    (h : ∀ c ∈ text, Settled c) : lowerFrom before text = text := by
  induction text generalizing before with
  | nil => rfl
  | cons c rest ih =>
      obtain ⟨hc, hrest⟩ := List.forall_mem_cons.mp h
      have hsigma : ¬ (c.toNat == 0x3A3) = true := fun heq => hc.ne_sigma (eq_of_beq heq)
      have hdotted : ¬ (c.toNat == 0x130) = true := fun heq => hc.ne_dotted (eq_of_beq heq)
      rw [lowerFrom, if_neg hsigma, if_neg hdotted, hc.lowerChar_eq, ih _ hrest]
      rfl

end Text

/-- A text in lower case stays as it is. -/
@[simp] theorem lowerText_lowerText (text : String) :
    lowerText (lowerText text) = lowerText text := by
  have hsettled : ∀ c ∈ Text.lower text.toList, Text.Settled c :=
    Text.settled_of_mem_lowerFrom [] text.toList
  unfold lowerText
  rw [String.toList_ofList]
  exact congrArg String.ofList (Text.lowerFrom_of_settled [] hsettled)

end ChunkGraph
