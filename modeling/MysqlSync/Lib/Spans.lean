import Mathlib

/-!
# Half-open intervals in normal form

A list of half-open intervals over a linear order stands for the set of the elements in them. In
normal form the intervals are not empty and follow on each other with gaps, so that two lists in
normal form with the same set are equal (`Normal.eq_of_carrier_eq`), and an interval lies in the
set exactly when it lies in one interval of the list (`Normal.Ico_subset_carrier_iff`). A list whose
intervals are in no order, but apart from each other, is brought into the form by sorting
(`spaced_sort`).
-/

namespace Spans

variable {α : Type*} [LinearOrder α]

/-- The elements of the intervals. -/
def carrier (l : List (α × α)) : Set α := {a | ∃ i ∈ l, a ∈ Set.Ico i.1 i.2}

/-- The lexicographic order of pairs. -/
def Precedes (i j : α × α) : Prop := i.1 < j.1 ∨ i.1 = j.1 ∧ i.2 ≤ j.2

instance : DecidableRel (Precedes (α := α)) := fun i j =>
  inferInstanceAs (Decidable (i.1 < j.1 ∨ i.1 = j.1 ∧ i.2 ≤ j.2))

def sort (l : List (α × α)) : List (α × α) := l.insertionSort Precedes

/-- No interval is reversed, and each ends before the next starts. -/
structure Spaced (l : List (α × α)) : Prop where
  le : ∀ i ∈ l, i.1 ≤ i.2
  apart : l.Pairwise fun i j => i.2 < j.1

/-- Moreover none of them is empty. -/
structure Normal (l : List (α × α)) : Prop extends Spaced l where
  lt : ∀ i ∈ l, i.1 < i.2

/-- The intervals have no element in common, also where one of them is empty. -/
def Touching (i j : α × α) : Prop := i.2 ≤ j.1 ∨ j.2 ≤ i.1

/-- There is an element between the intervals. -/
def Separate (i j : α × α) : Prop := i.2 < j.1 ∨ j.2 < i.1

instance : Std.Symm (Separate (α := α)) where
  symm _ _ h := Or.symm h

variable {l l' : List (α × α)} {i j : α × α} {a b : α}

/-! ### The elements of a list -/

@[simp] lemma carrier_nil : carrier ([] : List (α × α)) = ∅ := by
  simp [carrier]

@[simp] lemma carrier_cons : carrier (i :: l) = Set.Ico i.1 i.2 ∪ carrier l := by
  ext a
  simp [carrier]

@[simp] lemma carrier_append : carrier (l ++ l') = carrier l ∪ carrier l' := by
  induction l with
  | nil => simp
  | cons i l ih => rw [List.cons_append, carrier_cons, carrier_cons, ih, Set.union_assoc]

lemma carrier_of_perm (h : l.Perm l') : carrier l = carrier l' := by
  ext a
  simp only [carrier, Set.mem_ofPred_eq, h.mem_iff]

lemma Ico_subset_carrier (h : i ∈ l) : Set.Ico i.1 i.2 ⊆ carrier l :=
  fun _ ha => ⟨i, h, ha⟩

/-- Intervals that are not empty touch at most if they are disjoint. -/
lemma touching_iff_disjoint (hi : i.1 < i.2) (hj : j.1 < j.2) :
    Touching i j ↔ Disjoint (Set.Ico i.1 i.2) (Set.Ico j.1 j.2) := by
  rw [Set.Ico_disjoint_Ico, min_le_iff, le_max_iff, le_max_iff, Touching]
  constructor
  · rintro (h | h)
    · exact Or.inl (Or.inr h)
    · exact Or.inr (Or.inl h)
  · rintro ((h | h) | (h | h))
    · exact absurd h (not_le_of_gt hi)
    · exact Or.inl h
    · exact Or.inr h
    · exact absurd h (not_le_of_gt hj)

/-- An interval meets none of a list exactly if it is disjoint from their elements. -/
lemma forall_touching_iff (hl : ∀ i ∈ l, i.1 < i.2) (hj : j.1 < j.2) :
    (∀ i ∈ l, Touching i j) ↔ Disjoint (carrier l) (Set.Ico j.1 j.2) := by
  rw [Set.disjoint_left]
  constructor
  · rintro h a ⟨i, hi, ha⟩
    exact Set.disjoint_left.mp ((touching_iff_disjoint (hl i hi) hj).mp (h i hi)) ha
  · intro h i hi
    rw [touching_iff_disjoint (hl i hi) hj, Set.disjoint_left]
    exact fun a ha => h ⟨i, hi, ha⟩

/-! ### Sorting -/

instance : Std.Total (Precedes (α := α)) where
  total i j := by
    rcases lt_trichotomy i.1 j.1 with h | h | h
    · exact Or.inl (Or.inl h)
    · rcases le_total i.2 j.2 with h2 | h2
      · exact Or.inl (Or.inr ⟨h, h2⟩)
      · exact Or.inr (Or.inr ⟨h.symm, h2⟩)
    · exact Or.inr (Or.inl h)

instance : IsTrans (α × α) Precedes where
  trans i j k hij hjk := by
    rcases hij with hij | ⟨hij, hij2⟩
    · rcases hjk with hjk | ⟨hjk, -⟩
      · exact Or.inl (hij.trans hjk)
      · exact Or.inl (hjk ▸ hij)
    · rcases hjk with hjk | ⟨hjk, hjk2⟩
      · exact Or.inl (hij ▸ hjk)
      · exact Or.inr ⟨hij.trans hjk, hij2.trans hjk2⟩

lemma perm_sort (l : List (α × α)) : (sort l).Perm l := List.perm_insertionSort _ l

lemma mem_sort : i ∈ sort l ↔ i ∈ l := (perm_sort l).mem_iff

lemma Spaced.sort_eq (h : Spaced l) : sort l = l := by
  refine List.Pairwise.insertionSort_eq ?_
  refine List.Pairwise.imp_of_mem ?_ h.apart
  intro i j hi _ hij
  exact Or.inl ((h.le i hi).trans_lt hij)

/-- Intervals apart from each other are spaced once they are sorted. -/
lemma spaced_sort (hle : ∀ i ∈ l, i.1 ≤ i.2) (hsep : l.Pairwise Separate) : Spaced (sort l) := by
  have hsorted : (sort l).Pairwise Precedes := List.pairwise_insertionSort _ l
  have hsep' : (sort l).Pairwise Separate :=
    (perm_sort l).symm.pairwise hsep fun h => Or.symm h
  refine ⟨fun i hi => hle i (mem_sort.mp hi), ?_⟩
  refine (hsorted.and hsep').imp_of_mem ?_
  rintro i j hi hj ⟨hij, hij' | hji⟩
  · exact hij'
  · -- the second ends before the first starts, against the order
    exfalso
    have hj' := hle j (mem_sort.mp hj)
    rcases hij with hij | ⟨hij, -⟩
    · exact absurd (hj'.trans_lt hji) (not_lt_of_gt hij)
    · exact absurd (hj'.trans_lt hji) (by rw [hij]; exact lt_irrefl _)

/-! ### Normal form -/

lemma normal_nil : Normal ([] : List (α × α)) where
  le := by simp
  apart := List.Pairwise.nil
  lt := by simp

lemma spaced_cons : Spaced (i :: l) ↔ i.1 ≤ i.2 ∧ (∀ j ∈ l, i.2 < j.1) ∧ Spaced l := by
  constructor
  · intro h
    have hp := List.pairwise_cons.mp h.apart
    exact ⟨h.le i List.mem_cons_self, hp.1, fun j hj => h.le j (List.mem_cons_of_mem i hj), hp.2⟩
  · rintro ⟨hi, hlt, h⟩
    exact ⟨List.forall_mem_cons.mpr ⟨hi, h.le⟩, List.pairwise_cons.mpr ⟨hlt, h.apart⟩⟩

lemma normal_cons : Normal (i :: l) ↔ i.1 < i.2 ∧ (∀ j ∈ l, i.2 < j.1) ∧ Normal l := by
  constructor
  · intro h
    obtain ⟨-, hlt, hl⟩ := spaced_cons.mp h.toSpaced
    exact ⟨h.lt i List.mem_cons_self, hlt, hl, fun j hj => h.lt j (List.mem_cons_of_mem i hj)⟩
  · rintro ⟨hi, hlt, h⟩
    exact ⟨spaced_cons.mpr ⟨hi.le, hlt, h.toSpaced⟩, List.forall_mem_cons.mpr ⟨hi, h.lt⟩⟩

/-- What follows an interval lies beyond its end. -/
lemma lt_of_mem_carrier (hlt : ∀ j ∈ l, i.2 < j.1) (ha : a ∈ carrier l) : i.2 < a := by
  obtain ⟨j, hj, hja, -⟩ := ha
  exact (hlt j hj).trans_le hja

/-- Two intervals of a spaced list are the same or separate. -/
lemma Spaced.separate (h : Spaced l) (hi : i ∈ l) (hj : j ∈ l) (hne : i ≠ j) : Separate i j :=
  have hp : l.Pairwise Separate := h.apart.imp fun hij => Or.inl hij
  hp.forall hi hj hne

/-- An interval that lies in the set lies in one of the list's intervals. -/
theorem Normal.Ico_subset_carrier_iff (h : Normal l) (hab : a < b) :
    Set.Ico a b ⊆ carrier l ↔ ∃ i ∈ l, i.1 ≤ a ∧ b ≤ i.2 := by
  constructor
  · intro hsub
    obtain ⟨i, hi, hia, hai⟩ := hsub ⟨le_refl a, hab⟩
    refine ⟨i, hi, hia, ?_⟩
    by_contra hb
    -- the end of the interval would be in another one, which starts before it
    obtain ⟨j, hj, hji, hij⟩ := hsub (a := i.2) ⟨hai.le, not_le.mp hb⟩
    have hne : i ≠ j := by
      rintro rfl
      exact lt_irrefl _ hij
    rcases h.separate hi hj hne with hsep | hsep
    · exact absurd hsep (not_lt_of_ge hji)
    · exact absurd (hij.trans (hsep.trans_le hia)) (not_lt_of_gt hai)
  · rintro ⟨i, hi, hia, hbi⟩ x ⟨hax, hxb⟩
    exact ⟨i, hi, hia.trans hax, hxb.trans_le hbi⟩

/-- The set decides the first interval. -/
lemma Normal.head_eq (h : Normal (i :: l)) (h' : Normal (j :: l'))
    (heq : carrier (i :: l) = carrier (j :: l')) : i = j := by
  obtain ⟨hi, hil, -⟩ := normal_cons.mp h
  obtain ⟨hj, hjl, -⟩ := normal_cons.mp h'
  -- each starts at the least element of the set
  have hle {i j : α × α} {l l' : List (α × α)} (hi : i.1 < i.2) (hjl : ∀ k ∈ l', j.2 < k.1)
      (hj : j.1 < j.2) (heq : carrier (i :: l) = carrier (j :: l')) : j.1 ≤ i.1 := by
    have hmem : i.1 ∈ carrier (j :: l') := by
      rw [← heq]
      exact Ico_subset_carrier List.mem_cons_self ⟨le_refl _, hi⟩
    rw [carrier_cons] at hmem
    rcases hmem with hmem | hmem
    · exact hmem.1
    · exact (hj.trans (lt_of_mem_carrier hjl hmem)).le
  have hstart : i.1 = j.1 := le_antisymm (hle hj hil hi heq.symm) (hle hi hjl hj heq)
  -- each ends at the first element that is missing from there on
  have hend {i j : α × α} {l l' : List (α × α)} (hi : i.1 < i.2) (hil : ∀ k ∈ l, i.2 < k.1)
      (hstart : i.1 = j.1) (heq : carrier (i :: l) = carrier (j :: l')) : j.2 ≤ i.2 := by
    by_contra hlt
    have hmem : i.2 ∈ carrier (i :: l) := by
      rw [heq]
      exact Ico_subset_carrier List.mem_cons_self ⟨hstart ▸ hi.le, not_le.mp hlt⟩
    rw [carrier_cons] at hmem
    rcases hmem with hmem | hmem
    · exact lt_irrefl _ hmem.2
    · exact lt_irrefl _ (lt_of_mem_carrier hil hmem)
  exact Prod.ext hstart (le_antisymm (hend hj hjl hstart.symm heq.symm) (hend hi hil hstart heq))

/-- Without its first interval, a list has the elements beyond the end of it. -/
lemma carrier_tail (hil : ∀ k ∈ l, i.2 < k.1) :
    carrier l = {a ∈ carrier (i :: l) | i.2 ≤ a} := by
  ext a
  rw [carrier_cons]
  constructor
  · intro ha
    exact ⟨Or.inr ha, (lt_of_mem_carrier hil ha).le⟩
  · rintro ⟨ha | ha, hle⟩
    · exact absurd ha.2 (not_lt_of_ge hle)
    · exact ha

theorem Normal.eq_of_carrier_eq (h : Normal l) (h' : Normal l')
    (heq : carrier l = carrier l') : l = l' := by
  have hcons {i : α × α} {l : List (α × α)} (h : Normal (i :: l)) : carrier (i :: l) ≠ ∅ := by
    intro hempty
    have hmem : i.1 ∈ carrier (i :: l) :=
      Ico_subset_carrier List.mem_cons_self ⟨le_refl _, h.lt i List.mem_cons_self⟩
    rw [hempty] at hmem
    exact hmem
  induction l generalizing l' with
  | nil =>
    cases l' with
    | nil => rfl
    | cons j l' => exact absurd (heq.symm.trans carrier_nil) (hcons h')
  | cons i l ih =>
    cases l' with
    | nil => exact absurd (heq.trans carrier_nil) (hcons h)
    | cons j l' =>
      obtain rfl := h.head_eq h' heq
      obtain ⟨-, hil, hl⟩ := normal_cons.mp h
      obtain ⟨-, hil', hl'⟩ := normal_cons.mp h'
      congr 1
      refine ih hl hl' ?_
      rw [carrier_tail hil, carrier_tail hil', heq]

/-- Each interval may be replaced by intervals inside it. -/
lemma Normal.flatMap (h : Normal l) {f : α × α → List (α × α)} (hf : ∀ i ∈ l, Normal (f i))
    (hin : ∀ i ∈ l, ∀ j ∈ f i, i.1 ≤ j.1 ∧ j.2 ≤ i.2) : Normal (l.flatMap f) := by
  have hlt : ∀ j ∈ l.flatMap f, j.1 < j.2 := by
    intro j hj
    obtain ⟨i, hi, hj⟩ := List.mem_flatMap.mp hj
    exact (hf i hi).lt j hj
  refine ⟨⟨fun j hj => (hlt j hj).le, ?_⟩, hlt⟩
  rw [List.pairwise_flatMap]
  refine ⟨fun i hi => (hf i hi).apart, ?_⟩
  refine h.apart.imp_of_mem ?_
  intro i k hi hk hik x hx y hy
  exact ((hin i hi x hx).2.trans_lt hik).trans_le (hin k hk y hy).1

end Spans
