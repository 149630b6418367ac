import Mathlib.Data.List.Forall2

/-!
# Computations that may fail

What it takes for a computation in `Except` to succeed: a bind and a map, a loop over a list that
carries a value (`foldlM_cons_eq_ok_iff`, `invariant_of_foldlM`), and a loop that collects one value
for each element (`mapM_eq_ok_iff`).
-/

namespace Checked

universe u v

variable {ε : Type u} {α β : Type v}

lemma bind_eq_ok_iff {x : Except ε α} {f : α → Except ε β} {b : β} :
    x >>= f = .ok b ↔ ∃ a, x = .ok a ∧ f a = .ok b := by
  cases x with
  | error e => simp [bind, Except.bind]
  | ok a => simp [bind, Except.bind]

lemma map_eq_ok_iff {x : Except ε α} {f : α → β} {b : β} :
    x.map f = .ok b ↔ ∃ a, x = .ok a ∧ f a = b := by
  cases x with
  | error e => simp [Except.map]
  | ok a => simp [Except.map]

lemma mapError_eq_ok_iff {ε' : Type*} {x : Except ε α} {f : ε → ε'} {a : α} :
    x.mapError f = .ok a ↔ x = .ok a := by
  cases x <;> simp [Except.mapError]

/-! ### Loops with a value -/

variable {f : β → α → Except ε β} {a : α} {l : List α} {b r : β}

lemma foldlM_nil_eq_ok_iff : ([] : List α).foldlM f b = .ok r ↔ b = r := by
  simp [pure, Except.pure]

lemma foldlM_cons_eq_ok_iff :
    (a :: l).foldlM f b = .ok r ↔ ∃ b', f b a = .ok b' ∧ l.foldlM f b' = .ok r := by
  rw [List.foldlM_cons, bind_eq_ok_iff]

lemma invariant_of_foldlM {I : β → Prop} (hstep : ∀ b, I b → ∀ a ∈ l, ∀ b', f b a = .ok b' → I b')
    (hb : I b) (h : l.foldlM f b = .ok r) : I r := by
  induction l generalizing b with
  | nil => exact foldlM_nil_eq_ok_iff.mp h ▸ hb
  | cons a l ih =>
    obtain ⟨b', hf, hrest⟩ := foldlM_cons_eq_ok_iff.mp h
    refine ih (fun c hc a' ha' => hstep c hc a' (List.mem_cons_of_mem a ha')) ?_ hrest
    exact hstep b hb a List.mem_cons_self b' hf

/-! ### Loops that collect values -/

lemma mapM_eq_ok_iff {g : α → Except ε β} {l : List α} {l' : List β} :
    l.mapM g = .ok l' ↔ List.Forall₂ (fun a b => g a = .ok b) l l' := by
  induction l generalizing l' with
  | nil =>
    rw [List.forall₂_nil_left_iff]
    simp [pure, Except.pure, eq_comm]
  | cons a l ih =>
    rw [List.mapM_cons, bind_eq_ok_iff, List.forall₂_cons_left_iff]
    constructor
    · rintro ⟨b, hb, h⟩
      obtain ⟨bs, hbs, h⟩ := bind_eq_ok_iff.mp h
      exact ⟨b, bs, hb, ih.mp hbs, (Except.ok.inj h).symm⟩
    · rintro ⟨b, bs, hb, hbs, rfl⟩
      exact ⟨b, hb, bind_eq_ok_iff.mpr ⟨bs, ih.mpr hbs, rfl⟩⟩

section

variable {γ : Type*} {g : α → Except ε β} {l : List α} {l' : List β}

lemma exists_mapM_iff : (∃ l', l.mapM g = .ok l') ↔ ∀ a ∈ l, ∃ b, g a = .ok b := by
  simp only [mapM_eq_ok_iff]
  induction l with
  | nil => simp
  | cons a l ih =>
    rw [List.forall_mem_cons, ← ih]
    constructor
    · rintro ⟨l', h⟩
      obtain ⟨b, bs, hb, hbs, -⟩ := List.forall₂_cons_left_iff.mp h
      exact ⟨⟨b, hb⟩, bs, hbs⟩
    · rintro ⟨⟨b, hb⟩, bs, hbs⟩
      exact ⟨b :: bs, List.Forall₂.cons hb hbs⟩

lemma exists_of_mem_result (h : l.mapM g = .ok l') {b : β} (hb : b ∈ l') :
    ∃ a ∈ l, g a = .ok b := by
  rw [mapM_eq_ok_iff] at h
  induction h with
  | nil => exact absurd hb List.not_mem_nil
  | @cons a b' l l' hab _ ih =>
    rcases List.mem_cons.mp hb with rfl | hb
    · exact ⟨a, List.mem_cons_self, hab⟩
    · obtain ⟨a', ha', hab'⟩ := ih hb
      exact ⟨a', List.mem_cons_of_mem a ha', hab'⟩

lemma exists_result_of_mem (h : l.mapM g = .ok l') {a : α} (ha : a ∈ l) :
    ∃ b ∈ l', g a = .ok b := by
  rw [mapM_eq_ok_iff] at h
  induction h with
  | nil => exact absurd ha List.not_mem_nil
  | @cons a' b l l' hab _ ih =>
    rcases List.mem_cons.mp ha with rfl | ha
    · exact ⟨b, List.mem_cons_self, hab⟩
    · obtain ⟨b', hb', hab'⟩ := ih ha
      exact ⟨b', List.mem_cons_of_mem b hb', hab'⟩

/-- What each step keeps, the whole list keeps. -/
lemma map_eq_map_of_mapM {f : β → γ} {f' : α → γ} (hf : ∀ a b, g a = .ok b → f b = f' a)
    (h : l.mapM g = .ok l') : l'.map f = l.map f' := by
  rw [mapM_eq_ok_iff] at h
  induction h with
  | nil => rfl
  | cons hab _ ih => rw [List.map_cons, List.map_cons, hf _ _ hab, ih]

end

end Checked
