import Mathlib.Tactic.Common

/-!
# Transformations that add some elements and keep some

A state is observed through its elements, `mem`. A partial transformation is `GenKill` on the
states with the property `I` if it fails on all of them, or succeeds on all of them with a state
whose elements are those of a set fixed in advance and, of the elements before, those that
another set fixed in advance keeps. What an element was before never decides whether another one
is there after.

Such transformations are closed under composition (`GenKill.foldlM`), and doing one twice is doing
it once (`GenKill.bind_self`). The second does not follow for a sequence from its steps alone; it
is the closure that gives it.
-/

universe u v

variable {σ : Type u} {α : Type v}

/-- On the states with the property `I`, `f` fails throughout, or it adds the elements of `gen` and
keeps those of `keep`. -/
def GenKill (I : σ → Prop) (mem : σ → α → Prop) (f : σ → Option σ) : Prop :=
  (∀ s, I s → f s = none) ∨
  ∃ gen keep : α → Prop, ∀ s, I s → ∃ s', f s = some s' ∧ I s' ∧
    ∀ a, mem s' a ↔ gen a ∨ mem s a ∧ keep a

namespace GenKill

variable {I : σ → Prop} {mem : σ → α → Prop} {f g : σ → Option σ}

/-- Doing nothing. -/
lemma some_self : GenKill I mem some := by
  refine .inr ⟨fun _ => False, fun _ => True, fun s hs => ⟨s, rfl, hs, fun a => ?_⟩⟩
  simp

/-- One transformation after the other. -/
lemma andThen (hf : GenKill I mem f) (hg : GenKill I mem g) :
    GenKill I mem fun s => (f s).bind g := by
  rcases hf with hf | ⟨gen, keep, hf⟩
  · refine .inl fun s hs => ?_
    show (f s).bind g = none
    rw [hf s hs]
    rfl
  rcases hg with hg | ⟨gen', keep', hg⟩
  · refine .inl fun s hs => ?_
    obtain ⟨s', hs', hI, -⟩ := hf s hs
    show (f s).bind g = none
    rw [hs', Option.bind_some, hg s' hI]
  · refine .inr ⟨fun a => gen' a ∨ gen a ∧ keep' a, fun a => keep a ∧ keep' a, fun s hs => ?_⟩
    obtain ⟨s', hs', hI, hmem⟩ := hf s hs
    obtain ⟨s'', hs'', hI', hmem'⟩ := hg s' hI
    have hboth : (f s).bind g = some s'' := by rw [hs', Option.bind_some, hs'']
    refine ⟨s'', hboth, hI', fun a => ?_⟩
    rw [hmem', hmem]
    tauto

/-- A whole sequence of transformations. -/
lemma foldlM {β : Type*} {step : σ → β → Option σ} {bs : List β}
    (h : ∀ b ∈ bs, GenKill I mem fun s => step s b) :
    GenKill I mem fun s => bs.foldlM step s := by
  induction bs with
  | nil => exact some_self
  | cons b bs ih =>
    simp only [List.foldlM_cons]
    exact andThen (h b List.mem_cons_self) (ih fun b' hb' => h b' (List.mem_cons_of_mem _ hb'))

/-- Where the elements determine the state, doing it twice is doing it once. -/
theorem bind_self (hf : GenKill I mem f)
    (hext : ∀ s s', I s → I s' → (∀ a, mem s a ↔ mem s' a) → s = s') {s : σ} (hs : I s) :
    (f s).bind f = f s := by
  rcases hf with hf | ⟨gen, keep, hf⟩
  · rw [hf s hs]
    rfl
  obtain ⟨s', hs', hI, hmem⟩ := hf s hs
  obtain ⟨s'', hs'', hI', hmem'⟩ := hf s' hI
  have heq : s'' = s' := by
    refine hext s'' s' hI' hI fun a => ?_
    rw [hmem', hmem]
    tauto
  rw [hs', Option.bind_some, hs'', heq]

end GenKill
