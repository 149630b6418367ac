import Mathlib.Data.List.Infix
import Mathlib.Tactic.Common

/-!
# Properties that hold at every point of a trace

A trace is a list of events, and what it has brought about is the fold of the events over a
state. `Always after P s l` says that `P` holds at every point of the trace `l` from `s`: before
the first event, between any two, and after the last. It unfolds event by event
(`always_cons`, `always_append`) and says the same as a statement about every prefix of the
trace (`always_iff_forall_isPrefix`), which is how a crash at an arbitrary point is stated.
-/

namespace Trace

variable {σ ε : Type*} {after : σ → ε → σ} {P Q : σ → Prop}

/-- `P` holds at every point of the trace, the two ends included. -/
def Always (after : σ → ε → σ) (P : σ → Prop) (s : σ) : List ε → Prop
  | [] => P s
  | e :: l => P s ∧ Always after P (after s e) l

@[simp] lemma always_nil {s : σ} : Always after P s [] ↔ P s := Iff.rfl

@[simp] lemma always_cons {s : σ} {e : ε} {l : List ε} :
    Always after P s (e :: l) ↔ P s ∧ Always after P (after s e) l := Iff.rfl

lemma Always.first {s : σ} {l : List ε} (h : Always after P s l) : P s := by
  cases l with
  | nil => exact h
  | cons e l => exact h.1

lemma Always.last {s : σ} {l : List ε} (h : Always after P s l) : P (l.foldl after s) := by
  induction l generalizing s with
  | nil => exact h
  | cons e l ih => exact ih h.2

/-- A trace in two parts: the second starts where the first ends. -/
lemma always_append {s : σ} {l₁ l₂ : List ε} :
    Always after P s (l₁ ++ l₂) ↔
      Always after P s l₁ ∧ Always after P (l₁.foldl after s) l₂ := by
  induction l₁ generalizing s with
  | nil =>
    simp only [List.nil_append, always_nil, List.foldl_nil]
    exact ⟨fun h => ⟨h.first, h⟩, fun h => h.2⟩
  | cons e l ih => simp only [List.cons_append, always_cons, ih, List.foldl_cons, and_assoc]

/-- Holding at every point is holding after every prefix. -/
theorem always_iff_forall_isPrefix {s : σ} {l : List ε} :
    Always after P s l ↔ ∀ p, p <+: l → P (p.foldl after s) := by
  induction l generalizing s with
  | nil => simp [List.prefix_nil]
  | cons e l ih =>
    rw [always_cons, ih]
    constructor
    · rintro ⟨hs, hl⟩ p hp
      rcases List.prefix_cons_iff.mp hp with rfl | ⟨q, rfl, hq⟩
      · exact hs
      · exact hl q hq
    · intro h
      refine ⟨h [] List.nil_prefix, fun q hq => ?_⟩
      exact h (e :: q) (List.cons_prefix_cons.mpr ⟨rfl, hq⟩)

/-- The invariant rule: an invariant that every event of the trace preserves holds throughout. -/
lemma always_of_forall {s : σ} {l : List ε} (h0 : P s)
    (hstep : ∀ s, P s → ∀ e ∈ l, P (after s e)) : Always after P s l := by
  induction l generalizing s with
  | nil => exact h0
  | cons e l ih =>
    refine ⟨h0, ih (hstep s h0 e List.mem_cons_self) fun s hs e' he' => ?_⟩
    exact hstep s hs e' (List.mem_cons_of_mem _ he')

/-- Events that leave the state as it is. -/
lemma foldl_of_stays {s : σ} {l : List ε} (h : ∀ e ∈ l, after s e = s) : l.foldl after s = s := by
  induction l with
  | nil => rfl
  | cons e l ih =>
    rw [List.foldl_cons, h e List.mem_cons_self]
    exact ih fun e he => h e (List.mem_cons_of_mem _ he)

lemma always_of_stays {s : σ} {l : List ε} (h : ∀ e ∈ l, after s e = s) (hs : P s) :
    Always after P s l := by
  induction l with
  | nil => exact hs
  | cons e l ih =>
    refine ⟨hs, ?_⟩
    rw [h e List.mem_cons_self]
    exact ih fun e he => h e (List.mem_cons_of_mem _ he)

lemma Always.mono {s : σ} {l : List ε} (h : Always after P s l) (hPQ : ∀ s, P s → Q s) :
    Always after Q s l := by
  induction l generalizing s with
  | nil => exact hPQ s h
  | cons e l ih => exact ⟨hPQ s h.1, ih h.2⟩

/-- `P` holds of every event of the trace `l` and the events before it, which begin with
`before`. -/
def Each (P : List ε → ε → Prop) (before : List ε) : List ε → Prop
  | [] => True
  | e :: l => P before e ∧ Each P (before ++ [e]) l

section Each

variable {P Q : List ε → ε → Prop} {before l l' : List ε}

lemma each_append : Each P before (l ++ l') ↔ Each P before l ∧ Each P (before ++ l) l' := by
  induction l generalizing before with
  | nil => simp [Each]
  | cons e l ih => simp [Each, ih, and_assoc]

lemma each_of_forall (h : ∀ e ∈ l, ∀ before, P before e) : Each P before l := by
  induction l generalizing before with
  | nil => trivial
  | cons e l ih =>
    obtain ⟨he, hl⟩ := List.forall_mem_cons.mp h
    exact ⟨he before, ih hl⟩

lemma Each.mono (h : Each P before l) (hPQ : ∀ before e, P before e → Q before e) :
    Each Q before l := by
  induction l generalizing before with
  | nil => trivial
  | cons e l ih => exact ⟨hPQ before e h.1, ih h.2⟩

lemma Each.of_concat_isPrefix {p : List ε} {e : ε} (h : Each P before l) (hp : p ++ [e] <+: l) :
    P (before ++ p) e := by
  obtain ⟨rest, rfl⟩ := hp
  rw [List.append_assoc, each_append, List.singleton_append] at h
  exact h.2.1

end Each

/-- A piece of a trace lies on one side of an event that is not in it. -/
lemma infix_or_infix_of_notMem {l xs ys : List ε} {e : ε} (he : e ∉ l) (h : l <:+: xs ++ e :: ys) :
    l <:+: xs ∨ l <:+: ys := by
  have hnil {l' : List ε} (hl' : l' <+: e :: ys) (hsub : l' ⊆ l) : l' = [] := by
    cases l' with
    | nil => rfl
    | cons a l' =>
      obtain ⟨rfl, -⟩ := List.cons_prefix_cons.mp hl'
      exact absurd (hsub List.mem_cons_self) he
  rcases List.infix_append_iff.mp h with h | h | ⟨l₁, l₂, rfl, h₁, h₂⟩
  · exact .inl h
  · rcases List.infix_cons_iff.mp h with h | h
    · rw [hnil h fun _ h => h]
      exact .inl List.nil_infix
    · exact .inr h
  · rw [hnil h₂ (List.subset_append_right l₁ l₂), List.append_nil]
    exact .inl h₁.isInfix

end Trace
