import Mathlib.Logic.Relation
import Mathlib.Tactic.Common

/-!
# Runs of a machine with partial steps

A machine is given by a partial function `step`: the event `e` can happen in the state `s` when
`step e s` is a state, and that is the state it leads to. Nondeterminism is in the choice of the
events. The rules are `run_invariant`, which carries an invariant along a run,
`run_invariant_along`, which does so for the runs whose events all meet a condition,
`run_simulates`, which maps a run to a run of an abstract transition relation, where a step of the
machine is one abstract step or none, and `exists_run_of_decreases`, which completes a run while
some step brings a measure down.
-/

namespace Machine

variable {ε σ τ : Type*} {step : ε → σ → Option σ}

/-- The state after the events `es`, if each of them can happen in its turn. -/
def run (step : ε → σ → Option σ) : List ε → σ → Option σ
  | [], s => some s
  | e :: es, s => (step e s).bind (run step es)

lemma run_cons_eq_some {e : ε} {es : List ε} {s s' : σ} :
    run step (e :: es) s = some s' ↔ ∃ t, step e s = some t ∧ run step es t = some s' := by
  simp only [run, Option.bind_eq_some_iff]

/-- The invariant rule. -/
theorem run_invariant {P : σ → Prop} (hstep : ∀ e s s', P s → step e s = some s' → P s')
    {es : List ε} {s s' : σ} (hs : P s) (h : run step es s = some s') : P s' := by
  induction es generalizing s with
  | nil =>
    obtain rfl : s = s' := Option.some.inj h
    exact hs
  | cons e es ih =>
    obtain ⟨t, ht, hrun⟩ := run_cons_eq_some.mp h
    exact ih (hstep e s t hs ht) hrun

/-- Each of the events meets the condition `Q` in the state it happens in. -/
def Along (step : ε → σ → Option σ) (Q : ε → σ → Prop) : List ε → σ → Prop
  | [], _ => True
  | e :: es, s => Q e s ∧ ∀ t, step e s = some t → Along step Q es t

instance decidableAlong (step : ε → σ → Option σ) (Q : ε → σ → Prop)
    [∀ e s, Decidable (Q e s)] : ∀ es s, Decidable (Along step Q es s)
  | [], _ => .isTrue trivial
  | e :: es, s =>
    match h : step e s with
    | none => decidable_of_iff (Q e s) (by simp [Along, h])
    | some t =>
      have := decidableAlong step Q es t
      decidable_of_iff (Q e s ∧ Along step Q es t) (by simp [Along, h])

lemma along_of_forall {Q : ε → σ → Prop} {es : List ε} (h : ∀ e ∈ es, ∀ s, Q e s) (s : σ) :
    Along step Q es s := by
  induction es generalizing s with
  | nil => trivial
  | cons e es ih =>
    refine ⟨h e List.mem_cons_self s, fun t _ => ?_⟩
    exact ih (fun e' he' => h e' (List.mem_cons_of_mem e he')) t

lemma forall_of_along {Q : ε → σ → Prop} {P : ε → Prop} (hQ : ∀ e s, Q e s → P e) {es : List ε}
    {s s' : σ} (h : Along step Q es s) (hrun : run step es s = some s') : ∀ e ∈ es, P e := by
  induction es generalizing s with
  | nil => exact List.forall_mem_nil P
  | cons e es ih =>
    obtain ⟨t, ht, hrun⟩ := run_cons_eq_some.mp hrun
    exact List.forall_mem_cons.mpr ⟨hQ e s h.1, ih (h.2 t ht) hrun⟩

/-- The invariant rule for the runs whose events all meet a condition. -/
theorem run_invariant_along {P : σ → Prop} {Q : ε → σ → Prop}
    (hstep : ∀ e s s', P s → Q e s → step e s = some s' → P s') {es : List ε} {s s' : σ}
    (hs : P s) (hQ : Along step Q es s) (h : run step es s = some s') : P s' := by
  induction es generalizing s with
  | nil =>
    obtain rfl : s = s' := Option.some.inj h
    exact hs
  | cons e es ih =>
    obtain ⟨t, ht, hrun⟩ := run_cons_eq_some.mp h
    exact ih (hstep e s t hs hQ.1 ht) (hQ.2 t ht) hrun

/-- The simulation rule: if under an invariant `P` the images of the two states of a step are the
same or an abstract step apart, then the image of a run is an abstract run. -/
theorem run_simulates {P : σ → Prop} {Step : τ → τ → Prop} (abs : σ → τ)
    (hinv : ∀ e s s', P s → step e s = some s' → P s')
    (hstep : ∀ e s s', P s → step e s = some s' → Relation.ReflGen Step (abs s) (abs s'))
    {es : List ε} {s s' : σ} (hs : P s) (h : run step es s = some s') :
    Relation.ReflTransGen Step (abs s) (abs s') := by
  induction es generalizing s with
  | nil =>
    obtain rfl : s = s' := Option.some.inj h
    exact Relation.ReflTransGen.refl
  | cons e es ih =>
    obtain ⟨t, ht, hrun⟩ := run_cons_eq_some.mp h
    exact (hstep e s t hs ht).to_reflTransGen.trans (ih (hinv e s t hs ht) hrun)

lemma run_append (es es' : List ε) (s : σ) :
    run step (es ++ es') s = (run step es s).bind (run step es') := by
  induction es generalizing s with
  | nil => rfl
  | cons e es ih =>
    rw [List.cons_append, run, run, Option.bind_assoc]
    exact congrArg _ (funext ih)

/-- The completion rule: if under an invariant `P` every state that is not `D` has a step that
meets the condition `Q` and brings a well-founded measure down, then a run of such steps leads to a
state that is. -/
theorem exists_run_of_decreases {α : Type*} {r : α → α → Prop} (hwf : WellFounded r) (μ : σ → α)
    {P D : σ → Prop} {Q : ε → σ → Prop}
    (hstep : ∀ s, P s → ¬ D s → ∃ e s', Q e s ∧ step e s = some s' ∧ P s' ∧ r (μ s') (μ s))
    {s : σ} (hs : P s) :
    ∃ es s', Along step Q es s ∧ run step es s = some s' ∧ P s' ∧ D s' := by
  induction hμ : μ s using hwf.induction generalizing s with
  | _ a ih =>
    subst hμ
    by_cases hdone : D s
    · exact ⟨[], s, trivial, rfl, hs, hdone⟩
    · obtain ⟨e, t, hQ, ht, hP, hlt⟩ := hstep s hs hdone
      obtain ⟨es, s', halong, hrun, hP', hdone'⟩ := ih (μ t) hlt hP rfl
      refine ⟨e :: es, s', ⟨hQ, fun t' ht' => ?_⟩, run_cons_eq_some.mpr ⟨t, ht, hrun⟩, hP', hdone'⟩
      obtain rfl : t = t' := Option.some.inj (ht.symm.trans ht')
      exact halong

end Machine
