import Mathlib.Data.List.Infix
import Mathlib.Logic.Relation
import Mathlib.Tactic.Common

/-!
# Lockstep broadcast

One sender hands out batches of values to a family of receivers. It issues a batch only when
every receiver has got everything issued before, and a receiver takes the values one at a time and
in order. What each receiver has got then lies between the batches before the last one and all the
batches (`received_bounds`), so two receivers agree up to the last batch and differ inside it only
(`exists_common`).
-/

universe u v

/-- The batches issued so far, and what each receiver has got. -/
structure Lockstep (ι : Type u) (α : Type v) where
  batches : List (List α)
  received : ι → List α

namespace Lockstep

variable {ι : Type u} {α : Type v}

/-- Nothing issued and nothing received. -/
def start : Lockstep ι α := ⟨[], fun _ => []⟩

/-- The two moves of the broadcast. -/
inductive Step [DecidableEq ι] : Lockstep ι α → Lockstep ι α → Prop where
  | issue (s : Lockstep ι α) (b : List α) (h : ∀ c, s.received c = s.batches.flatten) :
      Step s { s with batches := s.batches ++ [b] }
  | receive (s : Lockstep ι α) (c : ι) (a : α) (h : s.received c ++ [a] <+: s.batches.flatten) :
      Step s { s with received := Function.update s.received c (s.received c ++ [a]) }

/-- The last batch issued, empty before the first one. -/
def last (batches : List (List α)) : List α := batches.getLast?.getD []

lemma flatten_dropLast_append_last (batches : List (List α)) :
    batches.dropLast.flatten ++ last batches = batches.flatten := by
  rcases List.eq_nil_or_concat batches with rfl | ⟨done, b, rfl⟩
  · rfl
  · simp [last]

/-- A receiver has all the batches before the last one, and nothing beyond it. -/
def Bounds (batches : List (List α)) (xs : List α) : Prop :=
  batches.dropLast.flatten <+: xs ∧ xs <+: batches.flatten

lemma bounds_iff {batches : List (List α)} {xs : List α} :
    Bounds batches xs ↔ ∃ p, p <+: last batches ∧ xs = batches.dropLast.flatten ++ p := by
  constructor
  · rintro ⟨⟨p, rfl⟩, h⟩
    rw [← flatten_dropLast_append_last batches] at h
    exact ⟨p, (List.prefix_append_right_inj _).mp h, rfl⟩
  · rintro ⟨p, hp, rfl⟩
    refine ⟨List.prefix_append _ _, ?_⟩
    rw [← flatten_dropLast_append_last batches]
    exact (List.prefix_append_right_inj _).mpr hp

section

variable [DecidableEq ι]

lemma Step.bounds {s t : Lockstep ι α} (h : Step s t) (hs : ∀ c, Bounds s.batches (s.received c))
    (c : ι) : Bounds t.batches (t.received c) := by
  cases h with
  | issue b hall =>
    refine ⟨?_, ?_⟩
    · show (s.batches ++ [b]).dropLast.flatten <+: s.received c
      rw [List.dropLast_concat, hall c]
    · show s.received c <+: (s.batches ++ [b]).flatten
      rw [hall c, List.flatten_append]
      exact List.prefix_append _ _
  | receive d a ha =>
    show Bounds s.batches (Function.update s.received d (s.received d ++ [a]) c)
    by_cases hcd : c = d
    · subst hcd
      rw [Function.update_self]
      exact ⟨(hs c).1.trans (List.prefix_append _ _), ha⟩
    · rw [Function.update_of_ne hcd]
      exact hs c

theorem received_bounds {s : Lockstep ι α} (h : Relation.ReflTransGen Step start s) (c : ι) :
    Bounds s.batches (s.received c) := by
  induction h generalizing c with
  | refl => exact ⟨List.nil_prefix, List.nil_prefix⟩
  | tail _ hstep ih => exact hstep.bounds ih c

/-- Two receivers agree up to the last batch, and each is somewhere inside it. -/
theorem exists_common {s : Lockstep ι α} (h : Relation.ReflTransGen Step start s) (c d : ι) :
    ∃ p q, p <+: last s.batches ∧ q <+: last s.batches ∧
      s.received c = s.batches.dropLast.flatten ++ p ∧
      s.received d = s.batches.dropLast.flatten ++ q := by
  obtain ⟨p, hp, hc⟩ := bounds_iff.mp (received_bounds h c)
  obtain ⟨q, hq, hd⟩ := bounds_iff.mp (received_bounds h d)
  exact ⟨p, q, hp, hq, hc, hd⟩

/-- A batch is issued only when every receiver has got all the batches before it. -/
lemma received_of_issue {s t : Lockstep ι α} (h : Relation.ReflGen Step s t)
    (hne : t.batches ≠ s.batches) (c : ι) : s.received c = s.batches.flatten := by
  cases h with
  | refl => exact absurd rfl hne
  | single h =>
    cases h with
    | issue b hall => exact hall c
    | receive d a ha => exact absurd rfl hne

end

end Lockstep
