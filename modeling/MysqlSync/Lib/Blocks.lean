import Mathlib.Data.List.Infix
import Mathlib.Data.List.Nodup

/-!
# Lists made of blocks

A prefix of a concatenation of blocks may end inside a block. It does not if it holds the whole of
every block that it holds anything of: then it is a concatenation of blocks itself
(`exists_eq_flatten_take`).
-/

namespace Blocks

variable {α : Type*}

/-- Whatever block the list holds anything of, it holds all of. -/
def Whole (blocks : List (List α)) (l : List α) : Prop :=
  ∀ b ∈ blocks, ∀ a ∈ b, a ∈ l → b ⊆ l

theorem exists_eq_flatten_take {blocks : List (List α)} {l : List α} (hnodup : blocks.flatten.Nodup)
    (hpre : l <+: blocks.flatten) (hwhole : Whole blocks l) :
    ∃ n ≤ blocks.length, l = (blocks.take n).flatten := by
  induction blocks generalizing l with
  | nil => exact ⟨0, le_rfl, List.prefix_nil.mp hpre⟩
  | cons b blocks ih =>
    cases l with
    | nil => exact ⟨0, Nat.zero_le _, rfl⟩
    | cons a l =>
      rw [List.flatten_cons] at hpre hnodup
      obtain ⟨hnodup_b, hnodup', hdisj⟩ := List.nodup_append.mp hnodup
      obtain ⟨hwhole_b, hwhole'⟩ := List.forall_mem_cons.mp hwhole
      -- the list reaches the end of the first block
      have hb : b <+: a :: l := by
        rcases List.prefix_or_prefix_of_prefix (List.prefix_append b _) hpre with hb | ⟨rest, rfl⟩
        · exact hb
        · have hrest : rest = [] := by
            refine List.eq_nil_iff_forall_not_mem.mpr fun c hc => ?_
            have hcl := hwhole_b a (by simp) List.mem_cons_self (List.mem_append_right _ hc)
            exact (List.nodup_append.mp hnodup_b).2.2 c hcl c hc rfl
          rw [hrest, List.append_nil]
      obtain ⟨l', hl'⟩ := hb
      rw [← hl'] at hwhole' hpre ⊢
      rw [List.prefix_append_right_inj] at hpre
      have hwhole_l : Whole blocks l' := by
        intro b' hb' c hc hcl c' hc'
        have hmem := hwhole' b' hb' c hc (List.mem_append_right b hcl) hc'
        refine (List.mem_append.mp hmem).resolve_left fun hcb => ?_
        exact hdisj c' hcb c' (List.mem_flatten_of_mem hb' hc') rfl
      obtain ⟨n, hn, rfl⟩ := ih hnodup' hpre hwhole_l
      exact ⟨n + 1, Nat.succ_le_succ hn, rfl⟩

/-- What lies between two places of a list may be cut at a place between them. -/
lemma drop_take_eq_append (l : List α) {a b c : ℕ} (hab : a ≤ b) (hbc : b ≤ c) :
    (l.take c).drop a = (l.take b).drop a ++ (l.take c).drop b := by
  have htake : (l.take c).take b = l.take b := by rw [List.take_take, min_eq_left hbc]
  have hdrop : ((l.take c).drop b).drop (a - (l.take b).length) = (l.take c).drop b := by
    rcases le_total b l.length with hle | hle
    · rw [List.length_take, min_eq_left hle, Nat.sub_eq_zero_of_le hab, List.drop_zero]
    · have hnil : (l.take c).drop b = [] :=
        List.drop_of_length_le ((List.length_take_le' c l).trans hle)
      rw [hnil, List.drop_nil]
  conv_lhs => rw [← List.take_append_drop b (l.take c), htake, List.drop_append, hdrop]

end Blocks
