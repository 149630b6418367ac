import MysqlSync.Python.Ahead

/-!
# Whole transactions

A transaction on the target may hold several transactions of the source, and the start of one
more. It is committed in the turns of operations that are not row changes, when every group
received is complete or has not begun, and after the loop, when the operation that broke it off may
be in the middle of a group. `First` is the condition under which that last commit is harmless too.
-/

namespace MysqlSync.Python

variable {ν : Type}

def isDmlAt (items : List (Item ν)) (j : ℕ) : Bool :=
  items[j]?.any fun item => item.operation.isDml

/-- The row changes from a `BEGIN` to its `COMMIT`. -/
structure Group (items : List (Item ν)) (b c : ℕ) : Prop where
  begins : items[b]?.map Item.operation = some .begin
  commits : items[c]?.map Item.operation = some .commit
  dml : ∀ j < c, b < j → isDmlAt items j = true

section

variable (conf : Settings)

/-- Of each group all the statements are committed, or none. -/
def AllOrNone (items : List (Item ν)) (w : Target ν) : Prop :=
  ∀ b c, Group items b c →
    (∀ j, b < j → j < c → carriesAt conf items j = true →
      ∃ st ∈ statementAt conf items j, ⟨j, st⟩ ∈ w.committed) ∨
    (∀ e ∈ w.committed, ¬ (b < e.pos ∧ e.pos < c))

/-- No row change of the same group comes before the one at position `n`, except for tables that are
excluded. -/
def First (items : List (Item ν)) (n : ℕ) : Prop :=
  ∀ j < n, carriesAt conf items j = true → isDmlAt items j = true →
    ∃ i < n, j < i ∧ isDmlAt items i = false

end

section

variable {conf : Settings} {env : Env ν} {items as bs : List (Item ν)} {item : Item ν} {b c : ℕ}

lemma stable_allOrNone : Stable (AllOrNone conf items) := by
  intro w w' hcommitted _ h
  rw [AllOrNone, hcommitted]
  exact h

/-- When everything executed is committed, a group is whole unless it was cut after one of its
statements. -/
lemma commits_allOrNone (hitems : items = as ++ bs)
    (hcut : ∀ b c, Group items b c → c ≤ as.length ∨
      ∀ j < as.length, b < j → j < c → carriesAt conf items j = false) :
    Commits conf (AllOrNone conf items) as := by
  intro w w' _ hexecuted hopened _ _ b c hgroup
  have hcommitted := Target.executed_of_opened hopened
  rcases hcut b c hgroup with hle | hnone
  · left
    intro j _ hjc hcarries
    have hmem := hexecuted.statementAt hitems (Nat.lt_of_lt_of_le hjc hle) hcarries
    rwa [hcommitted] at hmem
  · right
    rintro e he ⟨hbe, hec⟩
    rw [← hcommitted] at he
    have hcarries := hnone e.pos (hexecuted.pos_lt he) hbe hec
    exact absurd (hexecuted.carriesAt hitems he) (by simp [hcarries])

/-- An operation that is not a row change is in the middle of no group. -/
lemma Group.outside (h : Group items b c) {n : ℕ} (hn : isDmlAt items n = false) :
    c ≤ n ∨ n ≤ b := by
  by_contra hinside
  push Not at hinside
  exact absurd (h.dml n hinside.1 hinside.2) (by simp [hn])

lemma Group.lt_length (h : Group items b c) : c < items.length := by
  obtain ⟨item, hitem, -⟩ := Option.map_eq_some_iff.mp h.commits
  exact (List.getElem?_eq_some_iff.mp hitem).1

lemma isDmlAt_length (hitems : items = as ++ item :: bs) :
    isDmlAt items as.length = item.operation.isDml := by
  rw [isDmlAt, hitems, List.getElem?_append_right (Nat.le_refl _), Nat.sub_self]
  rfl

lemma Operation.isDml_of_isNonDML {operation : Operation ν} (h : operation.isNonDML = true) :
    operation.isDml = false := by
  cases operation with
  | nonDML _ => rfl
  | _ => cases h

/-- The commit after a row change raised is harmless if nothing of its group was executed. -/
lemma commits_of_first (hitems : items = as ++ item :: bs) (hfirst : First conf items as.length) :
    Commits conf (AllOrNone conf items) as := by
  refine commits_allOrNone hitems fun b c hgroup => ?_
  rcases Nat.lt_or_ge as.length c with hlt | hge
  · right
    intro j hj hbj hjc
    by_contra hcarries
    obtain ⟨i, hi, hji, hdml⟩ := hfirst j hj (Bool.eq_true_of_not_eq_false hcarries)
      (hgroup.dml j hjc hbj)
    rcases hgroup.outside hdml with hle | hle
    · omega
    · omega
  · left
    exact hge

lemma keeps_allOrNone {ts : List (Turn ν)}
    (h : ∀ t ∈ ts, t.item.operation.isExcluded conf = false → t.state.allowCommit = true →
      t.state.dmlRaises env t.item.operation = true → First conf items t.pos) :
    Keeps conf env items ts (AllOrNone conf items) where
  initial _ _ _ := .inr nofun
  stable := stable_allOrNone
  flush := by
    intro as item bs hitems hdml
    refine commits_allOrNone hitems fun b c hgroup => ?_
    rcases hgroup.outside ((isDmlAt_length hitems).trans hdml) with hle | hle
    · exact .inl hle
    · exact .inr fun j hj hbj _ => by omega
  nonDML := by
    intro as item bs hitems hnonDML
    have hdml := Operation.isDml_of_isNonDML hnonDML
    have hitems' : items = (as ++ [item]) ++ bs := by
      rw [hitems, List.append_assoc, List.singleton_append]
    refine commits_allOrNone hitems' fun b c hgroup => ?_
    rw [List.length_append, List.length_singleton]
    rcases hgroup.outside ((isDmlAt_length hitems).trans hdml) with hle | hle
    · exact .inl (Nat.le_succ_of_le hle)
    · exact .inr fun j hj hbj _ => by omega
  finish := commits_allOrNone (List.append_nil _).symm fun _ _ hgroup =>
    .inl (Nat.le_of_lt hgroup.lt_length)
  raised := by
    intro t ht as bs hitems hpos hexcluded hallow hraises
    refine commits_of_first hitems ?_
    rw [hpos]
    exact h t ht hexcluded hallow hraises
  checkpoint _ _ _ _ _ _ _ _ hw _ := hw

end

/-- If, whenever a row change of a table that is not excluded raises while a commit is allowed, it
is the first statement of its group, then no part of a group is ever committed without the rest,
wherever the run is cut off. -/
theorem allOrNone_of_first (conf : Settings) (env : Env ν) (items : List (Item ν)) (now : ℚ)
    (h : ∀ t ∈ Sync.turns conf env 0 items (newSync ν now),
      t.item.operation.isExcluded conf = false → t.state.allowCommit = true →
      t.state.dmlRaises env t.item.operation = true → First conf items t.pos) :
    ∀ log, log <+: (Sync.run conf env items (newSync ν now)).2.log →
      AllOrNone conf items (Target.replay log) :=
  Trace.always_iff_forall_isPrefix.mp (throughout_run (keeps_allOrNone h))

/-- Two transactions of one commit interval; the second has two rows. -/
def sameInterval : List (Item ℤ) :=
  [⟨"bin.000001", 4, .gtid ⟨"u", 1, 1⟩, 0⟩, ⟨"bin.000001", 100, .begin, 0⟩,
    ⟨"bin.000001", 200, insertRow 1, 0⟩, ⟨"bin.000001", 300, .commit, 0⟩,
    ⟨"bin.000001", 400, .gtid ⟨"u", 2, 1⟩, 0⟩, ⟨"bin.000001", 500, .begin, 0⟩,
    ⟨"bin.000001", 600, insertRow 2, 0⟩, ⟨"bin.000001", 700, insertRow 3, 0⟩,
    ⟨"bin.000001", 800, .commit, 0⟩]

/-- A target that refuses one row. -/
def refusing (id : ℤ) : Env ℤ
  | _, .execute (.dml _ params) => params != [id]
  | _, _ => true

instance {ν : Type} (conf : Settings) (items : List (Item ν)) (n : ℕ) :
    Decidable (First conf items n) :=
  inferInstanceAs (Decidable (∀ j < n, _ → _ → ∃ i < n, j < i ∧ isDmlAt items i = false))

/-- The first row of the second transaction is refused: the first transaction is committed, and
nothing of the second. -/
theorem allOrNone_sameInterval :
    (Target.replay (Sync.run merging (refusing 2) sameInterval (newSync ℤ 0)).2.log).committed.map
      Entry.pos = [2] ∧
    ∀ log, log <+: (Sync.run merging (refusing 2) sameInterval (newSync ℤ 0)).2.log →
      AllOrNone merging sameInterval (Target.replay log) :=
  ⟨by decide +kernel, allOrNone_of_first _ _ _ _ (by decide +kernel)⟩

lemma group_sameInterval : Group sameInterval 5 8 where
  begins := rfl
  commits := rfl
  dml := by decide +kernel

/-- Its second row is refused: the commit after the loop is still allowed by the end of the first
transaction and takes the first row of the second with it. -/
theorem not_allOrNone_sameInterval :
    WellFormed sameInterval = true ∧
    ¬ AllOrNone merging sameInterval
      (Target.replay (Sync.run merging (refusing 3) sameInterval (newSync ℤ 0)).2.log) := by
  refine ⟨by decide +kernel, fun h => ?_⟩
  have hmissing : ¬ ∃ st ∈ statementAt merging sameInterval 7, ⟨7, st⟩ ∈
      (Target.replay (Sync.run merging (refusing 3) sameInterval (newSync ℤ 0)).2.log).committed := by
    decide +kernel
  have hpresent : ∃ e ∈
      (Target.replay (Sync.run merging (refusing 3) sameInterval (newSync ℤ 0)).2.log).committed,
      5 < e.pos ∧ e.pos < 8 := by
    decide +kernel
  rcases h 5 8 group_sameInterval with hall | hnone
  · exact hmissing (hall 7 (by decide) (by decide) (by decide +kernel))
  · obtain ⟨e, he, hpos⟩ := hpresent
    exact hnone e he hpos

end MysqlSync.Python
