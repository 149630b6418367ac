import Mathlib.Data.Finset.Image
import Mathlib.Data.List.Nodup
import Mathlib.Tactic.Common

/-!
# Tables with a key

A `KeyedTable key` is a finite set of rows no two of which have the same key: a finite map from
keys to rows, in which the key of a row is read off the row itself. Its operations are those of
a database with one unique key: an insertion or an update that would give two rows the same key
fails.

The two rules for statements whose condition singles out one key are `deleteWhere_eq_erase` and
`updateWhere_eq_move`.

A row is a list of values, one for each column of a list of column names; `Columns.assign` sets
some of the columns by name, `Columns.Holds` compares some of them.
-/

universe u v

variable {ρ : Type u} {κ : Type v}

structure KeyedTable (key : ρ → κ) where
  rows : Finset ρ
  inj : ∀ r ∈ rows, ∀ r' ∈ rows, key r = key r' → r = r'

namespace KeyedTable

variable {key : ρ → κ}

instance : Membership ρ (KeyedTable key) where
  mem t r := r ∈ t.rows

/-- No row of the table has this key. -/
def Fresh (t : KeyedTable key) (k : κ) : Prop := ∀ r ∈ t.rows, key r ≠ k

@[ext] lemma ext {t t' : KeyedTable key} (h : ∀ r, r ∈ t ↔ r ∈ t') : t = t' := by
  obtain ⟨rows, inj⟩ := t
  obtain ⟨rows', inj'⟩ := t'
  obtain rfl : rows = rows' := Finset.ext h
  rfl

lemma eq_of_key_eq {t : KeyedTable key} {r r' : ρ} (hr : r ∈ t) (hr' : r' ∈ t)
    (h : key r = key r') : r = r' :=
  t.inj r hr r' hr' h

/-! ### Taking rows out -/

/-- Delete the rows that satisfy a condition. -/
def deleteWhere (t : KeyedTable key) (p : ρ → Bool) : KeyedTable key where
  rows := t.rows.filter fun r => ¬ p r
  inj := fun a ha b hb =>
    t.inj a (Finset.mem_of_mem_filter a ha) b (Finset.mem_of_mem_filter b hb)

lemma mem_deleteWhere {t : KeyedTable key} {p : ρ → Bool} {a : ρ} :
    a ∈ t.deleteWhere p ↔ a ∈ t ∧ ¬ p a = true :=
  Finset.mem_filter

section

variable [DecidableEq ρ]

instance (t : KeyedTable key) (r : ρ) : Decidable (r ∈ t) :=
  inferInstanceAs (Decidable (r ∈ t.rows))

/-- Take a row out. -/
def erase (t : KeyedTable key) (r : ρ) : KeyedTable key where
  rows := t.rows.erase r
  inj := fun a ha b hb => t.inj a (Finset.mem_of_mem_erase ha) b (Finset.mem_of_mem_erase hb)

lemma mem_erase {t : KeyedTable key} {r a : ρ} : a ∈ t.erase r ↔ a ≠ r ∧ a ∈ t :=
  Finset.mem_erase

/-- A deletion by the key of a row takes out that row. -/
theorem deleteWhere_eq_erase {t : KeyedTable key} {r : ρ} (hr : r ∈ t) {p : ρ → Bool}
    (hp : ∀ r' ∈ t, p r' = true ↔ key r' = key r) : t.deleteWhere p = t.erase r := by
  ext a
  rw [mem_erase, mem_deleteWhere, and_comm]
  refine and_congr_left fun ha => not_congr ?_
  rw [hp a ha]
  constructor
  · intro hkey
    exact eq_of_key_eq ha hr hkey
  · rintro rfl
    rfl

end

variable [DecidableEq ρ] [DecidableEq κ]

instance (t : KeyedTable key) (k : κ) : Decidable (t.Fresh k) :=
  inferInstanceAs (Decidable (∀ r ∈ t.rows, key r ≠ k))

/-! ### Changes that may fail -/

/-- Insert a row; a duplicate key is an error. -/
def insert (t : KeyedTable key) (r : ρ) : Option (KeyedTable key) :=
  if h : t.Fresh (key r) then
    some
      { rows := Insert.insert r t.rows
        inj := by
          intro a ha b hb hab
          rcases Finset.mem_insert.mp ha with har | ha' <;>
            rcases Finset.mem_insert.mp hb with hbr | hb'
          · rw [har, hbr]
          · exact absurd (har ▸ hab.symm) (h b hb')
          · exact absurd (hbr ▸ hab) (h a ha')
          · exact t.inj a ha' b hb' hab }
  else none

/-- Put `r'` in the place of `r`; its key must be that of `r` or a fresh one. -/
def move (t : KeyedTable key) (r r' : ρ) : Option (KeyedTable key) := (t.erase r).insert r'

lemma insert_of_fresh {t : KeyedTable key} {r : ρ} (h : t.Fresh (key r)) :
    ∃ t', t.insert r = some t' ∧ ∀ a, a ∈ t' ↔ a = r ∨ a ∈ t := by
  refine ⟨_, dif_pos h, fun a => ?_⟩
  exact Finset.mem_insert

/-- The rows that satisfy a condition are changed by `f`, the others stay. -/
def changeWhere (p : ρ → Bool) (f : ρ → ρ) (r : ρ) : ρ := if p r then f r else r

/-- Change the rows that satisfy a condition; two rows with one key are an error. -/
def updateWhere (t : KeyedTable key) (p : ρ → Bool) (f : ρ → ρ) : Option (KeyedTable key) :=
  if h : ∀ r ∈ t.rows, ∀ r' ∈ t.rows,
      key (changeWhere p f r) = key (changeWhere p f r') → r = r' then
    some
      { rows := t.rows.image (changeWhere p f)
        inj := by
          intro a ha b hb hab
          obtain ⟨r, hr, rfl⟩ := Finset.mem_image.mp ha
          obtain ⟨r', hr', rfl⟩ := Finset.mem_image.mp hb
          rw [h r hr r' hr' hab] }
  else none

/-- Insert a row after deleting the row that has its key, if there is one. -/
def replace (t : KeyedTable key) (r : ρ) : Option (KeyedTable key) :=
  (t.deleteWhere fun r' => key r' = key r).insert r

/-- A replacement never fails: the row that had the key is gone. -/
lemma exists_replace (t : KeyedTable key) (r : ρ) :
    ∃ t', t.replace r = some t' ∧ ∀ a, a ∈ t' ↔ a = r ∨ a ∈ t ∧ key a ≠ key r := by
  have hfresh : (t.deleteWhere fun r' => key r' = key r).Fresh (key r) := by
    intro a ha
    simpa using (mem_deleteWhere.mp ha).2
  obtain ⟨t', ht', hmem⟩ := insert_of_fresh hfresh
  refine ⟨t', ht', fun a => ?_⟩
  rw [hmem, mem_deleteWhere, decide_eq_true_iff]

/-- An update by the key of a row puts the changed row in its place. -/
theorem updateWhere_eq_move {t : KeyedTable key} {r r' : ρ} (hr : r ∈ t) {p : ρ → Bool}
    (hp : ∀ a ∈ t, p a = true ↔ key a = key r) {f : ρ → ρ} (hf : f r = r') :
    t.updateWhere p f = t.move r r' := by
  have hchange : ∀ a ∈ t, changeWhere p f a = if a = r then r' else a := by
    intro a ha
    by_cases har : a = r
    · subst har
      rw [changeWhere, if_pos ((hp a ha).mpr rfl), if_pos rfl, hf]
    · have hpa : ¬ p a = true := fun h => har (eq_of_key_eq ha hr ((hp a ha).mp h))
      rw [changeWhere, if_neg hpa, if_neg har]
  by_cases hfresh : (t.erase r).Fresh (key r')
  · obtain ⟨t', ht', hmem⟩ := insert_of_fresh hfresh
    have hinj : ∀ a ∈ t.rows, ∀ b ∈ t.rows,
        key (changeWhere p f a) = key (changeWhere p f b) → a = b := by
      intro a ha b hb hab
      rw [hchange a ha, hchange b hb] at hab
      by_cases har : a = r <;> by_cases hbr : b = r
      · rw [har, hbr]
      · rw [if_pos har, if_neg hbr] at hab
        exact absurd hab.symm (hfresh b (Finset.mem_erase.mpr ⟨hbr, hb⟩))
      · rw [if_neg har, if_pos hbr] at hab
        exact absurd hab (hfresh a (Finset.mem_erase.mpr ⟨har, ha⟩))
      · rw [if_neg har, if_neg hbr] at hab
        exact t.inj a ha b hb hab
    rw [move, ht', updateWhere, dif_pos hinj]
    congr 1
    ext b
    rw [hmem, mem_erase]
    change b ∈ Finset.image _ _ ↔ _
    rw [Finset.mem_image]
    constructor
    · rintro ⟨a, ha, rfl⟩
      rw [hchange a ha]
      by_cases har : a = r
      · exact .inl (if_pos har)
      · rw [if_neg har]
        exact .inr ⟨har, ha⟩
    · rintro (rfl | ⟨hbr, hb⟩)
      · exact ⟨r, hr, by rw [hchange r hr, if_pos rfl]⟩
      · exact ⟨b, hb, by rw [hchange b hb, if_neg hbr]⟩
  · -- a row other than `r` has the new key already: both fail
    rw [move, insert, dif_neg hfresh, updateWhere, dif_neg]
    intro hinj
    apply hfresh
    intro a ha hkey
    obtain ⟨har, ha⟩ := Finset.mem_erase.mp ha
    refine har (hinj a ha r hr ?_)
    rw [hchange a ha, hchange r hr, if_neg har, if_pos rfl, hkey]

end KeyedTable

/-! ### Columns by name -/

namespace Columns

variable {ν : Type u} {α : Type v} [DecidableEq ν] {columns : List ν} {row : List α}

/-- The value of a named column. -/
def value (columns : List ν) (row : List α) (c : ν) : Option α := row[columns.idxOf c]?

/-- Set some columns by name, one after the other. -/
def assign (columns : List ν) (row : List α) : List (ν × α) → List α
  | [] => row
  | cv :: sets => assign columns (row.set (columns.idxOf cv.1) cv.2) sets

/-- Each named column has the value it is compared with. -/
def Holds (columns : List ν) (row : List α) (conds : List (ν × α)) : Prop :=
  ∀ cv ∈ conds, value columns row cv.1 = some cv.2

instance [DecidableEq α] (row : List α) (conds : List (ν × α)) :
    Decidable (Holds columns row conds) :=
  inferInstanceAs (Decidable (∀ cv ∈ conds, value columns row cv.1 = some cv.2))

@[simp] lemma length_assign (columns : List ν) (row : List α) (sets : List (ν × α)) :
    (assign columns row sets).length = row.length := by
  induction sets generalizing row with
  | nil => rfl
  | cons cv sets ih => rw [assign, ih, List.length_set]

lemma getElem?_assign_of_ne {sets : List (ν × α)} {i : ℕ}
    (h : ∀ cv ∈ sets, columns.idxOf cv.1 ≠ i) : (assign columns row sets)[i]? = row[i]? := by
  induction sets generalizing row with
  | nil => rfl
  | cons cv sets ih =>
    rw [assign, ih fun cv' hcv' => h cv' (List.mem_cons_of_mem _ hcv')]
    exact List.getElem?_set_ne (h cv List.mem_cons_self)

/-- A column that is set once has the value it is set to. -/
lemma getElem?_assign_of_mem {sets : List (ν × α)} {cv : ν × α}
    (hnodup : (sets.map fun cv => columns.idxOf cv.1).Nodup) (hcv : cv ∈ sets)
    (hlt : columns.idxOf cv.1 < row.length) :
    (assign columns row sets)[columns.idxOf cv.1]? = some cv.2 := by
  induction sets generalizing row with
  | nil => simp at hcv
  | cons cv' sets ih =>
    rw [List.map_cons, List.nodup_cons] at hnodup
    rw [assign]
    rcases List.mem_cons.mp hcv with rfl | hcv
    · rw [getElem?_assign_of_ne, List.getElem?_set_self hlt]
      intro cv' hcv' heq
      exact hnodup.1 (List.mem_map.mpr ⟨cv', hcv', heq⟩)
    · exact ih hnodup.2 hcv (by rwa [List.length_set])

/-- Setting every column replaces the row. -/
theorem assign_zip {row' : List α} (hnodup : columns.Nodup) (hlen : row.length = columns.length)
    (hlen' : row'.length = columns.length) : assign columns row (columns.zip row') = row' := by
  have hidx : (columns.zip row').map (fun cv => columns.idxOf cv.1) =
      columns.map columns.idxOf := by
    have hmap := List.map_map (l := columns.zip row') (f := Prod.fst) (g := (columns.idxOf ·))
    rw [List.map_fst_zip (by omega)] at hmap
    exact hmap.symm
  apply List.ext_getElem?
  intro i
  by_cases hi : i < columns.length
  · have hi' : i < row'.length := by omega
    have hmem : (columns[i], row'[i]) ∈ columns.zip row' := by
      rw [List.mem_iff_getElem]
      exact ⟨i, by simp [hi, hi'], by simp⟩
    have hnodup' : ((columns.zip row').map fun cv => columns.idxOf cv.1).Nodup := by
      rw [hidx]
      refine List.Nodup.map_on ?_ hnodup
      intro a ha b hb hab
      exact (List.idxOf_inj ha).mp hab
    have hlt : columns.idxOf columns[i] < row.length := by
      rw [hlen]
      exact List.idxOf_lt_length_of_mem (List.getElem_mem hi)
    have hget := getElem?_assign_of_mem hnodup' hmem hlt
    rw [hnodup.idxOf_getElem i hi] at hget
    rw [hget, List.getElem?_eq_getElem hi']
  · rw [List.getElem?_eq_none, List.getElem?_eq_none]
    · omega
    · rw [length_assign]
      omega

/-- A comparison of the columns at some positions is a comparison of the values there. -/
theorem holds_iff_map_eq {row' : List α} {pos : List ℕ} {conds : List (ν × α)}
    (hconds : conds.map (fun cv => (columns.idxOf cv.1, some cv.2)) =
      pos.map fun i => (i, row'[i]?)) :
    Holds columns row conds ↔ pos.map (row[·]?) = pos.map (row'[·]?) := by
  have hall : Holds columns row conds ↔
      ∀ p ∈ conds.map fun cv => (columns.idxOf cv.1, some cv.2), row[p.1]? = p.2 := by
    rw [List.forall_mem_map]
    rfl
  rw [hall, hconds, List.forall_mem_map, List.map_inj_left]

end Columns
