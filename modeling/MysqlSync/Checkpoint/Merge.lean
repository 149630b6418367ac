import MysqlSync.Checkpoint.Basic

/-!
# What the common start point is

`mergeGtidSetss` keeps, for every UUID, the least number among the maps that hold the UUID
(`lookup_mergeGtidSetss`), unless one of the maps is empty. A map that lacks the UUID does not
lower the result, although its destination has applied nothing of that server.
-/

namespace MysqlSync

/-- The least of two numbers, where a missing one imposes nothing. -/
def meet : Option UInt64 → Option UInt64 → Option UInt64
  | some a, some b => some (if b < a then b else a)
  | some a, none => some a
  | none, b => b

@[simp] lemma meet_none_left (b : Option UInt64) : meet none b = b := rfl

@[simp] lemma meet_none_right (a : Option UInt64) : meet a none = a := by cases a <;> rfl

@[simp] lemma meet_eq_none_iff {a b : Option UInt64} : meet a b = none ↔ a = none ∧ b = none := by
  cases a <;> cases b <;> simp [meet]

/-- `meet` picks one of its arguments. -/
lemma meet_eq_some {a b : Option UInt64} {v : UInt64} (h : meet a b = some v) :
    a = some v ∨ b = some v := by
  cases a <;> cases b <;> simp only [meet] at h
  · cases h
  · exact .inr h
  · exact .inl h
  · split_ifs at h
    · exact .inr h
    · exact .inl h

/-- `meet` is below each number it is given. -/
lemma exists_meet_le {a b : Option UInt64} {w : UInt64} (h : a = some w ∨ b = some w) :
    ∃ v, meet a b = some v ∧ v ≤ w := by
  rcases a with _ | a <;> rcases b with _ | b
  · simp at h
  · exact ⟨b, rfl, by simp_all⟩
  · exact ⟨a, rfl, by simp_all⟩
  · refine ⟨_, rfl, ?_⟩
    simp only [Option.some.injEq] at h
    split_ifs with hlt <;> rcases h with rfl | rfl
    · exact UInt64.le_of_lt hlt
    · exact UInt64.le_refl _
    · exact UInt64.le_refl _
    · exact UInt64.not_lt.mp hlt

/-! ### One map at a time -/

lemma lookup_mergeEntry (m : GtidSetsMap) (entry : Σ _ : String, UInt64) (u : String) :
    (mergeEntry m entry).lookup u =
      meet (m.lookup u) (if entry.1 = u then some entry.2 else none) := by
  obtain ⟨k, v⟩ := entry
  by_cases hk : k = u
  · subst hk
    cases hm : m.lookup k with
    | none => simp [mergeEntry, hm]
    | some c =>
      simp only [mergeEntry, hm, meet, ↓reduceIte]
      split_ifs <;> simp [hm]
  · have hne : u ≠ k := fun h => hk h.symm
    cases hm : m.lookup k with
    | none => simp [mergeEntry, hm, hk, Finmap.lookup_insert_of_ne _ hne]
    | some c =>
      simp only [mergeEntry, hm, hk, ↓reduceIte, meet_none_right]
      split_ifs
      · exact Finmap.lookup_insert_of_ne _ hne
      · rfl

/-- Ranging over a map meets the result with that map's number, in whatever order the entries
come: each key comes once. -/
lemma lookup_foldl_mergeEntry (gss : GtidSetsEntries) (m : GtidSetsMap) (u : String) :
    (gss.entries.foldl mergeEntry m).lookup u = meet (m.lookup u) (gss.lookup u) := by
  obtain ⟨entries, hnodup⟩ := gss
  simp only [AList.lookup]
  induction entries generalizing m with
  | nil => simp
  | cons entry entries ih =>
    obtain ⟨k, v⟩ := entry
    rw [List.nodupKeys_cons] at hnodup
    rw [List.foldl_cons, ih _ hnodup.2, lookup_mergeEntry]
    by_cases hk : k = u
    · subst hk
      rw [List.dlookup_eq_none.mpr hnodup.1]
      simp
    · have hne : u ≠ k := fun h => hk h.symm
      rw [List.dlookup_cons_ne _ _ hne]
      simp [hk]

/-- The result of the outer loop when no map is empty. -/
lemma lookup_mergeGtidSetssFrom (gsss : List GtidSetsEntries) (m : GtidSetsMap) (u : String)
    (hne : ∀ gss ∈ gsss, gss.entries ≠ []) :
    (mergeGtidSetssFrom m gsss).lookup u =
      (gsss.map fun gss => gss.lookup u).foldl meet (m.lookup u) := by
  induction gsss generalizing m with
  | nil => rfl
  | cons gss gsss ih =>
    have hgss : gss.entries.length ≠ 0 := by
      simpa using hne gss List.mem_cons_self
    rw [mergeGtidSetssFrom, if_neg hgss, ih _ fun g hg => hne g (List.mem_cons_of_mem _ hg),
      lookup_foldl_mergeEntry, List.map_cons, List.foldl_cons]

/-- One empty map anywhere makes the result empty. -/
lemma mergeGtidSetssFrom_of_empty {gsss : List GtidSetsEntries} (m : GtidSetsMap)
    (h : ∃ gss ∈ gsss, gss.entries = []) : mergeGtidSetssFrom m gsss = ∅ := by
  induction gsss generalizing m with
  | nil => simp at h
  | cons gss gsss ih =>
    rw [mergeGtidSetssFrom]
    split_ifs with hlen
    · rfl
    · obtain ⟨g, hg, hnil⟩ := h
      rcases List.mem_cons.mp hg with rfl | hg
      · exact absurd (by simp [hnil]) hlen
      · exact ih _ ⟨g, hg, hnil⟩

/-! ### Folding `meet` -/

lemma foldl_meet_eq_none_iff {l : List (Option UInt64)} {a : Option UInt64} :
    l.foldl meet a = none ↔ a = none ∧ ∀ b ∈ l, b = none := by
  induction l generalizing a with
  | nil => simp
  | cons b l ih => simp [ih, and_assoc]

lemma foldl_meet_eq_some {l : List (Option UInt64)} {a : Option UInt64} {v : UInt64}
    (h : l.foldl meet a = some v) : a = some v ∨ some v ∈ l := by
  induction l generalizing a with
  | nil => exact .inl h
  | cons b l ih =>
    rcases ih h with hab | hl
    · rcases meet_eq_some hab with ha | hb
      · exact .inl ha
      · exact .inr (hb ▸ List.mem_cons_self)
    · exact .inr (List.mem_cons_of_mem _ hl)

lemma exists_foldl_meet_le {l : List (Option UInt64)} {a : Option UInt64} {w : UInt64}
    (h : a = some w ∨ some w ∈ l) : ∃ v, l.foldl meet a = some v ∧ v ≤ w := by
  induction l generalizing a w with
  | nil => exact ⟨w, by simpa using h, UInt64.le_refl w⟩
  | cons b l ih =>
    rw [List.foldl_cons]
    rcases h with ha | hl
    · obtain ⟨v, hv, hle⟩ := exists_meet_le (b := b) (.inl ha)
      obtain ⟨v', hv', hle'⟩ := ih (.inl hv)
      exact ⟨v', hv', UInt64.le_trans hle' hle⟩
    · rcases List.mem_cons.mp hl with hb | hl
      · obtain ⟨v, hv, hle⟩ := exists_meet_le (a := a) (.inr hb.symm)
        obtain ⟨v', hv', hle'⟩ := ih (.inl hv)
        exact ⟨v', hv', UInt64.le_trans hle' hle⟩
      · exact ih (.inr hl)

/-! ### The start point and the destinations -/

/-- The numbers of `u` that the destinations' maps hold. -/
def heldNumbers (gsss : List GtidSetsEntries) (u : String) : List (Option UInt64) :=
  gsss.map fun gss => gss.lookup u

lemma lookup_mergeGtidSetss {gsss : List GtidSetsEntries} (hne : ∀ gss ∈ gsss, gss.entries ≠ [])
    (u : String) : (mergeGtidSetss gsss).lookup u = (heldNumbers gsss u).foldl meet none :=
  lookup_mergeGtidSetssFrom gsss ∅ u hne

lemma mem_heldNumbers {gsss : List GtidSetsEntries} {u : String} {b : Option UInt64} :
    b ∈ heldNumbers gsss u ↔ ∃ gss ∈ gsss, gss.lookup u = b := by
  simp [heldNumbers]

lemma GtidSetsMap.last_of_lookup {m : GtidSetsMap} {u : String} {v : UInt64}
    (h : m.lookup u = some v) : m.last u = v.toNat := by
  rw [GtidSetsMap.last, h, Option.elim_some]

lemma GtidSetsMap.last_of_lookup_none {m : GtidSetsMap} {u : String} (h : m.lookup u = none) :
    m.last u = 0 := by
  rw [GtidSetsMap.last, h, Option.elim_none]

/-- The start point is not past any destination: what `merged` covers of a server, every
destination has applied, so everything a destination still needs is sent again. -/
def StartsBeforeAll (gsss : List GtidSetsEntries) : Prop :=
  ∀ d ∈ gsss, ∀ u : String,
    (mergeGtidSetss gsss).last u ≤ GtidSetsMap.last d.toFinmap u ∧
    ∀ n, GtidSetsMap.last d.toFinmap u < n → (mergeGtidSetss gsss).last u < n

/-- Some destination starts from nothing, or every UUID that one map holds and another lacks
is held with number `0` by one of them. -/
def AgreeOnUUIDs (gsss : List GtidSetsEntries) : Prop :=
  (∃ gss ∈ gsss, gss.entries = []) ∨
  ∀ u : String, none ∈ heldNumbers gsss u →
    (∀ b ∈ heldNumbers gsss u, b = none) ∨ some 0 ∈ heldNumbers gsss u

lemma startsBeforeAll_iff_last_le (gsss : List GtidSetsEntries) :
    StartsBeforeAll gsss ↔ ∀ d ∈ gsss, ∀ u : String,
      (mergeGtidSetss gsss).last u ≤ GtidSetsMap.last d.toFinmap u := by
  constructor
  · exact fun h d hd u => (h d hd u).1
  · exact fun h d hd u => ⟨h d hd u, fun n hn => lt_of_le_of_lt (h d hd u) hn⟩

lemma last_mergeGtidSetss_of_empty {gsss : List GtidSetsEntries}
    (h : ∃ gss ∈ gsss, gss.entries = []) (u : String) : (mergeGtidSetss gsss).last u = 0 := by
  have hmerged : mergeGtidSetss gsss = ∅ := mergeGtidSetssFrom_of_empty ∅ h
  rw [hmerged]
  exact GtidSetsMap.last_of_lookup_none (Finmap.lookup_empty u)

/-- A destination that holds a UUID is not overtaken on it. -/
lemma last_mergeGtidSetss_le_of_lookup {gsss : List GtidSetsEntries} {d : GtidSetsEntries}
    (hne : ∀ gss ∈ gsss, gss.entries ≠ []) (hd : d ∈ gsss) {u : String} {w : UInt64}
    (hdu : d.lookup u = some w) : (mergeGtidSetss gsss).last u ≤ w.toNat := by
  obtain ⟨v, hv, hvw⟩ := exists_foldl_meet_le (a := none)
    (.inr (mem_heldNumbers.mpr ⟨d, hd, hdu⟩))
  rw [← lookup_mergeGtidSetss hne] at hv
  rw [GtidSetsMap.last_of_lookup hv]
  exact UInt64.le_iff_toNat_le.mp hvw

/-- Maps that agree on their UUIDs have a start point that is not past any of them. -/
lemma last_mergeGtidSetss_le {gsss : List GtidSetsEntries} {d : GtidSetsEntries}
    (hagree : AgreeOnUUIDs gsss) (hd : d ∈ gsss) (u : String) :
    (mergeGtidSetss gsss).last u ≤ GtidSetsMap.last d.toFinmap u := by
  by_cases hempty : ∃ gss ∈ gsss, gss.entries = []
  · -- the early return: the merged map is empty
    rw [last_mergeGtidSetss_of_empty hempty]
    exact Nat.zero_le _
  have hne : ∀ gss ∈ gsss, gss.entries ≠ [] := fun gss hgss hnil => hempty ⟨gss, hgss, hnil⟩
  cases hdu : d.lookup u with
  | some w =>
    have hlast : GtidSetsMap.last d.toFinmap u = w.toNat :=
      GtidSetsMap.last_of_lookup (by simpa using hdu)
    rw [hlast]
    exact last_mergeGtidSetss_le_of_lookup hne hd hdu
  | none =>
    -- the destination lacks the UUID: the merged map must hold nothing of it
    have hlast : (mergeGtidSetss gsss).last u = 0 := by
      rcases hagree.resolve_left hempty u (mem_heldNumbers.mpr ⟨d, hd, hdu⟩) with hall | hzero
      · apply GtidSetsMap.last_of_lookup_none
        rw [lookup_mergeGtidSetss hne, foldl_meet_eq_none_iff]
        exact ⟨rfl, hall⟩
      · obtain ⟨d', hd', hzero⟩ := mem_heldNumbers.mp hzero
        exact Nat.le_zero.mp (last_mergeGtidSetss_le_of_lookup hne hd' hzero)
    rw [hlast]
    exact Nat.zero_le _

/-- The start point is not past any destination exactly when the maps agree on their UUIDs up to
servers of which one destination has applied nothing. -/
theorem startsBeforeAll_iff (gsss : List GtidSetsEntries) :
    StartsBeforeAll gsss ↔ AgreeOnUUIDs gsss := by
  rw [startsBeforeAll_iff_last_le]
  constructor
  · intro hle
    by_cases hempty : ∃ gss ∈ gsss, gss.entries = []
    · exact .inl hempty
    have hne : ∀ gss ∈ gsss, gss.entries ≠ [] := fun gss hgss hnil => hempty ⟨gss, hgss, hnil⟩
    refine .inr fun u hnone => ?_
    obtain ⟨d, hd, hdu⟩ := mem_heldNumbers.mp hnone
    have hdzero : GtidSetsMap.last d.toFinmap u = 0 :=
      GtidSetsMap.last_of_lookup_none (by simpa using hdu)
    have hzero : (mergeGtidSetss gsss).last u = 0 := Nat.le_zero.mp (hdzero ▸ hle d hd u)
    cases hm : (mergeGtidSetss gsss).lookup u with
    | none =>
      rw [lookup_mergeGtidSetss hne, foldl_meet_eq_none_iff] at hm
      exact .inl hm.2
    | some v =>
      rw [GtidSetsMap.last_of_lookup hm] at hzero
      have hv : v = 0 := UInt64.toNat_inj.mp hzero
      rw [lookup_mergeGtidSetss hne, hv] at hm
      exact .inr ((foldl_meet_eq_some hm).resolve_left (by simp))
  · intro hagree d hd u
    exact last_mergeGtidSetss_le hagree hd u

/-- A destination that never saw server `b` next to one that has applied `b:1-3`: the extractor
starts after `b:1-3`, and the first destination is never sent these transactions. -/
theorem not_startsBeforeAll_missing_uuid :
    ¬ StartsBeforeAll [AList.singleton "a" 5, (AList.singleton "a" 5).insert "b" 3] := by
  intro h
  have hb := (h (AList.singleton "a" 5) List.mem_cons_self "b").1
  revert hb
  decide

/-! ### The order of the destinations -/

/-- Two numbers may be met in either order. -/
lemma meet_right_comm (a b c : Option UInt64) : meet (meet a b) c = meet (meet a c) b := by
  rcases a with _ | a <;> rcases b with _ | b <;> rcases c with _ | c
  case some.some.some =>
    simp only [meet]
    split_ifs <;> grind
  case none.some.some =>
    simp only [meet]
    split_ifs <;> grind
  all_goals rfl

lemma foldl_meet_of_perm {l l' : List (Option UInt64)} (h : l.Perm l') :
    l.foldl meet none = l'.foldl meet none :=
  h.foldl_eq' (fun b _ c _ a => meet_right_comm a b c) none

lemma toFinmap_eq_empty_iff {gss : GtidSetsEntries} : gss.toFinmap = ∅ ↔ gss.entries = [] := by
  constructor
  · intro h
    have hperm : gss.entries.Perm (∅ : GtidSetsEntries).entries := AList.toFinmap_eq.mp h
    exact hperm.eq_nil
  · intro h
    exact congrArg AList.toFinmap (AList.ext (t := ∅) h)

lemma heldNumbers_eq (gsss : List GtidSetsEntries) (u : String) :
    heldNumbers gsss u = (gsss.map AList.toFinmap).map (Finmap.lookup u) := by
  rw [heldNumbers, List.map_map]
  rfl

/-- The start point does not depend on the order in which the destinations register, nor on the
order in which their maps are ranged over: an `AList` lists the entries of a map in some order. -/
theorem mergeGtidSetss_eq_of_perm (gsss gsss' : List GtidSetsEntries)
    (h : (gsss.map AList.toFinmap).Perm (gsss'.map AList.toFinmap)) :
    mergeGtidSetss gsss = mergeGtidSetss gsss' := by
  have hempty (l : List GtidSetsEntries) :
      (∃ gss ∈ l, gss.entries = []) ↔ ∅ ∈ l.map AList.toFinmap := by
    rw [List.mem_map]
    exact exists_congr fun gss => and_congr_right fun _ => toFinmap_eq_empty_iff.symm
  by_cases hnone : ∅ ∈ gsss.map AList.toFinmap
  · -- an empty map discards whatever was merged before it, wherever it stands
    have hnone' := h.mem_iff.mp hnone
    rw [mergeGtidSetss, mergeGtidSetss, mergeGtidSetssFrom_of_empty ∅ ((hempty gsss).mpr hnone),
      mergeGtidSetssFrom_of_empty ∅ ((hempty gsss').mpr hnone')]
  · have hne : ∀ gss ∈ gsss, gss.entries ≠ [] :=
      fun gss hgss hnil => hnone ((hempty gsss).mp ⟨gss, hgss, hnil⟩)
    have hne' : ∀ gss ∈ gsss', gss.entries ≠ [] :=
      fun gss hgss hnil => hnone (h.mem_iff.mpr ((hempty gsss').mp ⟨gss, hgss, hnil⟩))
    apply Finmap.ext_lookup
    intro u
    rw [lookup_mergeGtidSetss hne, lookup_mergeGtidSetss hne', heldNumbers_eq, heldNumbers_eq]
    exact foldl_meet_of_perm (h.map (Finmap.lookup u))

/-- Two destinations in either order, the entries of the second map in either order. -/
theorem mergeGtidSetss_swapped :
    mergeGtidSetss [AList.singleton "a" 5, (AList.singleton "a" 4).insert "b" 3] =
      mergeGtidSetss [(AList.singleton "b" 3).insert "a" 4, AList.singleton "a" 5] := by
  apply mergeGtidSetss_eq_of_perm
  have hsame : ((AList.singleton "a" 4).insert "b" 3 : GtidSetsEntries).toFinmap =
      ((AList.singleton "b" 3).insert "a" 4 : GtidSetsEntries).toFinmap :=
    AList.toFinmap_eq.mpr (by decide)
  rw [List.map_cons, List.map_cons, hsame]
  exact List.Perm.swap _ _ _

end MysqlSync
