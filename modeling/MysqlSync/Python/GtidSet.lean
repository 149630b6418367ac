import MysqlSync.Python.Gtid

/-!
# The transactions of several servers

A `GtidSet` is a list of `Gtid` objects. Built from the empty one by additions, it holds one object
for each server, an addition is refused exactly if a transaction would be there twice, and `in` is
inclusion for a `Gtid`. For another `GtidSet` it is not: each server must have the same transactions
in both (`GtidSet.refines_of_additions`).
-/

namespace MysqlSync.Python

open Spans Checked

structure GtidSet where
  gtids : List Gtid
  deriving DecidableEq, Repr

namespace GtidSet

/-- A text without the spaces and newlines around it. -/
def strip (text : String) : String := Strings.trimBy (· ∈ [' ', '\n']) text

/-- `__init__` with a text. -/
def new (gtidSet : String) : Except GtidError GtidSet :=
  if gtidSet = "" then .ok ⟨[]⟩
  else ((Strings.split gtidSet ',').mapM fun x => Gtid.new (strip x)).map GtidSet.mk

/-- What a merge makes of an object that is there. -/
def mergeInto (gtid existing : Gtid) : Except GtidError Gtid :=
  if existing.sid = gtid.sid then existing.add gtid else .ok existing

def mergeGtid (self : GtidSet) (gtid : Gtid) : Except GtidError GtidSet :=
  (self.gtids.mapM (mergeInto gtid)).map fun newGtids =>
    if gtid.sid ∉ newGtids.map Gtid.sid then ⟨newGtids ++ [gtid]⟩ else ⟨newGtids⟩

/-- `self + other`, for a set. -/
def add (self other : GtidSet) : Except GtidError GtidSet :=
  other.gtids.foldlM mergeGtid self

/-- `other in self`, for a `Gtid`. -/
def memGtid (self : GtidSet) (other : Gtid) : Bool := self.gtids.any fun x => x.mem other

/-- `other in self`, for a set. -/
def mem (self other : GtidSet) : Bool :=
  other.gtids.all fun otherGtid => self.gtids.any fun x => x.eq otherGtid

def str (self : GtidSet) : String := Strings.join (self.gtids.map Gtid.str) ","

/-! ### One object for each server -/

/-- The transactions with the servers they are of. -/
def transactions (s : GtidSet) : Set (String × ℤ) :=
  {t | ∃ g ∈ s.gtids, g.sid = t.1 ∧ t.2 ∈ g.transactions}

def sids (s : GtidSet) : List String := s.gtids.map Gtid.sid

/-- The transactions of one object. -/
def single (g : Gtid) : Set (String × ℤ) := {t | g.sid = t.1 ∧ t.2 ∈ g.transactions}

structure Proper (s : GtidSet) : Prop where
  nodup : s.sids.Nodup
  normal : ∀ g ∈ s.gtids, Normal g.intervals

/-- Sets built from the empty one by additions. -/
inductive Made : GtidSet → Prop
  | empty : Made ⟨[]⟩
  | mergeGtid {s s' : GtidSet} {g : Gtid} (hs : Made s) (hg : g.Made) (h : s.mergeGtid g = .ok s') :
      Made s'
  | add {s t s' : GtidSet} (hs : Made s) (ht : Made t) (h : s.add t = .ok s') : Made s'

section

variable {s t s' : GtidSet} {g g' : Gtid}

lemma mem_transactions_of_mem (hs : s.Proper) (hg : g ∈ s.gtids) {k : ℤ} :
    (g.sid, k) ∈ s.transactions ↔ k ∈ g.transactions := by
  constructor
  · rintro ⟨g', hg', hsid, hk⟩
    obtain rfl := List.inj_on_of_nodup_map hs.nodup hg' hg hsid
    exact hk
  · intro hk
    exact ⟨g, hg, rfl, hk⟩

lemma disjoint_single_iff :
    Disjoint (single g') (single g) ↔ g'.sid = g.sid → Disjoint g'.transactions g.transactions := by
  simp only [Set.disjoint_left, single, Set.mem_ofPred_eq, Prod.forall]
  constructor
  · intro h hsid k hk' hk
    exact h g'.sid k ⟨rfl, hk'⟩ ⟨hsid.symm, hk⟩
  · rintro h sid k ⟨rfl, hk'⟩ ⟨hsid, hk⟩
    exact h hsid.symm hk' hk

lemma transactions_eq_iUnion (s : GtidSet) : s.transactions = ⋃ g ∈ s.gtids, single g := by
  ext t
  simp only [transactions, single, Set.mem_ofPred_eq, Set.mem_iUnion, exists_prop]

lemma disjoint_transactions_iff {T : Set (String × ℤ)} :
    Disjoint s.transactions T ↔ ∀ g ∈ s.gtids, Disjoint (single g) T := by
  rw [transactions_eq_iUnion]
  simp only [Set.disjoint_iUnion_left]

/-! ### Merging one object -/

lemma mergeInto_eq_ok (hg' : Normal g'.intervals) (hg : Normal g.intervals) {merged : Gtid}
    (h : mergeInto g g' = .ok merged) :
    merged.sid = g'.sid ∧ Normal merged.intervals ∧
      single merged = if g'.sid = g.sid then single g' ∪ single g else single g' := by
  rw [mergeInto] at h
  split_ifs at h ⊢ with hsid
  · obtain ⟨-, -, hfold⟩ := Gtid.add_eq_ok h
    obtain ⟨hmsid, htransactions⟩ := Gtid.transactions_of_add hg'.toSpaced h
    refine ⟨hmsid, (Gtid.spec_of_foldlM_addInterval hg'.toSpaced hfold).2.2 hg' hg.lt, ?_⟩
    ext t
    simp only [single, hmsid, htransactions, hsid, Set.mem_ofPred_eq, Set.mem_union, and_or_left]
  · obtain rfl := Except.ok.inj h
    exact ⟨rfl, hg', rfl⟩

lemma sid_of_mergeInto {merged : Gtid} (h : mergeInto g g' = .ok merged) :
    merged.sid = g'.sid := by
  rw [mergeInto] at h
  split_ifs at h
  · exact (Gtid.add_eq_ok h).2.1
  · rw [← Except.ok.inj h]

lemma exists_mergeInto_iff (hg' : Normal g'.intervals) (hg : Normal g.intervals) :
    (∃ merged, mergeInto g g' = .ok merged) ↔ Disjoint (single g') (single g) := by
  rw [disjoint_single_iff]
  simp only [mergeInto]
  split_ifs with hsid
  · rw [Gtid.exists_add_iff hg' hg]
    simp [hsid]
  · simp [hsid]

/-- A merge is refused exactly if a transaction is there already. -/
lemma exists_mergeGtid_iff (hs : s.Proper) (hg : Normal g.intervals) :
    (∃ s', s.mergeGtid g = .ok s') ↔ Disjoint s.transactions (single g) := by
  have hiff : (∃ s', s.mergeGtid g = .ok s') ↔ ∃ new, s.gtids.mapM (mergeInto g) = .ok new := by
    simp only [mergeGtid, map_eq_ok_iff]
    constructor
    · rintro ⟨-, new, hnew, -⟩
      exact ⟨new, hnew⟩
    · rintro ⟨new, hnew⟩
      exact ⟨_, new, hnew, rfl⟩
  rw [hiff, exists_mapM_iff, disjoint_transactions_iff]
  exact forall₂_congr fun g' hg' => exists_mergeInto_iff (hs.normal g' hg') hg

/-- The objects that were there, with the one merged into that of its server. -/
lemma proper_merged {new : List Gtid} (hs : s.Proper) (hg : Normal g.intervals)
    (hnew : s.gtids.mapM (mergeInto g) = .ok new) :
    (⟨new⟩ : GtidSet).Proper ∧ (⟨new⟩ : GtidSet).sids = s.sids ∧
      (⟨new⟩ : GtidSet).transactions =
        s.transactions ∪ if g.sid ∈ s.sids then single g else ∅ := by
  have hsids : (⟨new⟩ : GtidSet).sids = s.sids :=
    map_eq_map_of_mapM (fun _ _ h => sid_of_mergeInto h) hnew
  refine ⟨⟨hsids ▸ hs.nodup, fun m hm => ?_⟩, hsids, ?_⟩
  · obtain ⟨g', hg', h⟩ := exists_of_mem_result hnew hm
    exact (mergeInto_eq_ok (hs.normal g' hg') hg h).2.1
  rw [transactions_eq_iUnion, transactions_eq_iUnion]
  ext t
  simp only [Set.mem_union, Set.mem_iUnion, exists_prop]
  constructor
  · rintro ⟨m, hm, ht⟩
    obtain ⟨g', hg', h⟩ := exists_of_mem_result hnew hm
    rw [(mergeInto_eq_ok (hs.normal g' hg') hg h).2.2] at ht
    split_ifs at ht with hsid
    · rw [if_pos (hsid ▸ List.mem_map_of_mem hg')]
      exact ht.imp_left fun ht => ⟨g', hg', ht⟩
    · exact Or.inl ⟨g', hg', ht⟩
  · rintro (⟨g', hg', ht⟩ | ht)
    · obtain ⟨m, hm, h⟩ := exists_result_of_mem hnew hg'
      refine ⟨m, hm, ?_⟩
      rw [(mergeInto_eq_ok (hs.normal g' hg') hg h).2.2]
      split_ifs
      · exact Or.inl ht
      · exact ht
    · -- the object is found in that of its server
      split_ifs at ht with hmem
      · obtain ⟨g', hg', hsid⟩ := List.mem_map.mp hmem
        obtain ⟨m, hm, h⟩ := exists_result_of_mem hnew hg'
        refine ⟨m, hm, ?_⟩
        rw [(mergeInto_eq_ok (hs.normal g' hg') hg h).2.2, if_pos hsid]
        exact Or.inr ht
      · exact absurd ht (Set.notMem_empty t)

lemma mergeGtid_spec (hs : s.Proper) (hg : Normal g.intervals) (h : s.mergeGtid g = .ok s') :
    s'.Proper ∧ s'.transactions = s.transactions ∪ single g := by
  obtain ⟨new, hnew, rfl⟩ := map_eq_ok_iff.mp h
  obtain ⟨hproper, hsids, htransactions⟩ := proper_merged hs hg hnew
  rw [sids] at hsids
  simp only at hsids
  rw [hsids]
  split_ifs with hmem
  · refine ⟨hproper, ?_⟩
    rw [htransactions, if_pos hmem]
  · -- its server had no object yet
    rw [if_neg hmem, Set.union_empty] at htransactions
    refine ⟨⟨?_, fun m hm => ?_⟩, ?_⟩
    · have happ : (⟨new ++ [g]⟩ : GtidSet).sids = s.sids ++ [g.sid] := by
        rw [← hsids]
        exact List.map_append
      rw [happ]
      exact hs.nodup.append (List.nodup_singleton _) (List.disjoint_singleton.mpr hmem)
    · rcases List.mem_append.mp hm with hm | hm
      · exact hproper.normal m hm
      · rwa [List.mem_singleton.mp hm]
    · rw [← htransactions, transactions_eq_iUnion, transactions_eq_iUnion]
      ext t
      simp only [List.mem_append, List.mem_singleton, Set.mem_iUnion, exists_prop, Set.mem_union,
        or_and_right, exists_or, exists_eq_left]

/-! ### Merging a set -/

lemma proper_empty : (⟨[]⟩ : GtidSet).Proper where
  nodup := List.nodup_nil
  normal := by simp

lemma transactions_cons {gs : List Gtid} :
    (⟨g :: gs⟩ : GtidSet).transactions = single g ∪ (⟨gs⟩ : GtidSet).transactions := by
  rw [transactions_eq_iUnion, transactions_eq_iUnion]
  ext t
  simp

lemma Proper.of_cons {gs : List Gtid} (h : (⟨g :: gs⟩ : GtidSet).Proper) :
    (⟨gs⟩ : GtidSet).Proper ∧ Disjoint (⟨gs⟩ : GtidSet).transactions (single g) := by
  obtain ⟨hnot, hnodup⟩ := List.nodup_cons.mp h.nodup
  refine ⟨⟨hnodup, fun m hm => h.normal m (List.mem_cons_of_mem g hm)⟩, ?_⟩
  rw [disjoint_transactions_iff]
  intro g' hg'
  rw [disjoint_single_iff]
  intro hsid
  exact absurd (List.mem_map.mpr ⟨g', hg', hsid⟩) hnot

lemma add_spec (hs : s.Proper) (ht : t.Proper) :
    ((∃ s', s.add t = .ok s') ↔ Disjoint s.transactions t.transactions) ∧
      ∀ s', s.add t = .ok s' → s'.Proper ∧ s'.transactions = s.transactions ∪ t.transactions := by
  obtain ⟨gs⟩ := t
  simp only [add]
  induction gs generalizing s with
  | nil =>
    have hempty : (⟨[]⟩ : GtidSet).transactions = ∅ := by simp [transactions]
    rw [hempty]
    refine ⟨iff_of_true ⟨s, rfl⟩ (Set.disjoint_empty _), fun s' h => ?_⟩
    obtain rfl := foldlM_nil_eq_ok_iff.mp h
    exact ⟨hs, by simp⟩
  | cons g gs ih =>
    obtain ⟨hgs, hdisjoint⟩ := ht.of_cons
    have hg := ht.normal g List.mem_cons_self
    rw [transactions_cons]
    simp only [foldlM_cons_eq_ok_iff, Set.disjoint_union_right]
    refine ⟨?_, ?_⟩
    · constructor
      · rintro ⟨s', s₁, hmerge, hrest⟩
        obtain ⟨hs₁, htransactions⟩ := mergeGtid_spec hs hg hmerge
        have hdis := (ih hs₁ hgs).1.mp ⟨s', hrest⟩
        rw [htransactions, Set.disjoint_union_left] at hdis
        exact ⟨(exists_mergeGtid_iff hs hg).mp ⟨s₁, hmerge⟩, hdis.1⟩
      · rintro ⟨hsg, hrest⟩
        obtain ⟨s₁, hmerge⟩ := (exists_mergeGtid_iff hs hg).mpr hsg
        obtain ⟨hs₁, htransactions⟩ := mergeGtid_spec hs hg hmerge
        obtain ⟨s', hs'⟩ := (ih hs₁ hgs).1.mpr
          (by rw [htransactions, Set.disjoint_union_left]; exact ⟨hrest, hdisjoint.symm⟩)
        exact ⟨s', s₁, hmerge, hs'⟩
    · rintro s' ⟨s₁, hmerge, hrest⟩
      obtain ⟨hs₁, htransactions⟩ := mergeGtid_spec hs hg hmerge
      obtain ⟨hs', htransactions'⟩ := (ih hs₁ hgs).2 s' hrest
      exact ⟨hs', by rw [htransactions', htransactions, Set.union_assoc]⟩

lemma Made.proper (h : Made s) : s.Proper := by
  induction h with
  | empty => exact proper_empty
  | mergeGtid _ hg h ih => exact (mergeGtid_spec ih hg.normal h).1
  | add _ _ h ihs iht => exact ((add_spec ihs iht).2 _ h).1

/-! ### Membership -/

lemma memGtid_iff (hs : s.Proper) (hg : Normal g.intervals) :
    s.memGtid g = true ↔ g.sid ∈ s.sids ∧ single g ⊆ s.transactions := by
  rw [memGtid, List.any_eq_true]
  constructor
  · rintro ⟨x, hx, hmem⟩
    obtain ⟨hsid, hsub⟩ := (Gtid.mem_iff (hs.normal x hx) hg).mp hmem
    refine ⟨hsid ▸ List.mem_map_of_mem hx, ?_⟩
    rintro t ⟨ht, hk⟩
    exact ⟨x, hx, hsid.trans ht, hsub hk⟩
  · rintro ⟨hsid, hsub⟩
    obtain ⟨x, hx, hxg⟩ := List.mem_map.mp hsid
    refine ⟨x, hx, (Gtid.mem_iff (hs.normal x hx) hg).mpr ⟨hxg, fun k hk => ?_⟩⟩
    have hmem : (g.sid, k) ∈ s.transactions := hsub ⟨rfl, hk⟩
    rw [← hxg] at hmem
    exact (mem_transactions_of_mem hs hx).mp hmem

/-- A set is in another only if each of its servers has the same transactions there. -/
lemma mem_iff (hs : s.Proper) (ht : t.Proper) :
    s.mem t = true ↔ ∀ sid ∈ t.sids, sid ∈ s.sids ∧
      ∀ k, (sid, k) ∈ s.transactions ↔ (sid, k) ∈ t.transactions := by
  rw [mem, List.all_eq_true, sids, List.forall_mem_map]
  refine forall₂_congr fun g hg => ?_
  rw [List.any_eq_true]
  constructor
  · rintro ⟨x, hx, heq⟩
    obtain ⟨hsid, htransactions⟩ := (Gtid.eq_iff (hs.normal x hx) (ht.normal g hg)).mp heq
    refine ⟨hsid ▸ List.mem_map_of_mem hx, fun k => ?_⟩
    rw [mem_transactions_of_mem ht hg, ← hsid, mem_transactions_of_mem hs hx, htransactions]
  · rintro ⟨hsid, hiff⟩
    obtain ⟨x, hx, hxg⟩ := List.mem_map.mp hsid
    refine ⟨x, hx, (Gtid.eq_iff (hs.normal x hx) (ht.normal g hg)).mpr ⟨hxg, ?_⟩⟩
    ext k
    rw [← mem_transactions_of_mem hs hx, hxg, hiff k, mem_transactions_of_mem ht hg]

end

theorem refines_of_additions (s t : GtidSet) (g : Gtid) (hs : Made s) (ht : Made t) (hg : g.Made) :
    s.sids.Nodup ∧
    ((∃ s', s.mergeGtid g = .ok s') ↔ Disjoint s.transactions (single g)) ∧
    (∀ s', s.mergeGtid g = .ok s' → s'.transactions = s.transactions ∪ single g) ∧
    ((∃ s', s.add t = .ok s') ↔ Disjoint s.transactions t.transactions) ∧
    (∀ s', s.add t = .ok s' → s'.transactions = s.transactions ∪ t.transactions) ∧
    (s.memGtid g = true ↔ g.sid ∈ s.sids ∧ single g ⊆ s.transactions) ∧
    (s.mem t = true ↔ ∀ sid ∈ t.sids, sid ∈ s.sids ∧
      ∀ k, (sid, k) ∈ s.transactions ↔ (sid, k) ∈ t.transactions) := by
  have hadd := add_spec hs.proper ht.proper
  exact ⟨hs.proper.nodup, exists_mergeGtid_iff hs.proper hg.normal,
    fun s' h => (mergeGtid_spec hs.proper hg.normal h).2, hadd.1, fun s' h => (hadd.2 s' h).2,
    memGtid_iff hs.proper hg.normal, mem_iff hs.proper ht.proper⟩

theorem refines_of_additions_gapped :
    Disjoint (⟨[Gtid.gapped]⟩ : GtidSet).transactions (⟨[Gtid.filler]⟩ : GtidSet).transactions := by
  have hs : Made ⟨[Gtid.gapped]⟩ := Made.mergeGtid Made.empty Gtid.made_gapped rfl
  have ht : Made ⟨[Gtid.filler]⟩ := Made.mergeGtid Made.empty Gtid.made_filler rfl
  have hadd : (⟨[Gtid.gapped]⟩ : GtidSet).add ⟨[Gtid.filler]⟩ =
      .ok ⟨[⟨Gtid.gapped.sid, [(1, 5)]⟩]⟩ := by decide
  exact (refines_of_additions _ _ _ hs ht Gtid.made_filler).2.2.2.1.mp ⟨_, hadd⟩

/-- A part of a set is not in it. -/
example : (⟨[⟨Gtid.gapped.sid, [(1, 5)]⟩]⟩ : GtidSet).mem ⟨[Gtid.filler]⟩ = false := by decide

end GtidSet

end MysqlSync.Python
