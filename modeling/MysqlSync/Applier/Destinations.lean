import MysqlSync.Checkpoint.Merge
import MysqlSync.Applier.Gtid
import MysqlSync.Applier.Table

/-!
# Destinations at different checkpoints

All destinations are fed the same stream, which begins after the merge of their checkpoint maps.
A destination that is ahead of the merge skips what its own map covers and takes up the stream
where its map ends. The invariant is `CaughtUp`: of every server the stream so far holds the
numbers that follow the merged one, and the destination's number is the larger of its initial
one and the last of these.
-/

namespace MysqlSync

open MysqlApplier

/-- The maps hold the same UUIDs. -/
def SameUUIDs (gsss : List GtidSetsEntries) : Prop :=
  ∀ d ∈ gsss, ∀ d' ∈ gsss, ∀ u, u ∈ d ↔ u ∈ d'

/-- The transactions of every server are numbered from 1 on, in increasing order. -/
def Numbered (history : List MysqlOperationGTID) : Prop :=
  (∀ o ∈ history, 1 ≤ o.trxID) ∧ ∀ u, ∃ count, numbers u history = List.range' 1 count

/-- The transactions a map does not cover. -/
def missing (m : GtidSetsMap) (history : List MysqlOperationGTID) : List MysqlOperationGTID :=
  history.filter fun o => ¬ m.Covers o.serverUUID o.trxID.toUInt64

section

variable {gsss : List GtidSetsEntries} {history : List MysqlOperationGTID}
  {m : GtidSetsMap} {o : MysqlOperationGTID} {u : String}

lemma SameUUIDs.agreeOnUUIDs (h : SameUUIDs gsss) : AgreeOnUUIDs gsss := by
  refine .inr fun u hnone => .inl fun b hb => ?_
  obtain ⟨d, hd, hdu⟩ := mem_heldNumbers.mp hnone
  obtain ⟨d', hd', rfl⟩ := mem_heldNumbers.mp hb
  rw [AList.lookup_eq_none] at hdu ⊢
  rwa [← h d hd d' hd' u]

/-- For numbers from 1 on, covering is a matter of the last number. -/
lemma GtidSetsMap.covers_iff (hpos : 1 ≤ o.trxID) :
    m.Covers o.serverUUID o.trxID.toUInt64 ↔ o.number ≤ m.last o.serverUUID := by
  constructor
  · rintro ⟨last, hlast, hle⟩
    rw [GtidSetsMap.last_of_lookup hlast]
    exact UInt64.le_iff_toNat_le.mp hle
  · intro hle
    cases hlook : m.lookup o.serverUUID with
    | none =>
      rw [GtidSetsMap.last_of_lookup_none hlook] at hle
      have hone := (MysqlOperationGTID.number_bounds hpos).1
      omega
    | some last =>
      rw [GtidSetsMap.last_of_lookup hlook] at hle
      exact ⟨last, hlook, UInt64.le_iff_toNat_le.mpr hle⟩

/-- A prefix of consecutive numbers is consecutive. -/
lemma eq_range'_of_isPrefix {l : List ℕ} {s n : ℕ} (h : l <+: List.range' s n) :
    l = List.range' s l.length := by
  apply List.ext_getElem (by simp)
  intro i hi hi'
  rw [h.getElem hi]
  simp

lemma filter_range'_one (a n : ℕ) :
    (List.range' 1 n).filter (a < ·) = List.range' (a + 1) (n - a) := by
  induction n with
  | zero => simp
  | succ n ih =>
    rw [List.range'_concat, List.filter_append, ih]
    by_cases ha : a ≤ n
    · have hlen : n + 1 - a = (n - a) + 1 := by omega
      have hlast : a + 1 + 1 * (n - a) = 1 + 1 * n := by omega
      have hlt : a < 1 + n := by omega
      rw [hlen, List.range'_concat, hlast]
      simp [hlt]
    · have hlen : n + 1 - a = n - a := by omega
      have hlt : ¬ a < 1 + n := by omega
      rw [hlen]
      simp [hlt]

lemma numbers_missing (hpos : ∀ o ∈ history, 1 ≤ o.trxID) (u : String) :
    numbers u (missing m history) = (numbers u history).filter (m.last u < ·) := by
  rw [numbers, numbers, missing, List.filter_filter, List.filter_map, List.filter_filter]
  congr 1
  refine List.filter_congr fun o ho => ?_
  by_cases hu : o.serverUUID = u
  · subst hu
    simp [GtidSetsMap.covers_iff (hpos o ho)]
  · simp [hu]

lemma Numbered.numbers_missing (h : Numbered history) (m : GtidSetsMap) (u : String) :
    ∃ count, numbers u (missing m history) = List.range' (m.last u + 1) count := by
  obtain ⟨count, hcount⟩ := h.2 u
  rw [MysqlSync.numbers_missing h.1, hcount, filter_range'_one]
  exact ⟨_, rfl⟩

/-- What one map leaves of what a lower map leaves. -/
lemma missing_missing {m' : GtidSetsMap} (hpos : ∀ o ∈ history, 1 ≤ o.trxID)
    (hle : ∀ u, m.last u ≤ m'.last u) : missing m' (missing m history) = missing m' history := by
  rw [missing, missing, missing, List.filter_filter]
  refine List.filter_congr fun o ho => ?_
  simp only [GtidSetsMap.covers_iff (hpos o ho), not_le, Bool.and_eq_left_iff_imp,
    decide_eq_true_eq]
  exact fun hlt => lt_of_le_of_lt (hle o.serverUUID) hlt

end

/-! ### One destination -/

/-- The stream goes on where `merged` ends, for every server. -/
def Resumes (merged : GtidSetsMap) (gtids : List MysqlOperationGTID) : Prop :=
  (∀ o ∈ gtids, 1 ≤ o.trxID) ∧
    ∀ u, numbers u gtids = List.range' (merged.last u + 1) (numbers u gtids).length

/-- A destination that started from `init` after the GTIDs `gtids` of the stream. -/
structure CaughtUp (merged init : GtidSetsMap) (gtids accepted : List MysqlOperationGTID)
    (m : GtidSetsMap) : Prop where
  accepted : accepted = missing init gtids
  last : ∀ u, m.last u = max (init.last u) (merged.last u + (numbers u gtids).length)

section

variable {conf : Settings} {env : Env} {merged init m : GtidSetsMap} {ma : MysqlApplier}
  {gtids l : List MysqlOperationGTID} {o : MysqlOperationGTID} {op : MysqlOperation}

lemma Resumes.of_isPrefix {gtids' : List MysqlOperationGTID} (h : Resumes merged gtids)
    (hpre : gtids' <+: gtids) : Resumes merged gtids' := by
  refine ⟨fun o ho => h.1 o (hpre.subset ho), fun u => ?_⟩
  apply eq_range'_of_isPrefix (n := (numbers u gtids).length)
  rw [← h.2 u]
  obtain ⟨rest, rfl⟩ := hpre
  rw [numbers_append]
  exact List.prefix_append _ _

/-- The number of the next transaction. -/
lemma Resumes.number_eq (h : Resumes merged (gtids ++ [o])) :
    o.number = merged.last o.serverUUID + (numbers o.serverUUID gtids).length + 1 := by
  have hall := h.2 o.serverUUID
  rw [numbers_append, numbers_singleton_self, List.length_append, List.length_singleton,
    List.range'_concat] at hall
  have hlast := List.append_inj_right' hall rfl
  rw [List.singleton_inj] at hlast
  rw [hlast]
  omega

lemma caughtUp_refl (hle : ∀ u, merged.last u ≤ init.last u) : CaughtUp merged init [] [] init := by
  refine ⟨rfl, fun u => ?_⟩
  have hu := hle u
  simp only [numbers, List.filter_nil, List.map_nil, List.length_nil]
  omega

/-- A transaction the initial map covers is still covered, and leaves everything as it is. -/
lemma CaughtUp.skip (h : CaughtUp merged init gtids l m) (hres : Resumes merged (gtids ++ [o]))
    (hcov : init.Covers o.serverUUID o.trxID.toUInt64) :
    CaughtUp merged init (gtids ++ [o]) l m := by
  have hpos : 1 ≤ o.trxID := hres.1 o (by simp)
  refine ⟨?_, fun u => ?_⟩
  · rw [h.accepted, missing, missing, List.filter_append]
    simp [hcov]
  · rw [h.last u, numbers_append]
    by_cases hu : u = o.serverUUID
    · subst hu
      have hle := (GtidSetsMap.covers_iff hpos).mp hcov
      rw [hres.number_eq] at hle
      rw [numbers_singleton_self, List.length_append, List.length_singleton]
      omega
    · rw [numbers_singleton_of_ne hu, List.append_nil]

/-- A transaction the initial map does not cover is the next one for the current map. -/
lemma CaughtUp.accept (h : CaughtUp merged init gtids l m) (hres : Resumes merged (gtids ++ [o]))
    (hcov : ¬ init.Covers o.serverUUID o.trxID.toUInt64) :
    CaughtUp merged init (gtids ++ [o]) (l ++ [o])
      (Finmap.insert o.serverUUID o.trxID.toUInt64 m) := by
  have hpos : 1 ≤ o.trxID := hres.1 o (by simp)
  refine ⟨?_, fun u => ?_⟩
  · rw [h.accepted, missing, missing, List.filter_append]
    simp [hcov]
  · rw [numbers_append]
    by_cases hu : u = o.serverUUID
    · subst hu
      have hlast : GtidSetsMap.last (Finmap.insert o.serverUUID o.trxID.toUInt64 m)
          o.serverUUID = o.number := GtidSetsMap.last_insert_self _
      rw [GtidSetsMap.covers_iff hpos, hres.number_eq] at hcov
      rw [hlast, hres.number_eq, numbers_singleton_self, List.length_append,
        List.length_singleton]
      omega
    · rw [GtidSetsMap.last_insert_of_ne hu, h.last u, numbers_singleton_of_ne hu, List.append_nil]

/-- The current map covers the next transaction exactly when the initial one does. -/
lemma CaughtUp.covers_iff (h : CaughtUp merged init gtids l m)
    (hres : Resumes merged (gtids ++ [o])) :
    m.Covers o.serverUUID o.trxID.toUInt64 ↔ init.Covers o.serverUUID o.trxID.toUInt64 := by
  have hpos : 1 ≤ o.trxID := hres.1 o (by simp)
  rw [GtidSetsMap.covers_iff hpos, GtidSetsMap.covers_iff hpos, h.last, hres.number_eq]
  omega

lemma CaughtUp.not_misses (h : CaughtUp merged init gtids l m)
    (hres : Resumes merged (gtids ++ [o])) : ¬ Misses m o := by
  rintro ⟨last, hlast, hlt, hgap⟩
  have hpos : 1 ≤ o.trxID := hres.1 o (by simp)
  have hbound := (MysqlOperationGTID.number_bounds hpos).2
  have hm := h.last o.serverUUID
  rw [GtidSetsMap.last_of_lookup hlast] at hm
  have hnum := hres.number_eq
  have hlt' : last.toNat < o.number := UInt64.lt_iff_toNat_lt.mp hlt
  have hgap' : (last + 2).toNat ≤ o.number := UInt64.le_iff_toNat_le.mp hgap
  -- the number fits in 63 bits, so the sum does not wrap
  have hsum : (last + 2).toNat = last.toNat + 2 := by
    rw [UInt64.toNat_add]
    exact Nat.mod_eq_of_lt (by simp; omega)
  omega

/-- One turn that does not stop. -/
lemma CaughtUp.start {ma' : MysqlApplier} (h : CaughtUp merged init gtids l ma.ckpt.gtidSetsMap)
    (hres : Resumes merged (gtids ++ gtidsOf [op]))
    (hstart : MysqlApplier.start conf env op ma = (.ok (), ma')) :
    CaughtUp merged init (gtids ++ gtidsOf [op]) (l ++ (accepts conf env op ma).toList)
        ma'.ckpt.gtidSetsMap ∧
      ∀ o, op = .gtid o →
        (ma'.gtidSkip = true ↔ init.Covers o.serverUUID o.trxID.toUInt64) := by
  have hacc := accounted_start conf env op ma
  rw [hstart] at hacc
  cases hacc with
  | other hop hk =>
    have hnone : accepts conf env op ma = none := by
      cases op <;> simp_all [accepts, MysqlOperation.isGTID]
    rw [gtidsOf_singleton_of_not hop, hnone, Option.toList_none, List.append_nil, List.append_nil,
      hk.gtidSetsMap]
    refine ⟨h, ?_⟩
    rintro o rfl
    simp [MysqlOperation.isGTID] at hop
  | skipped o hop hcov hok hskip hmap =>
    subst hop
    have hnone : accepts conf env (.gtid o) ma = none := by simp_all [accepts]
    have hcov' := (h.covers_iff hres).mp hcov
    rw [hnone, Option.toList_none, List.append_nil, hmap]
    refine ⟨h.skip hres hcov', ?_⟩
    rintro o' ho'
    cases ho'
    exact iff_of_true hskip hcov'
  | accepted o hop hcont hok hskip hmap =>
    subst hop
    have hsome : accepts conf env (.gtid o) ma = some o := by simp_all [accepts]
    have hcov' : ¬ init.Covers o.serverUUID o.trxID.toUInt64 :=
      fun hcov => hcont.not_covers ((h.covers_iff hres).mpr hcov)
    rw [hsome, Option.toList_some, hmap]
    refine ⟨h.accept hres hcov', ?_⟩
    rintro o' ho'
    cases ho'
    exact iff_of_false (Bool.eq_false_iff.mp hskip) hcov'
  | missed o hop last hlast hlt hgap herr hmap => simp at herr
  | stopped o hop e herr hk => simp at herr

/-- A turn that stops does not stop on a missing GTID. -/
lemma CaughtUp.start_error {ma' : MysqlApplier} {e : Stop}
    (h : CaughtUp merged init gtids l ma.ckpt.gtidSetsMap)
    (hres : Resumes merged (gtids ++ gtidsOf [op]))
    (hstart : MysqlApplier.start conf env op ma = (.error e, ma')) : e.isGtidMiss = false := by
  have hacc := accounted_start conf env op ma
  rw [hstart] at hacc
  cases hacc with
  | other hop hk => exact hk.error e rfl
  | skipped o hop hcov hok hskip hmap => simp at hok
  | accepted o hop hcont hok hskip hmap => simp at hok
  | missed o hop last hlast hlt hgap herr hmap =>
    subst hop
    exact absurd ⟨last, hlast, hlt, hgap⟩ (h.not_misses hres)
  | stopped o hop e' herr hk => exact hk.error e rfl

/-! ### Whole runs -/

variable {ckpt : Checkpoint} {as opers : List MysqlOperation}

lemma Resumes.of_concat (hres : Resumes merged (gtidsOf opers)) (has : as ++ [op] <+: opers) :
    Resumes merged (gtidsOf as ++ gtidsOf [op]) := by
  rw [← gtidsOf_append]
  exact hres.of_isPrefix (gtidsOf_isPrefix has)

lemma caughtUp_run (hle : ∀ u, merged.last u ≤ ckpt.gtidSetsMap.last u)
    (hres : Resumes merged (gtidsOf opers)) (has : as <+: opers)
    (hrun : run conf env as (newMysqlApplier ckpt) = (.ok (), ma)) :
    CaughtUp merged ckpt.gtidSetsMap (gtidsOf as) (accepted conf env (newMysqlApplier ckpt) as)
      ma.ckpt.gtidSetsMap := by
  induction as using List.reverseRecOn generalizing ma with
  | nil =>
    obtain ⟨-, rfl⟩ := Prod.mk.inj hrun
    exact caughtUp_refl hle
  | append_singleton as op ih =>
    rcases has' : run conf env as (newMysqlApplier ckpt) with ⟨e | ⟨⟩, ma'⟩
    · rw [run, Prog.forEach_append_of_error has'] at hrun
      simp at hrun
    · rw [run, Prog.forEach_concat_of_ok has'] at hrun
      have hpre : as <+: opers := (List.prefix_append as [op]).trans has
      rw [accepted_concat_of_ok has', gtidsOf_append]
      exact ((ih hpre has').start (hres.of_concat has) hrun).1

lemma not_gtidMiss_run {e : Stop} (hle : ∀ u, merged.last u ≤ ckpt.gtidSetsMap.last u)
    (hres : Resumes merged (gtidsOf opers)) (has : as <+: opers)
    (hrun : run conf env as (newMysqlApplier ckpt) = (.error e, ma)) : e.isGtidMiss = false := by
  induction as using List.reverseRecOn with
  | nil => simp [run] at hrun
  | append_singleton as op ih =>
    have hpre : as <+: opers := (List.prefix_append as [op]).trans has
    rcases has' : run conf env as (newMysqlApplier ckpt) with ⟨e' | ⟨⟩, ma'⟩
    · rw [run, Prog.forEach_append_of_error has'] at hrun
      cases hrun
      exact ih hpre has'
    · rw [run, Prog.forEach_concat_of_ok has'] at hrun
      exact (caughtUp_run hle hres hpre has').start_error (hres.of_concat has) hrun

/-- The last number of a server in the stream, `0` if there is none. -/
def lastNumber (u : String) (gtids : List MysqlOperationGTID) : ℕ :=
  (numbers u gtids).getLast?.getD 0

lemma CaughtUp.last_eq (h : CaughtUp merged init gtids l m) (hres : Resumes merged gtids)
    (hle : ∀ u, merged.last u ≤ init.last u) (u : String) :
    m.last u = max (init.last u) (lastNumber u gtids) := by
  have hu := hle u
  rw [h.last u, lastNumber]
  rcases hlen : (numbers u gtids).length with _ | count
  · rw [List.length_eq_zero_iff.mp hlen]
    simp only [List.getLast?_nil, Option.getD_none]
    omega
  · rw [hres.2 u, hlen, List.range'_concat, List.getLast?_concat, Option.getD_some]
    omega

end

/-- Destinations at different checkpoints each apply exactly their own missing suffix of the
history: no GTID is missed, a transaction is skipped exactly when the destination's own map covers
it, a run to the end of the stream accepts the others once and in order and leaves the larger of
the initial and the last number, and a stream the state table accepts is run to its end. -/
theorem applies_missing_suffix {gsss : List GtidSetsEntries} (hsame : SameUUIDs gsss)
    {history : List MysqlOperationGTID} (hnum : Numbered history) {opers : List MysqlOperation}
    (hstream : gtidsOf opers = missing (mergeGtidSetss gsss) history)
    {gss : GtidSetsEntries} (hgss : gss ∈ gsss) {ckpt : Checkpoint}
    (hckpt : ckpt.gtidSetsMap = gss.toFinmap) (conf : Settings) (env : Env) :
    (∀ e ma, run conf env opers (newMysqlApplier ckpt) = (.error e, ma) → e.isGtidMiss = false) ∧
    (∀ as o ma, as ++ [.gtid o] <+: opers →
      run conf env (as ++ [.gtid o]) (newMysqlApplier ckpt) = (.ok (), ma) →
      (ma.gtidSkip = true ↔ ckpt.gtidSetsMap.Covers o.serverUUID o.trxID.toUInt64)) ∧
    (∀ ma, run conf env opers (newMysqlApplier ckpt) = (.ok (), ma) →
      accepted conf env (newMysqlApplier ckpt) opers = missing ckpt.gtidSetsMap history ∧
      ∀ u, ma.ckpt.gtidSetsMap.last u =
        max (ckpt.gtidSetsMap.last u) (lastNumber u (gtidsOf opers))) ∧
    (env.Succeeds → Regular opers → (∀ op ∈ opers, ∃ st, statement conf op = .ok st) →
      Returned (run conf env opers (newMysqlApplier ckpt))) := by
  have hle (u : String) : (mergeGtidSetss gsss).last u ≤ ckpt.gtidSetsMap.last u := by
    rw [hckpt]
    exact last_mergeGtidSetss_le hsame.agreeOnUUIDs hgss u
  have hres : Resumes (mergeGtidSetss gsss) (gtidsOf opers) := by
    rw [hstream]
    refine ⟨fun o ho => hnum.1 o (List.mem_of_mem_filter ho), fun u => ?_⟩
    obtain ⟨count, hcount⟩ := hnum.numbers_missing (mergeGtidSetss gsss) u
    rw [hcount, List.length_range']
  refine ⟨?_, ?_, ?_, ?_⟩
  · intro e ma hrun
    exact not_gtidMiss_run hle hres (List.prefix_refl opers) hrun
  · intro as o ma has hrun
    rcases has' : run conf env as (newMysqlApplier ckpt) with ⟨e | ⟨⟩, ma'⟩
    · rw [run, Prog.forEach_append_of_error has'] at hrun
      simp at hrun
    · rw [run, Prog.forEach_concat_of_ok has'] at hrun
      have hpre : as <+: opers := (List.prefix_append as [.gtid o]).trans has
      exact ((caughtUp_run hle hres hpre has').start (hres.of_concat has) hrun).2 o rfl
  · intro ma hrun
    have hcaught := caughtUp_run hle hres (List.prefix_refl opers) hrun
    refine ⟨?_, hcaught.last_eq hres hle⟩
    rw [hcaught.accepted, hstream, missing_missing hnum.1 hle]
  · intro henv hreg hst
    refine hreg.run_returns henv hst fun as o ma has hrun => ?_
    have hpre : as <+: opers := (List.prefix_append as [.gtid o]).trans has
    exact (caughtUp_run hle hres hpre hrun).not_misses (hres.of_concat has)

/-- Two destinations at `u:1-1` and `u:1-2` are fed the transactions 2 and 3; the second one
accepts only the last. -/
theorem applies_missing_suffix_twoFrom_two :
    accepted Settings.unrestricted (fun _ _ => .ok)
        (newMysqlApplier ⟨AList.toFinmap (AList.singleton "u" 2), "", 0⟩) (twoFrom 2) =
      [⟨2, 1, 11, "u", 3⟩] := by
  have hsame : SameUUIDs [AList.singleton "u" 1, AList.singleton "u" 2] := by
    intro d hd d' hd' v
    simp only [List.mem_cons, List.not_mem_nil, or_false] at hd hd'
    rcases hd with rfl | rfl <;> rcases hd' with rfl | rfl <;> simp [AList.mem_keys]
  have hnum : Numbered [⟨0, 1, 9, "u", 1⟩, ⟨1, 1, 10, "u", 2⟩, ⟨2, 1, 11, "u", 3⟩] := by
    refine ⟨by decide, fun v => ?_⟩
    by_cases hv : v = "u"
    · subst hv
      exact ⟨3, by decide⟩
    · exact ⟨0, by simp [numbers, Ne.symm hv]⟩
  have hstream : gtidsOf (twoFrom 2) =
      missing (mergeGtidSetss [AList.singleton "u" 1, AList.singleton "u" 2])
        [⟨0, 1, 9, "u", 1⟩, ⟨1, 1, 10, "u", 2⟩, ⟨2, 1, 11, "u", 3⟩] := by decide
  have hgss : (AList.singleton "u" 2 : GtidSetsEntries) ∈
      [AList.singleton "u" 1, AList.singleton "u" 2] :=
    List.mem_cons_of_mem _ List.mem_cons_self
  have hckpt : (⟨AList.toFinmap (AList.singleton "u" 2), "", 0⟩ : Checkpoint).gtidSetsMap =
      AList.toFinmap (AList.singleton "u" 2) := rfl
  have hall := applies_missing_suffix hsame hnum hstream hgss hckpt Settings.unrestricted
    (fun _ _ => .ok)
  have hst : ∀ op ∈ twoFrom 2, ∃ st, statement Settings.unrestricted op = .ok st := by
    simp only [twoFrom, List.mem_cons, List.not_mem_nil, or_false]
    rintro op (rfl | rfl | rfl | rfl | rfl | rfl) <;> exact ⟨none, rfl⟩
  obtain ⟨ma, hrun⟩ := hall.2.2.2 (fun _ _ _ => rfl) (by decide) hst
  rw [(hall.2.2.1 ma hrun).1]
  decide

end MysqlSync
