import MysqlSync.Applier.Gtid
import MysqlSync.Applier.Durability
import MysqlSync.Checkpoint.Text

/-!
# Lifetimes of a destination

A destination is started, runs and ends, any number of times. Each lifetime starts from what the
ones before it stored in Consul; it may end between any two events of its log, and the writes it
makes may fail. The map only grows in a turn (`below_start`) and a turn writes the map it begins
with, so what one lifetime stores ascends (`Ascending`); the next one reads the last of it back.
-/

namespace MysqlSync

open MysqlApplier

/-! ### The order of the maps -/

/-- No UUID is lost and no number is lowered from `m` to `m'`. -/
def GtidSetsMap.Below (m m' : GtidSetsMap) : Prop :=
  ∀ u n, m.lookup u = some n → ∃ n', m'.lookup u = some n' ∧ n ≤ n'

section

variable {m m' m'' : GtidSetsMap}

lemma GtidSetsMap.Below.refl (m : GtidSetsMap) : m.Below m :=
  fun _ n h => ⟨n, h, UInt64.le_refl n⟩

instance : Std.Refl GtidSetsMap.Below := ⟨GtidSetsMap.Below.refl⟩

lemma GtidSetsMap.Below.trans (h : m.Below m') (h' : m'.Below m'') : m.Below m'' := by
  intro u n hn
  obtain ⟨n', hn', hle⟩ := h u n hn
  obtain ⟨n'', hn'', hle'⟩ := h' u n' hn'
  exact ⟨n'', hn'', UInt64.le_trans hle hle'⟩

lemma GtidSetsMap.empty_below (m : GtidSetsMap) : GtidSetsMap.Below ∅ m := by
  intro u n h
  simp at h

/-- An accepted number is above the one it replaces. -/
lemma GtidSetsMap.below_insert {u : String} {n : UInt64} (h : ¬ m.Covers u n) :
    m.Below (Finmap.insert u n m) := by
  intro u' n' hn'
  exact GtidSetsMap.Covers.insert ⟨n', hn', UInt64.le_refl n'⟩ h

end

/-! ### One lifetime -/

/-- The map an event stores, if it is a write that succeeds. -/
def Event.stored : Event → Option GtidSetsMap
  | .call (.putGtidsets m) .ok => some m
  | _ => none

def storedMaps (log : List Event) : List GtidSetsMap := log.filterMap Event.stored

section

variable {conf : Settings} {env : Env}

variable (conf env) in
/-- A turn only lets the map grow, and the UUID it may add is that of a GTID operation. -/
lemma below_start (op : MysqlOperation) (ma : MysqlApplier) :
    ma.ckpt.gtidSetsMap.Below (MysqlApplier.start conf env op ma).2.ckpt.gtidSetsMap ∧
      ((∀ o, op = .gtid o → Separable o.serverUUID) → ma.ckpt.gtidSetsMap.Separable →
        GtidSetsMap.Separable (MysqlApplier.start conf env op ma).2.ckpt.gtidSetsMap) := by
  have hsame {m : GtidSetsMap} (h : m = ma.ckpt.gtidSetsMap) : ma.ckpt.gtidSetsMap.Below m ∧
      ((∀ o, op = .gtid o → Separable o.serverUUID) → ma.ckpt.gtidSetsMap.Separable →
        m.Separable) := by
    subst h
    exact ⟨.refl _, fun _ h => h⟩
  cases accounted_start conf env op ma with
  | other hop h => exact hsame h.gtidSetsMap
  | skipped o hop hcov hok hskip hmap => exact hsame hmap
  | missed o hop last hlast hlt hgap herr hmap => exact hsame hmap
  | stopped o hop e herr h => exact hsame h.gtidSetsMap
  | accepted o hop hcont hok hskip hmap =>
    rw [hmap]
    refine ⟨GtidSetsMap.below_insert hcont.not_covers, fun hsep h u hu => ?_⟩
    rcases Finmap.mem_insert.mp hu with rfl | hu
    · exact hsep o hop
    · exact h u hu

/-- What is stored ascends from `m₀` to the map the applier holds. -/
structure Ascending (m₀ : GtidSetsMap) (ma : MysqlApplier) : Prop where
  pairwise : (storedMaps ma.log).Pairwise GtidSetsMap.Below
  above : ∀ m ∈ storedMaps ma.log, m₀.Below m
  below : ∀ m ∈ storedMaps ma.log, m.Below ma.ckpt.gtidSetsMap
  separable : ∀ m ∈ storedMaps ma.log, m.Separable
  above_held : m₀.Below ma.ckpt.gtidSetsMap
  separable_held : ma.ckpt.gtidSetsMap.Separable

variable {m₀ : GtidSetsMap} {ma : MysqlApplier} {op : MysqlOperation}

lemma eq_of_mem_storedMaps {written : GtidSetsMap} {l : List Event}
    (h : ∀ e ∈ l, e.isWrite = true → ∃ r, e = .call (.putGtidsets written) r) :
    ∀ m ∈ storedMaps l, m = written := by
  intro m hm
  obtain ⟨e, he, hstored⟩ := List.mem_filterMap.mp hm
  unfold Event.stored at hstored
  split at hstored
  · obtain ⟨r, hr⟩ := h _ he rfl
    cases hr
    exact (Option.some.inj hstored).symm
  · cases hstored

lemma Ascending.start (h : Ascending m₀ ma)
    (hop : ∀ o, op = .gtid o → Separable o.serverUUID) :
    Ascending m₀ (MysqlApplier.start conf env op ma).2 := by
  obtain ⟨hgrows, hsep⟩ := below_start conf env op ma
  obtain ⟨l, hlog, hwrites⟩ := writesOnly_start conf env op ma
  have hl := eq_of_mem_storedMaps hwrites
  have hstored : storedMaps (MysqlApplier.start conf env op ma).2.log =
      storedMaps ma.log ++ storedMaps l := by
    rw [hlog, storedMaps, List.filterMap_append]
    rfl
  refine ⟨?_, ?_, ?_, ?_, h.above_held.trans hgrows, hsep hop h.separable_held⟩
  · rw [hstored, List.pairwise_append]
    refine ⟨h.pairwise, ?_, ?_⟩
    · refine List.pairwise_of_forall_mem_list fun m hm m' hm' => ?_
      rw [hl m hm, hl m' hm']
      exact .refl _
    · intro m hm m' hm'
      rw [hl m' hm']
      exact h.below m hm
  all_goals
    intro m hm
    rw [hstored] at hm
    rcases List.mem_append.mp hm with hm | hm
  · exact h.above m hm
  · rw [hl m hm]
    exact h.above_held
  · exact (h.below m hm).trans hgrows
  · rw [hl m hm]
    exact hgrows
  · exact h.separable m hm
  · rw [hl m hm]
    exact h.separable_held

variable (conf env) in
/-- Whatever a run does, what it stores ascends from the map it starts with. -/
lemma ascending_run {ckpt : Checkpoint} (hckpt : ckpt.gtidSetsMap.Separable)
    {opers : List MysqlOperation} (hopers : ∀ o, .gtid o ∈ opers → Separable o.serverUUID) :
    Ascending ckpt.gtidSetsMap (run conf env opers (newMysqlApplier ckpt)).2 := by
  revert hopers
  refine Prog.forEach_induction (P := fun as _ (ma : MysqlApplier) =>
    (∀ o, .gtid o ∈ as → Separable o.serverUUID) → Ascending ckpt.gtidSetsMap ma) ?_ ?_ ?_ opers
  · intro _
    exact ⟨.nil, by simp [newMysqlApplier, storedMaps], by simp [newMysqlApplier, storedMaps],
      by simp [newMysqlApplier, storedMaps], .refl _, hckpt⟩
  · intro as op ma hrun ih hopers
    have has := ih fun o ho => hopers o (List.mem_append_left [op] ho)
    exact has.start fun o ho => hopers o (by simp [ho])
  · intro as op e ma hrun ih hopers
    exact ih fun o ho => hopers o (List.mem_append_left [op] ho)

end

structure Lifetime where
  conf : Settings
  env : Env
  initGtidSetsRangeStr : String
  /-- The error of reading the stored map, if reading fails. -/
  readError : Option String
  opers : List MysqlOperation
  /-- How many events happen before the process ends. -/
  length : ℕ

namespace Lifetime

/-- What happens in a lifetime that finds `value` in Consul. -/
def log (life : Lifetime) (value : Option String) : List Event :=
  let p := life.readError.elim (.ok value) Except.error
  match Checkpoint.newCheckpoint.initStartupGtidSetsMap p life.initGtidSetsRangeStr with
  | .error _ => []
  | .ok ckpt => (run life.conf life.env life.opers (newMysqlApplier ckpt)).2.log.take life.length

/-- The values a lifetime stores, in order. -/
def written (life : Lifetime) (value : Option String) : List String :=
  (storedMaps (life.log value)).map getGtidSetsRangeStrFromGtidSetsMap

/-- Every GTID it consumes has a UUID without separators. -/
def Separable (life : Lifetime) : Prop :=
  ∀ o, .gtid o ∈ life.opers → MysqlSync.Separable o.serverUUID

/-- What one lifetime stores ascends, from the map it found. -/
lemma ascends {life : Lifetime} (hlife : life.Separable) (value : Option String) :
    (storedMaps (life.log value)).Pairwise GtidSetsMap.Below ∧
      (∀ m ∈ storedMaps (life.log value), m.Separable) ∧
      ∀ text m₀, value = some text → getGtidSetsMapFromGtidSetsRangeStr text = .ok m₀ →
        ∀ m ∈ storedMaps (life.log value), m₀.Below m := by
  rw [log]
  cases hstart : Checkpoint.newCheckpoint.initStartupGtidSetsMap
      (life.readError.elim (.ok value) Except.error) life.initGtidSetsRangeStr with
  | error err => simp [storedMaps]
  | ok ckpt =>
    obtain ⟨⟨text, htext⟩, hfound⟩ := Checkpoint.exists_of_initStartupGtidSetsMap hstart
    have hrun := ascending_run life.conf life.env
      (separable_of_getGtidSetsMapFromGtidSetsRangeStr htext) hlife
    have hsub := (List.take_sublist life.length
      (run life.conf life.env life.opers (newMysqlApplier ckpt)).2.log).filterMap Event.stored
    refine ⟨hrun.pairwise.sublist hsub, fun m hm => hrun.separable m (hsub.subset hm), ?_⟩
    rintro text' m₀ rfl hm₀ m hm
    have habove := hrun.above m (hsub.subset hm)
    cases hread : life.readError with
    | some err =>
      -- a process that could not read the map does not start
      simp [hread, Checkpoint.initStartupGtidSetsMap, Checkpoint.queryGtidSetsMapFromConsul]
        at hstart
    | none =>
      rcases hfound text' m₀ (by simp [hread]) hm₀ with rfl | heq
      · exact GtidSetsMap.empty_below m
      · rwa [heq] at habove

end Lifetime

/-! ### Many lifetimes -/

/-- The values stored over several lifetimes, in order, where Consul first holds `value`. -/
def history (value : Option String) : List Lifetime → List String
  | [] => []
  | life :: lives =>
    life.written value ++ history ((life.written value).getLast?.or value) lives

/-- The maps behind the stored values, with what the first lifetime finds below all of them. -/
lemma exists_maps_of_history {lives : List Lifetime} (hlives : ∀ life ∈ lives, life.Separable)
    (value : Option String) :
    ∃ ms : List GtidSetsMap,
      (history value lives).map getGtidSetsMapFromGtidSetsRangeStr = ms.map Except.ok ∧
      ms.Pairwise GtidSetsMap.Below ∧
      ∀ text m₀, value = some text → getGtidSetsMapFromGtidSetsRangeStr text = .ok m₀ →
        ∀ m ∈ ms, m₀.Below m := by
  induction lives generalizing value with
  | nil => exact ⟨[], rfl, .nil, by simp⟩
  | cons life lives ih =>
    obtain ⟨hpair, hsep, hfound⟩ := Lifetime.ascends (hlives life List.mem_cons_self) value
    have hdecode : (life.written value).map getGtidSetsMapFromGtidSetsRangeStr =
        (storedMaps (life.log value)).map Except.ok := by
      rw [Lifetime.written, List.map_map]
      exact List.map_congr_left fun m hm => getGtidSetsMapFromGtidSetsRangeStr_range (hsep m hm)
    obtain ⟨ms, hms, hpairs, hnext⟩ :=
      ih (fun life' h => hlives life' (List.mem_cons_of_mem life h))
        ((life.written value).getLast?.or value)
    -- the next lifetime finds the last stored map, which is above all those before it
    have hcross : ∀ m ∈ storedMaps (life.log value), ∀ m' ∈ ms, m.Below m' := by
      intro m hm m' hm'
      have hne : storedMaps (life.log value) ≠ [] := List.ne_nil_of_mem hm
      have hlast : (life.written value).getLast?.or value =
          some (getGtidSetsRangeStrFromGtidSetsMap ((storedMaps (life.log value)).getLast hne)) := by
        simp [Lifetime.written, List.getLast?_eq_some_getLast hne]
      exact (hpair.rel_getLast hm).trans (hnext _ _ hlast
        (getGtidSetsMapFromGtidSetsRangeStr_range (hsep _ (List.getLast_mem hne))) m' hm')
    refine ⟨storedMaps (life.log value) ++ ms, ?_, ?_, ?_⟩
    · rw [history, List.map_append, hdecode, hms, List.map_append]
    · exact List.pairwise_append.mpr ⟨hpair, hpairs, hcross⟩
    · intro text m₀ hvalue hm₀ m hm
      rcases List.mem_append.mp hm with hm | hm
      · exact hfound text m₀ hvalue hm₀ m hm
      · cases hnil : storedMaps (life.log value) with
        | nil =>
          have hkept : (life.written value).getLast?.or value = some text := by
            rw [Lifetime.written, hnil, hvalue]
            rfl
          exact hnext text m₀ hkept hm₀ m hm
        | cons m₁ rest =>
          have hm₁ : m₁ ∈ storedMaps (life.log value) := by simp [hnil]
          exact (hfound text m₀ hvalue hm₀ m₁ hm₁).trans (hcross m₁ hm₁ m hm)

/-- The stored GTID set never moves backwards: over any lifetimes, whatever Consul held before
them, every stored value decodes to a map, and each of these is above all those before it. -/
theorem history_ascends {lives : List Lifetime} (hlives : ∀ life ∈ lives, life.Separable)
    (value : Option String) :
    ∃ ms : List GtidSetsMap,
      (history value lives).map getGtidSetsMapFromGtidSetsRangeStr = ms.map Except.ok ∧
      ms.Pairwise GtidSetsMap.Below := by
  obtain ⟨ms, hms, hpairs, -⟩ := exists_maps_of_history hlives value
  exact ⟨ms, hms, hpairs⟩

/-- A process without a configured start that creates a database and then idles. -/
def createsOne (serverUUID : String) (trxID : Int64) : Lifetime where
  conf := .unrestricted
  env := fun _ _ => .ok
  initGtidSetsRangeStr := ""
  readError := none
  opers := [.gtid ⟨1, 1, 10, serverUUID, trxID⟩, .ddlDatabase ⟨"db", "CREATE DATABASE db", 10⟩,
    .heartbeat ⟨12⟩]
  length := 12

/-- The first of three processes stores its transaction; the others start from there. -/
theorem history_ascends_createsOne :
    storedMaps ((createsOne "a" 5).log none) = [Finmap.singleton "a" 5] ∧
    ∃ ms : List GtidSetsMap,
      (history none [createsOne "a" 5, createsOne "b" 1, createsOne "a" 6]).map
        getGtidSetsMapFromGtidSetsRangeStr = ms.map Except.ok ∧
      ms.Pairwise GtidSetsMap.Below := by
  refine ⟨rfl, history_ascends ?_ none⟩
  simp [Lifetime.Separable, createsOne, Separable]

end MysqlSync
