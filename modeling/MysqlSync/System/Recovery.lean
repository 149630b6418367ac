import MysqlSync.System.EndToEnd
import MysqlSync.Rows.Replace
import MysqlSync.Applier.Lifetimes

/-!
# Recovery over many lifetimes

A destination in replace mode is run by one process after another. Each of them may end anywhere,
between a commit and the checkpoint that goes with it too, so the next one commits transactions
again that are already there, and may end before it has got through them. What is left of the
argument when the destination holds no state of the source at all: replaying from the stored
checkpoint, as far as any process has got or further, gives what applying the history once gives
(`lives_recover`).
-/

namespace MysqlSync

open MysqlApplier

/-! ### Segments of a history -/

/-- The statements of the transactions from `i` to `j`. -/
def segment (conf : Settings) (txs : List RowTransaction) (i j : ℕ) : List Statement :=
  ((txs.take j).drop i).flatMap (RowTransaction.statements conf)

def Database.runStatements (db : Database) (sts : List Statement) : Option Database :=
  sts.foldlM Database.runStatement db

section

variable {conf : Settings} {txs : List RowTransaction} {db : Database} {i j k : ℕ}

lemma Database.runStatements_append (db : Database) (sts sts' : List Statement) :
    db.runStatements (sts ++ sts') =
      (db.runStatements sts).bind fun db' => db'.runStatements sts' :=
  List.foldlM_append

variable (conf txs) in
lemma segment_append (hij : i ≤ j) (hjk : j ≤ k) :
    segment conf txs i k = segment conf txs i j ++ segment conf txs j k := by
  rw [segment, Blocks.drop_take_eq_append txs hij hjk, List.flatMap_append]
  rfl

variable (conf txs) in
/-- A segment of what comes after the first `d` transactions. -/
lemma segment_drop (d i j : ℕ) :
    segment conf (txs.drop d) i j = segment conf txs (d + i) (d + j) := by
  rw [segment, segment, List.take_drop, List.drop_drop]

/-- In replace mode the statements of a history only replace and delete rows. -/
lemma genKill_runStatement (hinsert : conf.dmlModeInsert = "replace")
    (hupdate : conf.dmlModeUpdate = "replace") {schemas : String × String → Option Schema}
    {st : Statement} (h : st ∈ segment conf txs i j) :
    GenKill (Database.Shaped schemas) Database.Has fun db => db.runStatement st := by
  obtain ⟨t, -, hst⟩ := List.mem_flatMap.mp h
  obtain ⟨op, hop, hst⟩ := List.mem_flatMap.mp hst
  rw [Plain.mem_statements] at hst
  rcases t.rows_inRows op hop with hdml | ⟨o, rfl⟩
  · rw [statement_of_isDML conf hdml] at hst
    rcases hq : dmlQuery conf op with e | _ | query
    · simp [hq] at hst
    · simp [hq] at hst
    · obtain rfl : Statement.dml query = st := by simpa [hq] using hst
      exact Query.genKill_exec (isReplay_of_dmlQuery hinsert hupdate hq)
  · cases hst

variable (txs i j) in
/-- Executing a segment twice is executing it once. -/
lemma runStatements_twice (hinsert : conf.dmlModeInsert = "replace")
    (hupdate : conf.dmlModeUpdate = "replace") (db : Database) :
    (db.runStatements (segment conf txs i j)).bind
        (fun db' => db'.runStatements (segment conf txs i j)) =
      db.runStatements (segment conf txs i j) := by
  have hgk : GenKill (Database.Shaped (Database.schema db)) Database.Has
      fun db => (segment conf txs i j).foldlM Database.runStatement db :=
    GenKill.foldlM fun st hst => genKill_runStatement hinsert hupdate hst
  exact hgk.bind_self (fun _ _ => Database.eq_of_has) fun _ => rfl

variable (txs) in
/-- Going back to `j` after `k` was reached, and on to `l`, is going on to `l`. -/
lemma runStatements_back (hinsert : conf.dmlModeInsert = "replace")
    (hupdate : conf.dmlModeUpdate = "replace") {l : ℕ} (hij : i ≤ j) (hjk : j ≤ k) (hkl : k ≤ l)
    (db : Database) :
    (db.runStatements (segment conf txs i k)).bind
        (fun db' => db'.runStatements (segment conf txs j l)) =
      db.runStatements (segment conf txs i l) := by
  rw [segment_append conf txs (hij.trans hjk) hkl, segment_append conf txs hjk hkl,
    segment_append conf txs hij hjk]
  simp only [Database.runStatements_append]
  cases h : db.runStatements (segment conf txs i j) with
  | none => rfl
  | some db₁ =>
    -- the part from `j` to `k` is executed twice
    have htwice := runStatements_twice txs j k hinsert hupdate db₁
    simp only [Option.bind_some]
    cases h₁ : db₁.runStatements (segment conf txs j k) with
    | none => rfl
    | some db₂ =>
      rw [h₁, Option.bind_some] at htwice
      rw [Option.bind_some, htwice]

end

/-! ### Lifetimes -/

/-- What Consul holds after a lifetime. -/
def Lifetime.next (life : Lifetime) (value : Option String) : Option String :=
  (life.written value).getLast?.or value

/-- Consul and the destination after one lifetime and another, if every statement that was committed
can be executed. -/
def afterLives (value : Option String) (db : Database) :
    List Lifetime → Option (Option String × Database)
  | [] => some (value, db)
  | life :: lives => (db.runEntries (World.replay (life.log value)).committed).bind
      fun db' => afterLives (life.next value) db' lives

/-- What a lifetime receives is a part of the history. It begins with the first transaction, or with
a later one where the checkpoint covers all those before it. -/
def Lifetime.Served (txs : List RowTransaction) (value : Option String) (life : Lifetime) : Prop :=
  ∃ d ≤ txs.length, life.opers <+: stream (txs.drop d) ∧
    ∀ ckpt, Checkpoint.newCheckpoint.initStartupGtidSetsMap (.ok value)
      life.initGtidSetsRangeStr = .ok ckpt → ∀ t ∈ txs.take d,
        ckpt.gtidSetsMap.Covers t.gtid.serverUUID t.gtid.trxID.toUInt64

def AllServed (txs : List RowTransaction) (value : Option String) : List Lifetime → Prop
  | [] => True
  | life :: lives => life.Served txs value ∧ AllServed txs (life.next value) lives

/-- A lifetime starts from a checkpoint that covers exactly the first `k` transactions, and gets as
far as `j`: what it commits are the statements of the transactions in between. -/
structure Lifetime.Commits (txs : List RowTransaction) (value : Option String) (life : Lifetime)
    (k j : ℕ) : Prop where
  start : ∀ ckpt, Checkpoint.newCheckpoint.initStartupGtidSetsMap (.ok value)
    life.initGtidSetsRangeStr = .ok ckpt → CoversFirst ckpt.gtidSetsMap (gtids txs) k
  le : k ≤ j
  le_length : j ≤ txs.length
  committed : (World.replay (life.log value)).committed.map Entry.statement =
    segment life.conf txs k j

/-- The furthest that any of the lifetimes gets. -/
inductive Furthest (txs : List RowTransaction) : Option String → List Lifetime → ℕ → Prop where
  | nil (value : Option String) : Furthest txs value [] 0
  | cons {value : Option String} {life : Lifetime} {lives : List Lifetime} {k j n : ℕ}
      (hlife : life.Commits txs value k j) (hlives : Furthest txs (life.next value) lives n) :
      Furthest txs value (life :: lives) (max j n)

section

variable {conf : Settings} {env : Env} {ckpt : Checkpoint} {txs : List RowTransaction}
  {m m' : GtidSetsMap} {k d : ℕ} {p : List Event}

/-- The map that is left is the one stored last. -/
lemma gtidsets_eq_getLast? (p : List Event) :
    (World.replay p).gtidsets = (storedMaps p).getLast? := by
  induction p using List.reverseRecOn with
  | nil => rfl
  | append_singleton p e ih =>
    have hstored : storedMaps (p ++ [e]) = storedMaps p ++ storedMaps [e] := List.filterMap_append
    rw [World.replay_append, List.foldl_cons, List.foldl_nil, hstored]
    by_cases he : e.isWrite = true
    · obtain ⟨m, r, rfl⟩ : ∃ m r, e = .call (.putGtidsets m) r := by
        cases e with
        | receive op => cases he
        | call c r =>
          cases c with
          | putGtidsets m => exact ⟨m, r, rfl⟩
          | _ => cases he
      rw [World.after_putGtidsets]
      cases r <;> simp [storedMaps, Event.stored, ih]
    · have hnil : storedMaps [e] = [] := by
        cases e with
        | receive op => rfl
        | call c r =>
          cases c with
          | putGtidsets m => exact absurd rfl he
          | _ => rfl
      rw [(World.after_of_not_isWrite (Bool.eq_false_iff.mpr he) _).1, hnil, List.append_nil, ih]

/-- The map stored covers what the checkpoint covered at the start. -/
lemma covers_of_gtidsets {opers : List MysqlOperation}
    (hp : p <+: (run conf env opers (newMysqlApplier ckpt)).2.log)
    (hm : (World.replay p).gtidsets = some m) {u : String} {n : UInt64}
    (h : ckpt.gtidSetsMap.Covers u n) : m.Covers u n := by
  obtain ⟨q, -, rfl⟩ := exists_plain_of_gtidsets hp hm
  have hmono := @plain_covers_mono conf ckpt.gtidSetsMap q _ _ _ _ (Nat.zero_le q.length) h
  rwa [List.take_length] at hmono

lemma CoversFirst.drop (h : CoversFirst m (gtids txs) k) (d : ℕ) (hd : d ≤ txs.length) :
    CoversFirst m (gtids (txs.drop d)) (k - d) := by
  have hget (i : ℕ) : (gtids (txs.drop d))[i]? = (gtids txs)[d + i]? := by
    rw [gtids, gtids, List.map_drop, List.getElem?_drop]
  refine ⟨?_, fun i o ho => ?_⟩
  · have hle := h.le_length
    rw [length_gtids, List.length_drop]
    omega
  · rw [h.iff (d + i) o ((hget i).symm.trans ho)]
    omega

/-- A map that covers the first of what comes after `d` transactions, and these. -/
lemma CoversFirst.of_drop (h : CoversFirst m (gtids (txs.drop d)) k) (hd : d ≤ txs.length)
    (hfirst : ∀ t ∈ txs.take d, m.Covers t.gtid.serverUUID t.gtid.trxID.toUInt64) :
    CoversFirst m (gtids txs) (d + k) := by
  refine ⟨?_, fun i o ho => ?_⟩
  · have hle := h.le_length
    rw [List.length_drop] at hle
    rw [length_gtids]
    omega
  · rw [gtids, List.getElem?_map] at ho
    obtain ⟨t, ht, rfl⟩ := Option.map_eq_some_iff.mp ho
    rcases lt_or_ge i d with hid | hdi
    · have hmem : t ∈ txs.take d := by
        refine List.mem_of_getElem? (i := i) ?_
        rw [List.getElem?_take_of_lt hid, ht]
      exact ⟨fun _ => by omega, fun _ => hfirst t hmem⟩
    · have hget : (txs.drop d)[i - d]? = some t := by
        rw [List.getElem?_drop, Nat.add_sub_cancel' hdi, ht]
      rw [h.covers_iff hget]
      omega

lemma Ascends.drop (h : Ascends (gtids txs)) (d : ℕ) : Ascends (gtids (txs.drop d)) := by
  rw [gtids, List.map_drop]
  exact h.sublist (List.drop_sublist d _)

/-- A process starts from the stored map, or from the configured one where that is empty. -/
lemma coversFirst_of_stored {init : String} {stored : Except String (Option String)}
    (hm : Checkpoint.queryGtidSetsMapFromConsul stored = .ok m)
    (hcov : CoversFirst m (gtids txs) k)
    (hinit : ∀ m₀, getGtidSetsMapFromGtidSetsRangeStr init = .ok m₀ → CoversFirst m₀ (gtids txs) 0)
    (h : Checkpoint.newCheckpoint.initStartupGtidSetsMap stored init = .ok ckpt) :
    CoversFirst ckpt.gtidSetsMap (gtids txs) k := by
  have hunion (m : GtidSetsMap) : m ∪ Checkpoint.newCheckpoint.gtidSetsMap = m := by
    simp [Checkpoint.newCheckpoint]
  rw [Checkpoint.initStartupGtidSetsMap, hm] at h
  simp only at h
  split_ifs at h with hcard
  · -- an empty map covers nothing, and the configured one is taken
    have hnone (u : String) : m.lookup u = none := by
      rw [Finmap.lookup_eq_none, ← Finmap.mem_keys, Finset.card_eq_zero.mp hcard]
      exact Finset.notMem_empty u
    obtain rfl : k = 0 := by
      by_contra hk
      have hlt : 0 < (gtids txs).length := (Nat.pos_of_ne_zero hk).trans_le hcov.le
      obtain ⟨last, hlast, -⟩ := (hcov.iff 0 _ (List.getElem?_eq_getElem hlt)).mpr
        (Nat.pos_of_ne_zero hk)
      rw [hnone] at hlast
      cases hlast
    cases hread : getGtidSetsMapFromGtidSetsRangeStr init with
    | error err =>
      rw [hread] at h
      cases h
    | ok configured =>
      simp only [hread, Except.ok.injEq] at h
      subst h
      rw [hunion]
      exact hinit configured hread
  · cases h
    rw [hunion]
    exact hcov

end

/-! ### The invariant -/

/-- Where the destination stands: the next process starts after `k` transactions, some process has
got as far as `n`, and replaying from `k` to `n` or further gives what the history gives. -/
structure Recoverable (conf : Settings) (txs : List RowTransaction) (init : String)
    (db₀ : Database) (value : Option String) (db : Database) (k n : ℕ) : Prop where
  le : k ≤ n
  le_length : n ≤ txs.length
  start : ∀ ckpt, Checkpoint.newCheckpoint.initStartupGtidSetsMap (.ok value) init = .ok ckpt →
    CoversFirst ckpt.gtidSetsMap (gtids txs) k
  replays : ∀ l, n ≤ l → db.runStatements (segment conf txs k l) =
    db₀.runStatements (segment conf txs 0 l)

section

variable {conf : Settings} {txs : List RowTransaction} {init : String} {db₀ db db₁ : Database}
  {value : Option String} {k n : ℕ} {life : Lifetime}

lemma segment_self (conf : Settings) (txs : List RowTransaction) (i : ℕ) :
    segment conf txs i i = [] := by
  rw [segment, List.drop_of_length_le (List.length_take_le i txs)]
  rfl

/-- The GTIDs that a lifetime receives are those of the history. -/
lemma Lifetime.Served.separable (h : life.Served txs value)
    (hsep : ∀ t ∈ txs, MysqlSync.Separable t.gtid.serverUUID) : life.Separable := by
  intro o ho
  obtain ⟨d, -, hopers, -⟩ := h
  obtain ⟨t, ht, hmem⟩ := List.mem_flatMap.mp (hopers.subset ho)
  rw [t.ops_eq, List.mem_append, List.mem_cons] at hmem
  rcases hmem with hmem | hmem | hmem
  · exact absurd (isGTID_of_isIdle (t.lead_isIdle _ hmem)) (by simp [MysqlOperation.isGTID])
  · cases hmem
    exact hsep t (List.mem_of_mem_drop ht)
  · exact absurd (t.isGTID_of_mem_tail hmem) (by simp [MysqlOperation.isGTID])

/-- A lifetime cuts the history like any destination, whatever it is sent again. -/
lemma Lifetime.exists_cut_of_served (hasc : Ascends (gtids txs)) (hserved : life.Served txs value)
    (hstart : ∀ ckpt, Checkpoint.newCheckpoint.initStartupGtidSetsMap (.ok value)
      life.initGtidSetsRangeStr = .ok ckpt → CoversFirst ckpt.gtidSetsMap (gtids txs) k)
    (hk : k ≤ txs.length) : ∃ j, Cut life.conf txs k j (World.replay (life.log value)) := by
  -- a process that does not start leaves everything as it is
  have hidle (h : life.log value = []) :
      ∃ j, Cut life.conf txs k j (World.replay (life.log value)) := by
    rw [h]
    exact ⟨k, le_rfl, hk, (segment_self life.conf txs k).symm,
      by simp [World.replay, World.initial], fun m hm => by cases hm⟩
  cases hread : life.readError with
  | some err =>
    refine hidle ?_
    rw [Lifetime.log, hread]
    rfl
  | none =>
    cases hckpt : Checkpoint.newCheckpoint.initStartupGtidSetsMap (.ok value)
        life.initGtidSetsRangeStr with
    | error err =>
      refine hidle ?_
      simp [Lifetime.log, hread, hckpt]
    | ok ckpt =>
      have hlog : life.log value = (run life.conf life.env life.opers
          (newMysqlApplier ckpt)).2.log.take life.length := by
        simp [Lifetime.log, hread, hckpt]
      obtain ⟨d, hd, hopers, hfirst⟩ := hserved
      have hcov := hstart ckpt hckpt
      have hdk : d ≤ k := by
        by_contra hlt
        push Not at hlt
        have hget : txs[k]? = some txs[k] := List.getElem?_eq_getElem (hlt.trans_le hd)
        have hmem : txs[k] ∈ txs.take d := by
          refine List.mem_of_getElem? (i := k) ?_
          rw [List.getElem?_take_of_lt hlt, hget]
        exact absurd ((hcov.covers_iff hget).mp (hfirst ckpt hckpt _ hmem)) (lt_irrefl k)
      have hp := List.take_prefix life.length
        (run life.conf life.env life.opers (newMysqlApplier ckpt)).2.log
      rw [← hlog] at hp
      obtain ⟨n₁, hcut⟩ := exists_cut (hcov.drop d hd) (hasc.drop d) hopers hp
      have hle := hcut.le
      have hge := hcut.ge
      rw [List.length_drop] at hle
      refine ⟨d + n₁, by omega, by omega, ?_, hcut.tolerated, fun m hm => ?_⟩
      · have hsegment := segment_drop life.conf txs d (k - d) n₁
        rw [Nat.add_sub_cancel' hdk] at hsegment
        exact hcut.committed.trans hsegment
      · obtain ⟨k', hk', hk'', hcov'⟩ := hcut.stored m hm
        refine ⟨d + k', by omega, by omega, hcov'.of_drop hd fun t ht => ?_⟩
        exact covers_of_gtidsets hp hm (hfirst ckpt hckpt t ht)

/-- A lifetime that stores no map leaves the one it found. -/
lemma Lifetime.next_of_gtidsets_none (h : (World.replay (life.log value)).gtidsets = none) :
    life.next value = value := by
  rw [gtidsets_eq_getLast?] at h
  rw [Lifetime.next, Lifetime.written, List.getLast?_eq_none_iff.mp h]
  rfl

lemma Lifetime.next_of_gtidsets {m : GtidSetsMap}
    (h : (World.replay (life.log value)).gtidsets = some m) :
    life.next value = some (getGtidSetsRangeStrFromGtidSetsMap m) := by
  rw [gtidsets_eq_getLast?] at h
  rw [Lifetime.next, Lifetime.written, List.getLast?_map, h]
  rfl

/-- The next lifetime reads the map that this one has stored last. -/
lemma Lifetime.query_of_gtidsets {m : GtidSetsMap} (hsep : life.Separable)
    (h : (World.replay (life.log value)).gtidsets = some m) :
    Checkpoint.queryGtidSetsMapFromConsul
      (.ok (some (getGtidSetsRangeStrFromGtidSetsMap m))) = .ok m := by
  rw [gtidsets_eq_getLast?] at h
  have hmsep : m.Separable := (Lifetime.ascends hsep value).2.1 m (List.mem_of_getLast? h)
  exact getGtidSetsMapFromGtidSetsRangeStr_range hmsep

/-- One lifetime. If it gets as far as any before it, the destination is what the history gives. -/
lemma Recoverable.lifetime (h : Recoverable life.conf txs init db₀ value db k n)
    (hinsert : life.conf.dmlModeInsert = "replace") (hupdate : life.conf.dmlModeUpdate = "replace")
    (hskip : life.conf.skipErrors = []) (hasc : Ascends (gtids txs))
    (hall : db₀.runStatements (segment life.conf txs 0 txs.length) = some db₁)
    (hinit : ∀ m₀, getGtidSetsMapFromGtidSetsRangeStr init = .ok m₀ → CoversFirst m₀ (gtids txs) 0)
    (hlife : life.initGtidSetsRangeStr = init) (hsep : ∀ t ∈ txs, Separable t.gtid.serverUUID)
    (hserved : life.Served txs value) :
    ∃ db' k' j, db.runEntries (World.replay (life.log value)).committed = some db' ∧
      Recoverable life.conf txs init db₀ (life.next value) db' k' (max n j) ∧
      life.Commits txs value k j ∧
      (n ≤ j → db₀.runStatements (segment life.conf txs 0 j) = some db') := by
  have hstart : ∀ ckpt, Checkpoint.newCheckpoint.initStartupGtidSetsMap (.ok value)
      life.initGtidSetsRangeStr = .ok ckpt → CoversFirst ckpt.gtidSetsMap (gtids txs) k := by
    rw [hlife]
    exact h.start
  obtain ⟨j, hcut⟩ := Lifetime.exists_cut_of_served hasc hserved hstart (h.le.trans h.le_length)
  obtain ⟨hkj, hj, hcommitted, htolerated, hstored⟩ := hcut
  have hcommits : life.Commits txs value k j := ⟨hstart, hkj, hj, hcommitted⟩
  have hrun : db.runEntries (World.replay (life.log value)).committed =
      db.runStatements (segment life.conf txs k j) := by
    rw [Database.runEntries_eq hskip htolerated, hcommitted]
    rfl
  -- the segment can be executed, since all of the history can
  obtain ⟨db', hdb'⟩ : ∃ db', db.runStatements (segment life.conf txs k j) = some db' := by
    have hend := h.replays txs.length h.le_length
    rw [hall, segment_append life.conf txs hkj hj, Database.runStatements_append] at hend
    obtain ⟨db', hdb', -⟩ := Option.bind_eq_some_iff.mp hend
    exact ⟨db', hdb'⟩
  have hreplays (k' : ℕ) (hk' : k ≤ k') (hk'' : k' ≤ j) (l : ℕ) (hl : max n j ≤ l) :
      db'.runStatements (segment life.conf txs k' l) =
        db₀.runStatements (segment life.conf txs 0 l) := by
    have hback := runStatements_back txs hinsert hupdate hk' hk''
      ((le_max_right n j).trans hl) db
    rw [hdb', Option.bind_some] at hback
    rw [hback, h.replays l ((le_max_left n j).trans hl)]
  have hcatch (hn : n ≤ j) : db₀.runStatements (segment life.conf txs 0 j) = some db' := by
    rw [← h.replays j hn, hdb']
  have hlen : max n j ≤ txs.length := max_le h.le_length hj
  cases hm : (World.replay (life.log value)).gtidsets with
  | none =>
    rw [Lifetime.next_of_gtidsets_none hm]
    exact ⟨db', k, j, hrun.trans hdb', ⟨h.le.trans (le_max_left n j), hlen, h.start,
      hreplays k le_rfl hkj⟩, hcommits, hcatch⟩
  | some m =>
    obtain ⟨k', hk', hk'', hcov⟩ := hstored m hm
    have hquery := Lifetime.query_of_gtidsets (hserved.separable hsep) hm
    rw [Lifetime.next_of_gtidsets hm]
    exact ⟨db', k', j, hrun.trans hdb', ⟨hk''.trans (le_max_right n j), hlen,
      fun ckpt hckpt => coversFirst_of_stored hquery hcov hinit hckpt, hreplays k' hk' hk''⟩,
      hcommits, hcatch⟩

end

/-- Any number of lifetimes, and one more. -/
lemma Recoverable.lifetimes {conf : Settings} {txs : List RowTransaction} {init : String}
    {db₀ db db₁ : Database} {value : Option String} {k n : ℕ} {lives : List Lifetime}
    {life : Lifetime} (h : Recoverable conf txs init db₀ value db k n)
    (hinsert : conf.dmlModeInsert = "replace") (hupdate : conf.dmlModeUpdate = "replace")
    (hskip : conf.skipErrors = []) (hasc : Ascends (gtids txs))
    (hsep : ∀ t ∈ txs, Separable t.gtid.serverUUID)
    (hall : db₀.runStatements (segment conf txs 0 txs.length) = some db₁)
    (hinit : ∀ m₀, getGtidSetsMapFromGtidSetsRangeStr init = .ok m₀ → CoversFirst m₀ (gtids txs) 0)
    (hlives : ∀ l ∈ lives ++ [life], l.conf = conf ∧ l.initGtidSetsRangeStr = init)
    (hserved : AllServed txs value (lives ++ [life])) :
    ∃ value' db' k' r, afterLives value db lives = some (value', db') ∧
      Furthest txs value lives r ∧ Recoverable conf txs init db₀ value' db' k' (max n r) ∧
      ∃ db'' k'' j, afterLives value db (lives ++ [life]) = some (life.next value', db'') ∧
        life.Commits txs value' k' j ∧
        Recoverable conf txs init db₀ (life.next value') db'' k'' (max (max n r) j) ∧
        (max n r ≤ j → db₀.runStatements (segment conf txs 0 j) = some db'') := by
  induction lives generalizing value db k n with
  | nil =>
    obtain ⟨rfl, hlife⟩ := hlives life (by simp)
    obtain ⟨db', k', j, hrun, hrec, hcommits, hcatch⟩ :=
      h.lifetime hinsert hupdate hskip hasc hall hinit hlife hsep hserved.1
    rw [← Nat.max_zero n] at h hrec hcatch
    refine ⟨value, db, k, 0, rfl, .nil value, h, db', k', j, ?_, hcommits, hrec, hcatch⟩
    rw [List.nil_append, afterLives, hrun]
    rfl
  | cons life₁ lives ih =>
    obtain ⟨⟨rfl, hlife⟩, hlives'⟩ := List.forall_mem_cons.mp hlives
    obtain ⟨hserved₁, hserved'⟩ := hserved
    obtain ⟨db₂, k₂, j₂, hrun, hrec, hcommits, -⟩ :=
      h.lifetime hinsert hupdate hskip hasc hall hinit hlife hsep hserved₁
    obtain ⟨value', db', k', r, hafter, hfurthest, hrec', db'', k'', j, hafter', hrest⟩ :=
      ih hrec hlives' hserved'
    rw [max_assoc n j₂ r] at hrec' hrest
    refine ⟨value', db', k', max j₂ r, ?_, .cons hcommits hfurthest, hrec', db'', k'', j, ?_, hrest⟩
    · rw [afterLives, hrun]
      exact hafter
    · rw [List.cons_append, afterLives, hrun]
      exact hafter'

/-- Recovery converges in replace mode if no error is skipped. A destination is run by any number of
processes, each of which receives a part of the history that begins at its checkpoint or before it,
meets any replies and ends anywhere; the configured set covers nothing of the history. The
statements they commit can always be executed, and wherever the last of them ends, replaying from
the stored checkpoint as far as any of them has got (`n`), or further, gives what executing the
history once gives. A process that gets as far as any before it leaves the destination as executing
the history up to there once does. -/
theorem lives_recover {conf : Settings} (hinsert : conf.dmlModeInsert = "replace")
    (hupdate : conf.dmlModeUpdate = "replace") (hskip : conf.skipErrors = [])
    {txs : List RowTransaction} (hasc : Ascends (gtids txs))
    (hsep : ∀ t ∈ txs, Separable t.gtid.serverUUID) {db₀ db₁ : Database}
    (hall : db₀.runStatements (segment conf txs 0 txs.length) = some db₁) {init : String}
    (hinit : ∀ m₀, getGtidSetsMapFromGtidSetsRangeStr init = .ok m₀ → CoversFirst m₀ (gtids txs) 0)
    {lives : List Lifetime} {life : Lifetime}
    (hlives : ∀ l ∈ lives ++ [life], l.conf = conf ∧ l.initGtidSetsRangeStr = init)
    (hserved : AllServed txs none (lives ++ [life])) :
    ∃ value db k n, afterLives none db₀ lives = some (value, db) ∧
      Furthest txs none lives n ∧ Recoverable conf txs init db₀ value db k n ∧
      ∃ db' k' j, afterLives none db₀ (lives ++ [life]) = some (life.next value, db') ∧
        life.Commits txs value k j ∧
        Recoverable conf txs init db₀ (life.next value) db' k' (max n j) ∧
        (n ≤ j → db₀.runStatements (segment conf txs 0 j) = some db') := by
  have hstart : Recoverable conf txs init db₀ none db₀ 0 0 := by
    refine ⟨le_rfl, Nat.zero_le _, fun ckpt hckpt => ?_, fun _ _ => rfl⟩
    have hnone : CoversFirst ∅ (gtids txs) 0 := ⟨Nat.zero_le _, by simp [GtidSetsMap.Covers]⟩
    exact coversFirst_of_stored rfl hnone hinit hckpt
  have h := hstart.lifetimes hinsert hupdate hskip hasc hsep hall hinit hlives hserved
  simpa only [Nat.zero_max] using h

/-- Two transactions with a heartbeat between them, so that the first is committed before the second
begins. -/
def insertsApart : List RowTransaction :=
  [insertsOne 1,
   { insertsOne 2 with
     lead := [.heartbeat ⟨11⟩]
     lead_isIdle := by simp [MysqlOperation.isIdle] }]

/-- A process in replace mode that receives both and ends after `length` events. -/
def replacesApart (length : ℕ) : Lifetime where
  conf := .replacing
  env := fun _ _ => .ok
  initGtidSetsRangeStr := ""
  readError := none
  opers := stream insertsApart
  length := length

/-- The first process ends between its commit and the checkpoint, so the second commits the first
transaction again. -/
theorem lives_recover_replacesApart :
    ((replacesApart 12).written none = [] ∧
      (World.replay ((replacesApart 12).log none)).committed.length = 1) ∧
    ∃ value db k n, afterLives none emptyPairs [replacesApart 12] = some (value, db) ∧
      Furthest insertsApart none [replacesApart 12] n ∧
      Recoverable .replacing insertsApart "" emptyPairs value db k n ∧
      ∃ db' k' j, afterLives none emptyPairs ([replacesApart 12] ++ [replacesApart 20]) =
          some ((replacesApart 20).next value, db') ∧
        (replacesApart 20).Commits insertsApart value k j ∧
        Recoverable .replacing insertsApart "" emptyPairs ((replacesApart 20).next value) db' k'
          (max n j) ∧
        (n ≤ j → emptyPairs.runStatements (segment .replacing insertsApart 0 j) = some db') := by
  have hascends : Ascends (gtids insertsApart) :=
    .cons (by simpa [insertsOne] using by decide) (.cons (by simp) .nil)
  have hsep : ∀ t ∈ insertsApart, Separable t.gtid.serverUUID := by
    simp [insertsApart, insertsOne, Separable]
  have hall : ∃ db₁, emptyPairs.runStatements
      (segment .replacing insertsApart 0 insertsApart.length) = some db₁ := ⟨_, rfl⟩
  obtain ⟨db₁, hall⟩ := hall
  have hserved (length : ℕ) (value : Option String) :
      (replacesApart length).Served insertsApart value :=
    ⟨0, Nat.zero_le _, List.prefix_refl _, by simp⟩
  have hinit (m₀ : GtidSetsMap) (h : getGtidSetsMapFromGtidSetsRangeStr "" = .ok m₀) :
      CoversFirst m₀ (gtids insertsApart) 0 := by
    cases h
    exact ⟨Nat.zero_le _, by simp [GtidSetsMap.Covers]⟩
  refine ⟨by decide +kernel, ?_⟩
  exact lives_recover rfl rfl rfl hascends hsep hall hinit (by simp [replacesApart])
    ⟨hserved 12 _, hserved 20 _, trivial⟩

end MysqlSync
