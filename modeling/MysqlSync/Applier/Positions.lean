import MysqlSync.Applier.Durability
import MysqlSync.Extract.Stream

/-!
# The two records of a checkpoint

A checkpoint writes the GTID map and the binlog position one after the other. They are meant to
name the same point of the binlog: the end of a transaction, with that transaction and the ones
before it in the map and none after it (`SamePoint`). At a heartbeat, and at the first statement
of a DDL or DCL group, they do. At a GTID they do not: the position of the GTID event is taken
over before the GTID operation itself, so what is written there is a position inside the next
transaction. `QuietAtGtids` is what has to be true of a run for this not to happen.
-/

namespace MysqlSync

open MysqlApplier

/-! ### The property -/

/-- The map covers the GTID of the transaction. -/
def Placed.CoveredBy (p : Placed) (m : GtidSetsMap) : Prop :=
  ∃ o, p.gtid = some o ∧ m.Covers o.serverUUID o.trxID.toUInt64

/-- Whenever both records are written, the position is the end of a transaction, and the map
covers that transaction and the ones before it, and none after it. -/
def SamePoint (ts : List Placed) (log : List Event) : Prop :=
  ∀ written file pos,
    [.call (.putGtidsets written) .ok, .call (.putBinlogpos file pos) .ok] <:+: log →
    ∃ earlier p later, ts = earlier ++ p :: later ∧ p.endPosition = (file, pos) ∧
      (∀ q ∈ earlier ++ [p], q.CoveredBy written) ∧ ∀ q ∈ later, ¬ q.CoveredBy written

/-- The map marks a point of the binlog: it covers the transactions before it and no other. -/
def StartsAt (m : GtidSetsMap) (ts : List Placed) : Prop :=
  ∃ before after, ts = before ++ after ∧ (∀ q ∈ before, q.CoveredBy m) ∧
    ∀ q ∈ after, ¬ q.CoveredBy m

/-- The GTID triggers no checkpoint: the group before it is not a DDL or DCL group, and a pending
batch is neither full nor flushed because the commit interval changes. -/
def Quiet (conf : Settings) (ma : MysqlApplier) (o : MysqlOperationGTID) : Prop :=
  (ma.gtidSkip = false → ma.state ∉ [State.ddl, .dcl]) ∧
  (1 ≤ ma.pendingCommitCount →
    (ma.gtidSkip = false → ma.state = .xid →
      ¬ (1 ≤ conf.mergeCommitMaxCount ∧ conf.mergeCommitMaxCount ≤ ma.pendingCommitCount)) ∧
    (ma.lastCommitted = o.lastCommitted ∨
      ma.ckpt.gtidSetsMap.Covers o.serverUUID o.trxID.toUInt64))

instance (conf : Settings) (ma : MysqlApplier) (o : MysqlOperationGTID) :
    Decidable (Quiet conf ma o) :=
  inferInstanceAs (Decidable (_ ∧ _))

/-- No GTID consumed in the run triggers a checkpoint. -/
def QuietAtGtids (conf : Settings) (env : Env) (ckpt : Checkpoint)
    (opers : List MysqlOperation) : Prop :=
  ∀ n o ma, opers[n]? = some (.gtid o) →
    run conf env (opers.take n) (newMysqlApplier ckpt) = (.ok (), ma) → Quiet conf ma o

/-! ### What the map covers -/

section

variable {conf : Settings} {m : GtidSetsMap} {u u' : String} {n n' : UInt64}
  {as : List MysqlOperation}

lemma GtidSetsMap.covers_insert :
    GtidSetsMap.Covers (Finmap.insert u' n' m) u n ↔ if u = u' then n ≤ n' else m.Covers u n := by
  split_ifs with h
  · subst h
    simp [GtidSetsMap.Covers, Finmap.lookup_insert]
  · simp [GtidSetsMap.Covers, Finmap.lookup_insert_of_ne _ h]

lemma GtidSetsMap.Covers.of_le (h : m.Covers u n) (hle : n' ≤ n) : m.Covers u n' := by
  obtain ⟨last, hlast, hn⟩ := h
  exact ⟨last, hlast, UInt64.le_trans hle hn⟩

/-- The map covers what it covered at the start and what the GTIDs received since cover. -/
lemma covers_plain_iff : (plain conf m as).gtidSetsMap.Covers u n ↔
    m.Covers u n ∨ ∃ o ∈ gtidsOf as, o.serverUUID = u ∧ n ≤ o.trxID.toUInt64 := by
  induction as using List.reverseRecOn with
  | nil => simp [gtidsOf, Plain.start]
  | append_singleton as op ih =>
    rw [plain_concat, gtidsOf_append]
    cases hop : op.isGTID with
    | false => rw [Plain.step_gtidSetsMap hop, ih, gtidsOf_singleton_of_not hop, List.append_nil]
    | true =>
      obtain ⟨o, rfl⟩ : ∃ o, op = .gtid o := by cases op <;> simp_all [MysqlOperation.isGTID]
      have hsplit : (m.Covers u n ∨ ∃ o' ∈ gtidsOf as ++ gtidsOf [.gtid o],
          o'.serverUUID = u ∧ n ≤ o'.trxID.toUInt64) ↔
          (plain conf m as).gtidSetsMap.Covers u n ∨
            o.serverUUID = u ∧ n ≤ o.trxID.toUInt64 := by
        rw [ih]
        simp [gtidsOf, or_and_right, exists_or, or_assoc]
      rw [hsplit]
      by_cases hcov : (plain conf m as).gtidSetsMap.Covers o.serverUUID o.trxID.toUInt64
      · rw [Plain.step_of_covers _ hcov]
        refine ⟨.inl, fun h => ?_⟩
        rcases h with h | ⟨rfl, hle⟩
        · exact h
        · exact hcov.of_le hle
      · rw [Plain.step_of_not_covers _ hcov]
        refine ⟨fun h => ?_, fun h => ?_⟩
        · by_cases hu : u = o.serverUUID
          · rw [GtidSetsMap.covers_insert, if_pos hu] at h
            exact .inr ⟨hu.symm, h⟩
          · rw [GtidSetsMap.covers_insert, if_neg hu] at h
            exact .inl h
        · rcases h with h | ⟨rfl, hle⟩
          · exact h.insert hcov
          · exact GtidSetsMap.covers_insert.mpr (by rwa [if_pos rfl])

/-- A group that is not skipped was not covered at the start. -/
lemma not_covers_of_skip_eq_false {l : List MysqlOperationGTID} {o : MysqlOperationGTID}
    (hskip : (plain conf m as).skip = false) (has : gtidsOf as = l ++ [o]) :
    ¬ m.Covers o.serverUUID o.trxID.toUInt64 := by
  induction as using List.reverseRecOn with
  | nil => simp [gtidsOf] at has
  | append_singleton as op ih =>
    rw [plain_concat] at hskip
    rw [gtidsOf_append] at has
    cases hop : op.isGTID with
    | false =>
      rw [Plain.step_skip hop] at hskip
      rw [gtidsOf_singleton_of_not hop, List.append_nil] at has
      exact ih hskip has
    | true =>
      obtain ⟨o', rfl⟩ : ∃ o, op = .gtid o := by cases op <;> simp_all [MysqlOperation.isGTID]
      obtain ⟨-, rfl⟩ : gtidsOf as = l ∧ o' = o := by
        simpa [gtidsOf] using List.append_inj' has rfl
      intro hm
      have hcov : (plain conf m as).gtidSetsMap.Covers o'.serverUUID o'.trxID.toUInt64 :=
        covers_plain_iff.mpr (.inl hm)
      rw [Plain.step_of_covers _ hcov] at hskip
      simp at hskip

end

/-! ### The position the applier holds -/

section

variable {conf : Settings} {env : Env} {ckpt : Checkpoint} {ma ma₁ : MysqlApplier}
  {op : MysqlOperation} {x : Ending} {as : List MysqlOperation}

def MysqlApplier.position (ma : MysqlApplier) : String × UInt32 :=
  (ma.ckpt.binLogFile, ma.ckpt.binLogPos)

/-- Of the cases other than the GTID case, one takes over a position and the rest leave the
checkpoint alone. -/
lemma ckpt_of_dispatched (hop : op.isGTID = false) (h : Dispatched conf env op ma x) :
    (∃ o, op = .binLogPos o ∧ x.2.ckpt = ma.ckpt.setBinlogPos o.file o.pos) ∨
    op.marks = false ∧ x.2.ckpt = ma.ckpt := by
  cases hmarks : op.marks with
  | true =>
    cases op with
    | binLogPos o =>
      cases h with
      | binLogPos o' hop result =>
        cases hop
        exact .inl ⟨o, rfl, by rw [result]⟩
      | refused hs => cases hs (by cases ma.state <;> simp [allowed])
      | _ => simp_all [MysqlOperation.isNonDML, MysqlOperation.isDML]
    | _ => simp_all [MysqlOperation.marks, MysqlOperation.isGTID]
  | false =>
    refine .inr ⟨rfl, ?_⟩
    cases h with
    | binLogPos o hop result =>
      subst hop
      simp [MysqlOperation.marks] at hmarks
    | gtidSettle o hop' | gtid o hop' =>
      subst hop'
      simp [MysqlOperation.isGTID] at hop
    | heartbeat o hop hs x₁ h result =>
      rw [result, thenState_ckpt]
      exact h.keeps.ckpt
    | nonDMLMerge hop hs e ma₁ h result | nonDML hop hs hq ma₁ h result =>
      rw [result]
      exact h.keeps.ckpt
    | nonDMLExec hop hs schemaContext query hq ma₁ h x₂ h₂ result =>
      rw [result, thenState_ckpt]
      exact (h.keeps.trans h₂.keeps).ckpt
    | begin o hop hs hp x₁ h result | dmlExec hop hs query hq htx x₁ h result =>
      rw [result, thenState_ckpt]
      exact h.keeps.ckpt
    | refused _ _ result | beginMerged _ _ _ _ result | dmlStop _ _ _ _ result | dml _ _ _ result
    | dmlMissing _ _ _ _ _ result | xid _ _ _ result =>
      rw [result]

lemma positionOf_concat (as : List MysqlOperation) (op : MysqlOperation) :
    positionOf (as ++ [op]) = readPosition (positionOf as) op := by
  rw [positionOf, List.foldl_append]
  rfl

/-- While a group is not skipped, the applier holds the last position sent since its GTID. -/
lemma position_run {q : String × UInt32}
    (hrun : run conf env as (newMysqlApplier ckpt) = (.ok (), ma)) (hskip : ma.gtidSkip = false)
    (hq : positionOf as = some q) : ma.position = q := by
  induction as using List.reverseRecOn generalizing ma q with
  | nil => simp [positionOf] at hq
  | append_singleton as op ih =>
    rcases has : run conf env as (newMysqlApplier ckpt) with ⟨e | ⟨⟩, ma'⟩
    · rw [run, Prog.forEach_append_of_error has] at hrun
      simp at hrun
    rw [run, Prog.forEach_concat_of_ok has] at hrun
    rw [positionOf_concat] at hq
    cases hop : op.isGTID with
    | true =>
      obtain ⟨o, rfl⟩ : ∃ o, op = .gtid o := by cases op <;> simp_all [MysqlOperation.isGTID]
      simp [readPosition] at hq
    | false =>
      have hturn := Turn.of_start conf env op ma'
      rw [hrun] at hturn
      cases hturn with
      | skipped hskip' hop' result =>
        cases result
        exact absurd (hskip.symm.trans hskip') (by simp)
      | taken hnot x₁ hd result =>
        obtain ⟨hckpt, -, -⟩ := finish_frame op x₁
        rw [← result] at hckpt
        rcases ckpt_of_dispatched hop hd with ⟨o, rfl, hset⟩ | ⟨hmarks, hkeep⟩
        · cases hq
          rw [position, hckpt, hset]
          rfl
        · rw [readPosition_of_not_marks hmarks] at hq
          rw [position, hckpt, hkeep]
          have hq' := ih has (hnot hop) hq
          exact hq'

/-- Before the first GTID the applier has not left the initial state. -/
lemma state_run_of_gtidsOf_eq_nil
    (hrun : run conf env as (newMysqlApplier ckpt) = (.ok (), ma)) (hnil : gtidsOf as = []) :
    ma.state = .null := by
  induction as using List.reverseRecOn generalizing ma with
  | nil =>
    obtain ⟨-, rfl⟩ := Prod.mk.inj hrun
    rfl
  | append_singleton as op ih =>
    rcases has : run conf env as (newMysqlApplier ckpt) with ⟨e | ⟨⟩, ma'⟩
    · rw [run, Prog.forEach_append_of_error has] at hrun
      simp at hrun
    rw [run, Prog.forEach_concat_of_ok has] at hrun
    rw [gtidsOf_append, List.append_eq_nil_iff] at hnil
    have hnull := ih has hnil.1
    have hskip : ma'.gtidSkip = false := by
      by_contra htrue
      have hgtid := (tracks_run (List.prefix_refl as) has).skipping (by simpa using htrue)
      simp [hnull] at hgtid
    have hstated := stated_start conf env op ma'
    rw [hrun] at hstated
    cases hstated with
    | skipped hskip' => exact absurd (hskip.symm.trans hskip') (by simp)
    | refused _ _ herr => simp at herr
    | stopped _ e herr => simp at herr
    | went hs hnot hok hstate hsk =>
      have hs := hs hskip
      rw [hnull] at hs hstate
      rw [hstate]
      cases op <;> simp_all [allowed, target, gtidsOf, resting]

/-! ### What makes a turn write a checkpoint -/

lemma writesNothing_of_log_eq (h : x.2.log = ma.log) : WritesNothing ma x :=
  ⟨[], by rw [h, List.append_nil], by simp⟩

/-- The cases that write: the GTID case, and a heartbeat or a DDL or DCL operation that does not
find the applier in its initial state. -/
lemma settles_or_writesNothing (h : Dispatched conf env op ma x) :
    op.isGTID = true ∨ op.settles = true ∧ ma.state ≠ .null ∨ WritesNothing ma x := by
  have hnonDML (hop : op.isNonDML = true) (hs : ma.state ∈ allowed op) :
      op.settles = true ∧ ma.state ≠ .null := by
    cases op <;> simp_all [MysqlOperation.isNonDML, MysqlOperation.settles, allowed] <;>
      rintro hnull <;> simp [hnull] at hs
  cases h with
  | gtidSettle o hop | gtid o hop =>
    subst hop
    exact .inl rfl
  | heartbeat o hop hs x₁ hset result =>
    subst hop
    by_cases hnull : ma.state = .null
    · refine .inr (.inr (writesNothing_of_log_eq ?_))
      rw [result, thenState_log]
      cases hset with
      | idle hs result => rw [result]; rfl
      | checkpointed hs => simp [stamped, hnull] at hs
      | merged hs => simp [stamped, hnull] at hs
    · exact .inr (.inl ⟨rfl, hnull⟩)
  | nonDMLMerge hop hs | nonDML hop hs | nonDMLExec hop hs =>
    exact .inr (.inl (hnonDML hop hs))
  | begin o hop hs hp x₁ hb result =>
    subst result
    exact .inr (.inr (by rw [WritesNothing, thenState_log]; exact writesNothing_of_began hb))
  | dmlExec hop hs query hq htx x₁ hexec result =>
    subst result
    exact .inr (.inr (by
      rw [WritesNothing, thenState_log]
      exact writesNothing_of_executedData hexec))
  | refused _ _ result | binLogPos _ _ result | beginMerged _ _ _ _ result
  | dmlStop _ _ _ _ result | dml _ _ _ result | dmlMissing _ _ _ _ _ result
  | xid _ _ _ result =>
    subst result
    exact .inr (.inr (writesNothing_of_log_eq rfl))

lemma onGTID_log_eq {o : MysqlOperationGTID} (h : 1 ≤ ma.pendingCommitCount →
    ma.lastCommitted = o.lastCommitted ∨
      ma.ckpt.gtidSetsMap.Covers o.serverUUID o.trxID.toUInt64) :
    (onGTID env o ma).2.log = ma.log := by
  by_cases hlc : ma.lastCommitted = o.lastCommitted
  · have hacc : (acceptGTID env o { ma with gtidSkip := false }).2.log = ma.log := by
      simp [acceptGTID, Prog.bind_apply, hlc]
    simp only [onGTID, Prog.bind_apply, Prog.modify_apply, Prog.get_apply]
    cases ma.ckpt.getTrxIdOfServerUUID o.serverUUID with
    | none => exact hacc
    | some last =>
      by_cases hle : last ≥ o.trxID.toUInt64
      · simp [hle]
      · by_cases hgap : o.trxID.toUInt64 ≥ last + 2
        · simp [hle, hgap]
        · simpa [hle, hgap] using hacc
  · have hnone (hcont : Continues ma.ckpt.gtidSetsMap o) :
        { ma with gtidSkip := false }.pendingCommitCount = 0 := by
      by_contra hp
      rcases h (Nat.one_le_iff_ne_zero.mpr hp) with heq | hcov
      · exact hlc heq
      · exact hcont.not_covers hcov
    have hdecided : Decided env o ma (onGTID env o ma) := Decided.of_onGTID o ma
    cases hdecided with
    | skip _ result | miss _ _ _ _ result => rw [result]
    | accept hcont ma₁ hm result =>
      rw [result]
      rcases hm with rfl | hm
      · rfl
      · have hlog := hm.log_eq (hnone hcont)
        exact hlog
    | stopped hcont e ma₁ hm result =>
      rw [result]
      have hlog := hm.log_eq (hnone hcont)
      exact hlog

lemma settle_eq_of_quiet {case : String} {force : Bool} (hs : ma.state ∈ resting)
    (hstate : ma.state ∉ [State.ddl, .dcl])
    (hforce : ma.state = .xid → 1 ≤ ma.pendingCommitCount → force = false) :
    settle env case force ma = (.ok (), ma) := by
  cases Settled.of_settle env case force ma hs with
  | idle _ result => exact result
  | checkpointed hs' => exact absurd hs' (by simpa using hstate)
  | merged hxid htrue hm =>
    have hp : ¬ 1 ≤ ma.pendingCommitCount := fun hp => by simp [hforce hxid hp] at htrue
    cases hm with
    | idle _ result => exact result
    | flushed hp' | missing hp' | refused hp' => exact absurd hp' hp

/-- A quiet GTID writes nothing. -/
lemma Quiet.start_log {o : MysqlOperationGTID} (h : Quiet conf ma o) :
    (MysqlApplier.start conf env (.gtid o) ma).2.log = ma.log ++ [.receive (.gtid o)] := by
  let ma₀ : MysqlApplier := stamped (takes (.gtid o) ma)
  let force := evaluateForceMergeCommit conf ma₀
  have hstart : MysqlApplier.start conf env (.gtid o) ma = finish (.gtid o)
      ((settle env "gtid" force >>= fun _ => onGTID env o >>= fun _ => setState .gtid) ma₀) :=
    start_gtid_eq conf o ma
  have hstate (s : State) (hs : s ≠ .null) : ma₀.state = s → ma.gtidSkip = false ∧ ma.state = s := by
    intro heq
    cases hskip : ma.gtidSkip with
    | true => simp [ma₀, stamped, takes, emit, hskip, Ne.symm hs] at heq
    | false => simpa [ma₀, stamped, takes, emit, hskip] using heq
  rw [hstart, finish_log]
  by_cases hs : ma₀.state ∈ resting
  · have hddl : ma₀.state ∉ [State.ddl, .dcl] := by
      intro hmem
      simp only [List.mem_cons, List.not_mem_nil, or_false] at hmem
      rcases hmem with heq | heq
      · obtain ⟨hskip, heq⟩ := hstate .ddl (by simp) heq
        exact h.1 hskip (by simp [heq])
      · obtain ⟨hskip, heq⟩ := hstate .dcl (by simp) heq
        exact h.1 hskip (by simp [heq])
    have hforce : ma₀.state = .xid → 1 ≤ ma₀.pendingCommitCount → force = false := by
      intro hxid hp
      obtain ⟨hskip, hxid⟩ := hstate .xid (by simp) hxid
      have hnot := (evaluateForceMergeCommit_stamped conf (takes (.gtid o) ma)).not.mpr
        ((h.2 hp).1 hskip hxid)
      exact Bool.eq_false_iff.mpr hnot
    have hlog : (onGTID env o ma₀).2.log = ma₀.log := onGTID_log_eq fun hp => (h.2 hp).2
    rw [Prog.bind_of_ok (settle_eq_of_quiet hs hddl hforce), bind_setState_apply, thenState_log, hlog]
    rfl
  · rw [Prog.bind_of_error (settle_of_notMem env "gtid" force ma₀ hs)]
    rfl

/-- The operations at which a turn writes a map, once the GTIDs are quiet. -/
lemma settles_of_mem_log {l : List Event} {written : GtidSetsMap} {r : Reply}
    (hquiet : ∀ o, op = .gtid o → Quiet conf ma o)
    (hl : (MysqlApplier.start conf env op ma).2.log = ma.log ++ .receive op :: l)
    (h : .call (.putGtidsets written) r ∈ l) :
    ma.gtidSkip = false ∧ op.settles = true ∧ ma.state ≠ .null := by
  cases hop : op.isGTID with
  | true =>
    obtain ⟨o, rfl⟩ : ∃ o, op = .gtid o := by cases op <;> simp_all [MysqlOperation.isGTID]
    rw [(hquiet o rfl).start_log] at hl
    obtain rfl : [] = l := (List.cons.inj (List.append_cancel_left hl)).2
    simp at h
  | false =>
    cases Turn.of_start conf env op ma with
    | skipped hskip _ result =>
      rw [result, emit] at hl
      obtain rfl : [] = l := (List.cons.inj (List.append_cancel_left hl)).2
      simp at h
    | taken hnot x₁ hd result =>
      have hskip := hnot hop
      rcases settles_or_writesNothing hd with hgtid | ⟨hsettles, hstate⟩ | ⟨l', hl', hnone⟩
      · simp [hop] at hgtid
      · rw [takes_state hskip] at hstate
        exact ⟨hskip, hsettles, hstate⟩
      · rw [result, finish_log, hl', takes, emit, List.append_assoc] at hl
        obtain rfl : l' = l := (List.cons.inj (List.append_cancel_left hl)).2
        exact absurd (hnone _ h) (by simp [Event.isWrite])

end

/-! ### The theorem -/

section

variable {conf : Settings} {env : Env} {ckpt : Checkpoint} {ts : List Placed}
  {as opers : List MysqlOperation} {op : MysqlOperation} {ma : MysqlApplier}

/-- When the map marks a point, so does every later map: all transactions after one that is not
skipped are uncovered. -/
lemma not_coveredBy_of_later {m : GtidSetsMap} {earlier later : List Placed} {p : Placed}
    (h : StartsAt m (earlier ++ p :: later)) (hp : ¬ p.CoveredBy m) :
    ∀ q ∈ later, ¬ q.CoveredBy m := by
  obtain ⟨before, after, heq, hbefore, hafter⟩ := h
  intro q hq
  refine hafter q ?_
  rcases List.append_eq_append_iff.mp heq with ⟨l, rfl, hl⟩ | ⟨l, rfl, rfl⟩
  · cases l with
    | nil =>
      rw [List.nil_append] at hl
      rw [← hl]
      exact List.mem_cons_of_mem p hq
    | cons p' l =>
      obtain ⟨rfl, -⟩ := List.cons.inj hl
      exact absurd (hbefore p (by simp)) hp
  · simp [hq]

/-- The transaction the stream has come to, when it is not skipped, was not covered at the
start. -/
lemma not_coveredBy_of_skip_eq_false {m : GtidSetsMap} {earlier : List Placed} {p : Placed}
    (hskip : (plain conf m as).skip = false)
    (hgtids : (gtidsOf as).map some = (earlier ++ [p]).map Placed.gtid) : ¬ p.CoveredBy m := by
  obtain ⟨l, l', hl, -, hlast⟩ := List.map_eq_append_iff.mp (hgtids.trans List.map_append)
  obtain ⟨o, l'', rfl, hp, hnil⟩ := List.map_eq_cons_iff.mp hlast
  rw [List.map_nil, List.map_eq_nil_iff] at hnil
  subst hnil
  rintro ⟨o', ho', hcov⟩
  obtain rfl : o = o' := Option.some.inj (hp.trans ho')
  exact not_covers_of_skip_eq_false hskip hl hcov

/-- Where the stream stands at the end of a transaction that is not skipped, the applier's
checkpoint names that end. -/
lemma samePoint_of_stands (hstart : StartsAt ckpt.gtidSetsMap ts)
    (hasc : ts.Pairwise fun p q => ∀ o o', p.gtid = some o → q.gtid = some o' →
      o.serverUUID = o'.serverUUID → o.number < o'.number)
    (hrun : run conf env as (newMysqlApplier ckpt) = (.ok (), ma)) (hskip : ma.gtidSkip = false)
    (hstands : Stands ts as) :
    ∃ earlier p later, ts = earlier ++ p :: later ∧ p.endPosition = ma.position ∧
      (∀ q ∈ earlier ++ [p], q.CoveredBy ma.ckpt.gtidSetsMap) ∧
      ∀ q ∈ later, ¬ q.CoveredBy ma.ckpt.gtidSetsMap := by
  obtain ⟨earlier, p, ⟨later, rfl⟩, hpos, hgtids⟩ := hstands
  have htracks := tracks_run (List.prefix_refl as) hrun
  have hmap := htracks.gtidSetsMap
  rw [List.take_length] at hmap
  have hplain := htracks.skip
  rw [List.take_length, hskip] at hplain
  -- the transactions reached and the GTIDs received are the same
  have hmem (o : MysqlOperationGTID) :
      o ∈ gtidsOf as ↔ ∃ q ∈ earlier ++ [p], q.gtid = some o := by
    rw [← List.mem_map_of_injective (Option.some_injective _), hgtids, List.mem_map]
  refine ⟨earlier, p, later, by simp, (position_run hrun hskip hpos).symm, ?_, ?_⟩
  · intro q hq
    have hq' : q.gtid ∈ (gtidsOf as).map some := by
      rw [hgtids]
      exact List.mem_map_of_mem hq
    obtain ⟨o, ho, hgtid⟩ := List.mem_map.mp hq'
    refine ⟨o, hgtid.symm, ?_⟩
    rw [← hmap]
    exact covers_plain_iff.mpr (.inr ⟨o, ho, rfl, UInt64.le_refl _⟩)
  · rintro q hq ⟨o, ho, hcov⟩
    rw [← hmap, covers_plain_iff] at hcov
    rcases hcov with hcov | ⟨o', ho', hu, hle⟩
    · have hp := not_coveredBy_of_skip_eq_false hplain hgtids
      rw [List.append_assoc] at hstart
      exact not_coveredBy_of_later hstart hp q hq ⟨o, ho, hcov⟩
    · obtain ⟨q', hq', hgtid⟩ := (hmem o').mp ho'
      have hlt := (List.pairwise_append.mp hasc).2.2 q' hq' q hq o' o hgtid ho hu
      exact absurd (UInt64.le_iff_toNat_le.mp hle) (Nat.not_le.mpr hlt)

lemma SamePoint.start (h : SamePoint ts ma.log) (hpunctual : Punctual ts opers)
    (hstart : StartsAt ckpt.gtidSetsMap ts)
    (hasc : ts.Pairwise fun p q => ∀ o o', p.gtid = some o → q.gtid = some o' →
      o.serverUUID = o'.serverUUID → o.number < o'.number)
    (has : as ++ [op] <+: opers) (hrun : run conf env as (newMysqlApplier ckpt) = (.ok (), ma))
    (hquiet : ∀ o, op = .gtid o → Quiet conf ma o) :
    SamePoint ts (MysqlApplier.start conf env op ma).2.log := by
  obtain ⟨l, hl, hemitted⟩ := emits_start conf env op ma
  rw [emit, List.append_assoc, List.singleton_append] at hl
  intro written file pos hinfix
  rw [hl] at hinfix
  rcases Trace.infix_or_infix_of_notMem (by simp) hinfix with hold | hnew
  · exact h written file pos hold
  have hmap := hnew.subset List.mem_cons_self
  have hpos : .call (.putBinlogpos file pos) .ok ∈ l := hnew.subset (by simp)
  obtain ⟨hskip, hsettles, hstate⟩ := settles_of_mem_log hquiet hl hmap
  -- what is written is the checkpoint held when the turn began
  obtain rfl : ma.ckpt.gtidSetsMap = written := by
    cases hemitted _ hmap with
    | frame h => simp [Event.isFrame] at h
    | putGtidsets r => rfl
  obtain ⟨rfl, rfl⟩ : ma.ckpt.binLogFile = file ∧ ma.ckpt.binLogPos = pos := by
    cases hemitted _ hpos with
    | frame h => simp [Event.isFrame] at h
    | putBinlogpos r => exact ⟨rfl, rfl⟩
  rcases hpunctual as op has hsettles with hnil | hstands
  · exact absurd (state_run_of_gtidsOf_eq_nil hrun hnil) hstate
  · exact samePoint_of_stands hstart hasc hrun hskip hstands

end

/-- In a run in which no GTID triggers a checkpoint, the two records of every checkpoint name the
same point of the binlog. -/
theorem samePoint_of_quietAtGtids (conf : Settings) (env : Env) (ckpt : Checkpoint)
    (parse : String → Option (List StmtNode)) (file : String) (events : List BinlogEvent)
    (items : List BinlogItem) (hwf : WellFormedBinlog parse file events items)
    (hstart : StartsAt ckpt.gtidSetsMap (transactionsFrom file items))
    (hquiet : QuietAtGtids conf env ckpt (BinlogExtract.run parse events ⟨file, []⟩).2.moCh) :
    SamePoint (transactionsFrom file items)
      (run conf env (BinlogExtract.run parse events ⟨file, []⟩).2.moCh
        (newMysqlApplier ckpt)).2.log := by
  refine Prog.forEach_along (P := fun _ (ma : MysqlApplier) =>
    SamePoint (transactionsFrom file items) ma.log) _ ?_ ?_ ?_
  · intro written file pos h
    simp [newMysqlApplier] at h
  · intro as op ma has hrun ih
    have hpre := (List.prefix_append as [op]).trans has
    refine ih.start (punctual_extracted hwf) hstart hwf.ascending has hrun fun o hop => ?_
    rw [List.prefix_iff_eq_take.mp hpre] at hrun
    exact hquiet as.length o ma (hop ▸ Prog.getElem?_of_concat_isPrefix has) hrun
  · intro as op e ma _ ih
    exact ih

/-- A row transaction and a DDL statement of the next commit interval, with what stands between
them, and a heartbeat. -/
def rowsThenCreate (between : List BinlogItem) : List BinlogItem :=
  .transaction (.rows ⟨10, "GTIDEvent", 1, 100⟩ ⟨1, some "u:1"⟩ ⟨10, "QueryEvent", 1, 200⟩
    ⟨"db", "BEGIN"⟩ [] (.xid ⟨10, "XIDEvent", 1, 300⟩)) ::
  between ++ [.transaction (.statement ⟨20, "GTIDEvent", 1, 400⟩ ⟨2, some "u:2"⟩
    ⟨20, "QueryEvent", 1, 500⟩ ⟨"db", "CREATE TABLE t (id INT)"⟩),
    .heartbeat ⟨0, "HeartbeatEvent", 1, 0⟩ 30]

def heartbeatBetween : BinlogItem := .heartbeat ⟨0, "HeartbeatEvent", 1, 0⟩ 15

def readStatement (query : String) : Option (List StmtNode) :=
  if query = "BEGIN" then some [.begin] else some [.createTable ⟨"", "t"⟩]

/-- What the extractor sends for it. -/
def rowsThenCreateStream (between : List BinlogItem) : List MysqlOperation :=
  (BinlogExtract.run readStatement ((rowsThenCreate between).flatMap BinlogItem.events)
    ⟨"bin.000001", []⟩).2.moCh

lemma wellFormedBinlog_rowsThenCreate {between : List BinlogItem}
    (h : between = [] ∨ between = [heartbeatBetween]) :
    WellFormedBinlog readStatement "bin.000001"
      ((rowsThenCreate between).flatMap BinlogItem.events) (rowsThenCreate between) where
  events := by rcases h with rfl | rfl <;> rfl
  wellFormed := by
    intro t ht
    have ht' : t = .rows ⟨10, "GTIDEvent", 1, 100⟩ ⟨1, some "u:1"⟩ ⟨10, "QueryEvent", 1, 200⟩
        ⟨"db", "BEGIN"⟩ [] (.xid ⟨10, "XIDEvent", 1, 300⟩) ∨
        t = .statement ⟨20, "GTIDEvent", 1, 400⟩ ⟨2, some "u:2"⟩ ⟨20, "QueryEvent", 1, 500⟩
          ⟨"db", "CREATE TABLE t (id INT)"⟩ := by
      rcases h with rfl | rfl <;> simpa [rowsThenCreate, heartbeatBetween] using ht
    rcases ht' with rfl | rfl
    · rfl
    · trivial
  ascending := by
    have hfirst : BinlogTransaction.gtid (.rows ⟨10, "GTIDEvent", 1, 100⟩ ⟨1, some "u:1"⟩
        ⟨10, "QueryEvent", 1, 200⟩ ⟨"db", "BEGIN"⟩ [] (.xid ⟨10, "XIDEvent", 1, 300⟩)) =
        some ⟨1, 1, 10, "u", 1⟩ := by decide +kernel
    have hsecond : BinlogTransaction.gtid (.statement ⟨20, "GTIDEvent", 1, 400⟩ ⟨2, some "u:2"⟩
        ⟨20, "QueryEvent", 1, 500⟩ ⟨"db", "CREATE TABLE t (id INT)"⟩) =
        some ⟨2, 1, 20, "u", 2⟩ := by decide +kernel
    rcases h with rfl | rfl <;>
      refine List.pairwise_pair.mpr fun o o' ho ho' _ => ?_ <;>
      cases ho.symm.trans hfirst <;> cases ho'.symm.trans hsecond <;> decide

lemma startsAt_empty (ts : List Placed) : StartsAt ∅ ts := by
  refine ⟨[], ts, rfl, by simp, ?_⟩
  rintro q - ⟨o, -, last, hlast, -⟩
  simp at hlast

/-- The condition can be checked GTID by GTID. -/
lemma quietAtGtids_of_all {conf : Settings} {env : Env} {ckpt : Checkpoint}
    {opers : List MysqlOperation}
    (h : ((List.range opers.length).all fun n => match opers[n]? with
      | some (.gtid o) =>
        decide (Quiet conf (run conf env (opers.take n) (newMysqlApplier ckpt)).2 o)
      | _ => true) = true) : QuietAtGtids conf env ckpt opers := by
  intro n o ma hn hrun
  have hlt : n < opers.length := (List.getElem?_eq_some_iff.mp hn).1
  have hquiet := List.all_eq_true.mp h n (List.mem_range.mpr hlt)
  rw [hn, hrun] at hquiet
  exact of_decide_eq_true hquiet

/-- With a heartbeat between the two, no GTID finds anything to write: the batch is written with the
end of the first transaction. -/
theorem samePoint_rowsThenCreate :
    [.call (.putGtidsets (Finmap.insert "u" 1 ∅)) .ok, .call (.putBinlogpos "bin.000001" 300) .ok] <:+:
      (run Settings.unrestricted (fun _ _ => .ok) (rowsThenCreateStream [heartbeatBetween])
        (newMysqlApplier ⟨∅, "", 0⟩)).2.log ∧
    SamePoint (transactionsFrom "bin.000001" (rowsThenCreate [heartbeatBetween]))
      (run Settings.unrestricted (fun _ _ => .ok) (rowsThenCreateStream [heartbeatBetween])
        (newMysqlApplier ⟨∅, "", 0⟩)).2.log := by
  refine ⟨by decide +kernel, ?_⟩
  have hquiet : QuietAtGtids Settings.unrestricted (fun _ _ => .ok) ⟨∅, "", 0⟩
      (rowsThenCreateStream [heartbeatBetween]) := quietAtGtids_of_all (by decide +kernel)
  unfold rowsThenCreateStream at hquiet ⊢
  exact samePoint_of_quietAtGtids _ _ _ _ _ _ _ (wellFormedBinlog_rowsThenCreate (.inr rfl))
    (startsAt_empty _) hquiet

/-- Without one, the GTID of the second flushes the batch at the end of its own event, in the middle
of the second transaction. -/
theorem not_samePoint_rowsThenCreate :
    WellFormedBinlog readStatement "bin.000001" ((rowsThenCreate []).flatMap BinlogItem.events)
      (rowsThenCreate []) ∧
    StartsAt ∅ (transactionsFrom "bin.000001" (rowsThenCreate [])) ∧
    ¬ SamePoint (transactionsFrom "bin.000001" (rowsThenCreate []))
      (run Settings.unrestricted (fun _ _ => .ok) (rowsThenCreateStream [])
        (newMysqlApplier ⟨∅, "", 0⟩)).2.log := by
  refine ⟨wellFormedBinlog_rowsThenCreate (.inl rfl), startsAt_empty _, fun h => ?_⟩
  have hwritten : [.call (.putGtidsets (Finmap.insert "u" 1 ∅)) .ok,
      .call (.putBinlogpos "bin.000001" 400) .ok] <:+:
      (run Settings.unrestricted (fun _ _ => .ok) (rowsThenCreateStream [])
        (newMysqlApplier ⟨∅, "", 0⟩)).2.log := by
    decide +kernel
  obtain ⟨earlier, p, later, hts, hpos, -⟩ := h _ _ _ hwritten
  have hmem : p ∈ transactionsFrom "bin.000001" (rowsThenCreate []) := by simp [hts]
  have hends : ∀ p ∈ transactionsFrom "bin.000001" (rowsThenCreate []),
      p.endPosition ≠ ("bin.000001", 400) := by
    decide +kernel
  exact hends p hmem hpos

end MysqlSync
