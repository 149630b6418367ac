import MysqlSync.Applier.Tracking
import MysqlSync.Applier.Writes

/-!
# The checkpoint and the data

When is the map in Consul ahead of the destination? `CheckpointNotAhead` asks of every point of a
run that whatever the written map covers is committed. The heartbeat and GTID cases keep to it:
they write the map when no transaction is open and the groups it covers are complete. The
`MergeCommit` at the head of the DDL and DCL cases does not, because by then the map already holds
the GTID of the statement that is about to be executed; `FlushedBefore` is what has to be true of
a run for this not to matter.
-/

namespace MysqlSync

open MysqlApplier

/-! ### Well-formed streams -/

/-- Where a stream stands: between groups, after a GTID, in a row transaction, or after a DDL or
DCL operation. -/
inductive Phase where
  | rest
  | gtid
  | row
  | nonRow
  deriving DecidableEq, Repr

/-- The grammar of streams: GTID then `BEGIN`, row changes and `XID`, or GTID then DDL and DCL
operations; binlog positions anywhere and heartbeats between groups. -/
def Phase.next (phase : Phase) : MysqlOperation → Option Phase
  | .binLogPos _ => some phase
  | .heartbeat _ => if phase = .row then none else some .rest
  | .gtid _ => if phase = .row then none else some .gtid
  | .ddlDatabase _ | .ddlTable _ | .dclUser _ =>
    if phase = .gtid ∨ phase = .nonRow then some .nonRow else none
  | .begin _ => if phase = .gtid then some .row else none
  | .dmlInsert _ | .dmlDelete _ | .dmlUpdate _ => if phase = .row then some .row else none
  | .xid _ => if phase = .row then some .rest else none

def phaseAfter (opers : List MysqlOperation) : Option Phase := opers.foldlM Phase.next .rest

/-- A stream made of well-formed groups, the last of which may still be incomplete. -/
def WellFormed (opers : List MysqlOperation) : Prop := (phaseAfter opers).isSome = true

instance (opers : List MysqlOperation) : Decidable (WellFormed opers) :=
  inferInstanceAs (Decidable (_ = true))

section

variable {opers : List MysqlOperation} {i n : ℕ} {op : MysqlOperation}

lemma Phase.next_heartbeat {phase phase' : Phase} {o : MysqlOperationHeartbeat}
    (h : phase.next (.heartbeat o) = some phase') : phase' = .rest := by
  simp only [Phase.next] at h
  split_ifs at h
  exact (Option.some.inj h).symm

/-- Between groups only a GTID leads on. -/
lemma Phase.next_rest {phase : Phase} (h : Phase.rest.next op = some phase)
    (hop : op.isGTID = false) :
    phase = .rest ∧ op.isDML = false ∧ op.isNonDML = false := by
  cases op <;> simp_all [Phase.next, MysqlOperation.isDML, MysqlOperation.isNonDML,
    MysqlOperation.isGTID]

lemma phaseAfter_concat (opers : List MysqlOperation) (op : MysqlOperation) :
    phaseAfter (opers ++ [op]) = (phaseAfter opers).bind (·.next op) := by
  simp [phaseAfter, List.foldlM_append]

lemma phaseAfter_take_succ (hi : opers[i]? = some op) :
    phaseAfter (opers.take (i + 1)) = (phaseAfter (opers.take i)).bind (·.next op) := by
  rw [List.take_add_one, hi]
  exact phaseAfter_concat _ _

lemma WellFormed.take (h : WellFormed opers) (i : ℕ) : WellFormed (opers.take i) := by
  induction opers using List.reverseRecOn with
  | nil => simpa using h
  | append_singleton opers op ih =>
    have hopers : WellFormed opers := by
      rw [WellFormed, phaseAfter_concat] at h
      cases hp : phaseAfter opers <;> simp_all [WellFormed]
    rcases le_or_gt i opers.length with hi | hi
    · rw [List.take_append_of_le_length hi]
      exact ih hopers
    · rw [List.take_of_length_le (by simpa using Nat.succ_le_of_lt hi)]
      exact h

/-- After a heartbeat nothing but positions and heartbeats comes before the next GTID. -/
lemma WellFormed.after_heartbeat (h : WellFormed opers) {o : MysqlOperationHeartbeat}
    (hn : opers[n]? = some (.heartbeat o)) {j : ℕ} (hnj : n ≤ j)
    (hno : ∀ l op, n < l → l ≤ j → opers[l]? = some op → op.isGTID = false)
    (hj : opers[j]? = some op) :
    phaseAfter (opers.take (j + 1)) = some .rest ∧ (op.isDML = false ∧ op.isNonDML = false) := by
  have hsome (i : ℕ) : ∃ phase, phaseAfter (opers.take i) = some phase :=
    Option.isSome_iff_exists.mp (h.take i)
  induction j, hnj using Nat.le_induction generalizing op with
  | base =>
    obtain rfl : op = .heartbeat o := Option.some.inj (hj.symm.trans hn)
    obtain ⟨phase, hphase⟩ := hsome n
    obtain ⟨phase', hphase'⟩ := hsome (n + 1)
    have hnext : phase.next (.heartbeat o) = some phase' := by
      rw [← hphase', phaseAfter_take_succ hn, hphase]
      rfl
    rw [hphase', Phase.next_heartbeat hnext]
    exact ⟨rfl, rfl, rfl⟩
  | succ j hnj ih =>
    obtain ⟨op', hop'⟩ : ∃ op', opers[j]? = some op' := by
      have hlt := (List.getElem?_eq_some_iff.mp hj).1
      exact ⟨_, List.getElem?_eq_getElem (Nat.lt_of_succ_lt hlt)⟩
    obtain ⟨hrest, -⟩ := ih (fun l op hl hl' => hno l op hl (hl'.trans (Nat.le_succ j))) hop'
    obtain ⟨phase, hphase⟩ := hsome (j + 1 + 1)
    have hnext : Phase.rest.next op = some phase := by
      rw [← hphase, phaseAfter_take_succ hj, hrest]
      rfl
    have hgtid := hno (j + 1) op (Nat.lt_succ_of_le hnj) le_rfl hj
    obtain ⟨rfl, hdml⟩ := Phase.next_rest hnext hgtid
    exact ⟨hphase, hdml⟩

end

/-! ### The property -/

/-- Position `j` belongs to the group that the GTID at position `k` begins. -/
def InGroup (opers : List MysqlOperation) (k j : ℕ) : Prop :=
  k < j ∧ ∀ l op, k < l → l ≤ j → opers[l]? = some op → op.isGTID = false

/-- Every statement of the group is committed, with success or with an error on the skip list,
or was suppressed by the filter or for want of a primary key. -/
def GroupCommitted (conf : Settings) (opers : List MysqlOperation) (k : ℕ) (w : World) : Prop :=
  ∀ j op, InGroup opers k j → opers[j]? = some op →
    statement conf op = .ok none ∨
    ∃ e ∈ w.committed, e.pos = j ∧ statement conf op = .ok (some e.statement) ∧
      e.reply.Tolerated conf

/-- At every point of the run: if the map last written covers the GTID of a group that was not
skipped when it arrived, the group is committed. -/
def CheckpointNotAhead (conf : Settings) (env : Env) (ckpt : Checkpoint)
    (opers : List MysqlOperation) : Prop :=
  ∀ p, p <+: (run conf env opers (newMysqlApplier ckpt)).2.log →
    ∀ written, (World.replay p).gtidsets = some written →
    ∀ k o ma, run conf env (opers.take k) (newMysqlApplier ckpt) = (.ok (), ma) →
      opers[k]? = some (.gtid o) →
      ¬ ma.ckpt.gtidSetsMap.Covers o.serverUUID o.trxID.toUInt64 →
      written.Covers o.serverUUID o.trxID.toUInt64 →
      GroupCommitted conf opers k (World.replay p)

/-- Nothing is left to execute, from position `n` on, of the groups that began before it. -/
def GroupsOver (conf : Settings) (opers : List MysqlOperation) (n : ℕ) : Prop :=
  ∀ k j op, k < n → n ≤ j → InGroup opers k j → opers[j]? = some op →
    statement conf op = .ok none

/-- Whenever a DDL or DCL operation of a group that is not skipped is consumed, no batch is
pending, or nothing of the group is left to execute. -/
def FlushedBefore (conf : Settings) (env : Env) (ckpt : Checkpoint)
    (opers : List MysqlOperation) : Prop :=
  ∀ n op ma, opers[n]? = some op → op.isNonDML = true →
    run conf env (opers.take n) (newMysqlApplier ckpt) = (.ok (), ma) → ma.gtidSkip = false →
    ma.pendingCommitCount = 0 ∨ GroupsOver conf opers n

/-! ### The map only grows -/

/-- Whatever a map covers, it covers after a GTID it does not cover is entered. -/
lemma GtidSetsMap.Covers.insert {m : GtidSetsMap} {u u' : String} {n n' : UInt64}
    (h : m.Covers u n) (hnot : ¬ m.Covers u' n') :
    GtidSetsMap.Covers (Finmap.insert u' n' m) u n := by
  obtain ⟨last, hlast, hle⟩ := h
  by_cases hu : u = u'
  · subst hu
    refine ⟨n', Finmap.lookup_insert m, ?_⟩
    have hlt : last < n' := UInt64.not_le.mp fun hle' => hnot ⟨last, hlast, hle'⟩
    exact UInt64.le_trans hle (UInt64.le_of_lt hlt)
  · exact ⟨last, by rw [Finmap.lookup_insert_of_ne _ hu, hlast], hle⟩

section

variable {conf : Settings} {m : GtidSetsMap} {opers : List MysqlOperation} {u : String} {n : UInt64}

lemma Plain.step_covers {p : Plain} (h : p.gtidSetsMap.Covers u n) (op : MysqlOperation) :
    (Plain.step conf p op).gtidSetsMap.Covers u n := by
  cases hop : op.isGTID with
  | false => rwa [Plain.step_gtidSetsMap hop]
  | true =>
    obtain ⟨o, rfl⟩ : ∃ o, op = .gtid o := by cases op <;> simp_all [MysqlOperation.isGTID]
    by_cases hcov : p.gtidSetsMap.Covers o.serverUUID o.trxID.toUInt64
    · rwa [Plain.step_of_covers _ hcov]
    · rw [Plain.step_of_not_covers _ hcov]
      exact h.insert hcov

lemma plain_covers_mono {i j : ℕ} (hij : i ≤ j)
    (h : (plain conf m (opers.take i)).gtidSetsMap.Covers u n) :
    (plain conf m (opers.take j)).gtidSetsMap.Covers u n := by
  induction j, hij using Nat.le_induction with
  | base => exact h
  | succ j hij ih =>
    cases hop : opers[j]? with
    | none =>
      have hlen : opers.length ≤ j := List.getElem?_eq_none_iff.mp hop
      rw [List.take_of_length_le hlen] at ih
      rwa [List.take_of_length_le (hlen.trans (Nat.le_succ j))]
    | some op =>
      rw [plain_take_succ hop]
      exact Plain.step_covers ih op

end

/-! ### Durability along a run -/

section

variable (conf : Settings) (m : GtidSetsMap) (opers : List MysqlOperation)

/-- The property at one point of a run, with the plain run in the place of the applier's map. -/
def Durable (w : World) : Prop :=
  ∀ written, w.gtidsets = some written → ∀ k o, opers[k]? = some (.gtid o) →
    ¬ (plain conf m (opers.take k)).gtidSetsMap.Covers o.serverUUID o.trxID.toUInt64 →
    written.Covers o.serverUUID o.trxID.toUInt64 → GroupCommitted conf opers k w

end

section

variable {conf : Settings} {env : Env} {m : GtidSetsMap} {opers : List MysqlOperation} {n : ℕ}
  {ma ma₁ : MysqlApplier} {op : MysqlOperation} {w w' : World} {log : List Event}

lemma groupsOver_of_gtid {o : MysqlOperationGTID} (hn : opers[n]? = some (.gtid o)) :
    GroupsOver conf opers n := by
  intro k j op hkn hnj hgroup _
  exact absurd (hgroup.2 n (.gtid o) hkn hnj hn) (by simp [MysqlOperation.isGTID])

lemma statement_eq_none {op : MysqlOperation} (hdml : op.isDML = false)
    (hnon : op.isNonDML = false) : statement conf op = .ok none := by
  cases op <;> simp_all [MysqlOperation.isDML, MysqlOperation.isNonDML, statement, nonDMLQuery,
    dmlQuery]

lemma groupsOver_of_heartbeat (hwf : WellFormed opers) {o : MysqlOperationHeartbeat}
    (hn : opers[n]? = some (.heartbeat o)) : GroupsOver conf opers n := by
  intro k j op hkn hnj hgroup hop
  obtain ⟨-, hdml, hnon⟩ := hwf.after_heartbeat hn hnj
    (fun l op hnl hlj => hgroup.2 l op (hkn.trans hnl) hlj) hop
  exact statement_eq_none hdml hnon

lemma GroupCommitted.mono {k : ℕ} (h : GroupCommitted conf opers k w)
    (hsub : ∀ e ∈ w.committed, e ∈ w'.committed) : GroupCommitted conf opers k w' := by
  intro j op hj hop
  rcases h j op hj hop with hnone | ⟨e, he, hrest⟩
  · exact .inl hnone
  · exact .inr ⟨e, hsub e he, hrest⟩

lemma Durable.after (h : Durable conf m opers w) {e : Event} (he : e.isWrite = false) :
    Durable conf m opers (w.after e) := by
  obtain ⟨hgs, hsub⟩ := World.after_of_not_isWrite he w
  intro written hw k o hk hnot hcov
  rw [hgs] at hw
  exact (h written hw k o hk hnot hcov).mono hsub

/-- Events that do not write the map keep the property. -/
lemma durable_append {events : List Event} (h : Throughout (Durable conf m opers) log)
    (hev : ∀ e ∈ events, e.isWrite = false) :
    Throughout (Durable conf m opers) (log ++ events) :=
  throughout_append.mpr ⟨h, Trace.always_of_forall h.last fun _ hw _ he => hw.after (hev _ he)⟩

/-- When nothing is held in a transaction, every group that is over is committed. -/
lemma Follows.groupCommitted (h : Follows conf m opers n w.committed [])
    (hbuilt : Built conf m opers n) (hover : GroupsOver conf opers n) {k : ℕ}
    {o : MysqlOperationGTID} (hkn : k < n) (hk : opers[k]? = some (.gtid o))
    (hnot : ¬ (plain conf m (opers.take k)).gtidSetsMap.Covers o.serverUUID o.trxID.toUInt64) :
    GroupCommitted conf opers k w := by
  intro j op hgroup hop
  rcases Nat.lt_or_ge j n with hjn | hnj
  swap
  · exact .inl (hover k j op hkn hnj hgroup hop)
  have hskip : (plain conf m (opers.take j)).skip = false := by
    rw [plain_skip_eq (Nat.succ_le_of_lt hgroup.1), plain_take_succ hk,
      Plain.step_of_not_covers _ hnot]
    exact fun l op hkl hlj => hgroup.2 l op hkl hlj.le
  obtain ⟨_ | st, hst⟩ := hbuilt j op hjn hop hskip
  · exact .inl hst
  have hmem : (j, st) ∈ (plain conf m (opers.take n)).applied := by
    refine mem_plain_applied.mpr ⟨op, ?_, ?_, hst⟩
    · rw [List.getElem?_take_of_lt hjn]
      exact hop
    · rw [List.take_take, min_eq_left hjn.le]
      exact hskip
  rw [← h.applied] at hmem
  obtain ⟨e, he, hkey⟩ := List.mem_map.mp hmem
  obtain ⟨rfl, rfl⟩ := Prod.mk.inj hkey
  exact .inr ⟨e, by simpa using he, rfl, hst, h.tolerated e he⟩

/-- A checkpoint with the current map, while no transaction is open and the groups before are
over. -/
lemma Between.durable_checkpoint (h : Between conf m opers n ma) (htx : ma.tx = false)
    (hbuilt : Built conf m opers n) (hover : GroupsOver conf opers n)
    (hd : Throughout (Durable conf m opers) ma.log) {ma' : MysqlApplier}
    (hmap : (plain conf m (opers.take n)).gtidSetsMap = ma'.ckpt.gtidSetsMap) (r₁ r₂ : Reply) :
    Throughout (Durable conf m opers) (ma.log ++ checkpointEvents ma' r₁ r₂) := by
  refine throughout_append.mpr ⟨hd, always_checkpointEvents (fun gs bp hgs => ?_) r₁ r₂⟩
  intro written hw k o hk hnot hcov
  rcases hgs with hgs | hgs
  · exact hd.last written (hgs.symm.trans hw) k o hk hnot hcov
  · obtain rfl : written = ma'.ckpt.gtidSetsMap := Option.some.inj (hw.symm.trans hgs)
    -- the map held the GTID before position `n`, so the group began there
    have hkn : k < n := by
      by_contra hnk
      rw [← hmap] at hcov
      exact hnot (plain_covers_mono (Nat.le_of_not_lt hnk) hcov)
    exact (h.follows_nil htx).groupCommitted hbuilt hover hkn hk hnot

lemma Between.durable_merged (h : Between conf m opers n ma) (hbuilt : Built conf m opers n)
    (hover : 1 ≤ ma.pendingCommitCount → GroupsOver conf opers n)
    (hmap : (plain conf m (opers.take n)).gtidSetsMap = ma.ckpt.gtidSetsMap)
    (hd : Throughout (Durable conf m opers) ma.log) {x : Ending} (hm : Merged env ma x) :
    Throughout (Durable conf m opers) x.2.log := by
  cases hm with
  | idle hp result =>
    subst result
    exact hd
  | flushed hp htx r₁ r₂ result =>
    subst result
    have hcommit : Throughout (Durable conf m opers) (ma.log ++ [.call .commit .ok]) :=
      durable_append hd (by simp [Event.isWrite])
    have hck := h.commit.durable_checkpoint rfl hbuilt (hover hp) hcommit hmap r₁ r₂
    rw [emit_log, List.append_assoc] at hck
    exact hck
  | missing hp htx result =>
    subst result
    exact hd
  | refused hp htx r hr henv result =>
    subst result
    exact durable_append hd (by simp [Event.isWrite])

lemma Between.durable_settled {force : Bool} (h : Between conf m opers n ma)
    (hbuilt : Built conf m opers n) (hover : GroupsOver conf opers n)
    (hrest : ma.state ∈ [State.ddl, .dcl] → ma.pendingCommitCount = 0)
    (hmap : (plain conf m (opers.take n)).gtidSetsMap = ma.ckpt.gtidSetsMap)
    (hd : Throughout (Durable conf m opers) ma.log) {x : Ending} (hset : Settled env force ma x) :
    Throughout (Durable conf m opers) x.2.log := by
  cases hset with
  | idle hs result =>
    subst result
    exact hd
  | checkpointed hs r₁ r₂ result =>
    subst result
    have hp : ma.pendingCommitCount = 0 := hrest (by simpa using hs)
    exact h.durable_checkpoint (h.tx_eq_false hp) hbuilt hover hd hmap r₁ r₂
  | merged hs hforce hm => exact h.durable_merged hbuilt (fun _ => hover) hmap hd hm

lemma Between.durable_decided {o : MysqlOperationGTID} (h : Between conf m opers n ma)
    (hbuilt : Built conf m opers n) (hover : GroupsOver conf opers n)
    (hmap : (plain conf m (opers.take n)).gtidSetsMap = ma.ckpt.gtidSetsMap)
    (hd : Throughout (Durable conf m opers) ma.log) {x : Ending} (hdec : Decided env o ma x) :
    Throughout (Durable conf m opers) x.2.log := by
  have hb : Between conf m opers n { ma with gtidSkip := false } := { h with }
  cases hdec with
  | skip hcov result =>
    subst result
    exact hd
  | miss last hlast hlt hgap result =>
    subst result
    exact hd
  | accept hc ma₁ hm result =>
    subst result
    rcases hm with rfl | hm
    · exact hd
    · have hmerged := hb.durable_merged hbuilt (fun _ => hover) hmap hd hm
      exact hmerged
  | stopped hc e ma₁ hm result =>
    subst result
    exact hb.durable_merged hbuilt (fun _ => hover) hmap hd hm

/-! ### Turns and runs -/

lemma WritesNothing.durable {x : Ending} (h : WritesNothing ma x)
    (hd : Throughout (Durable conf m opers) ma.log) :
    Throughout (Durable conf m opers) x.2.log := by
  obtain ⟨l, hl, hev⟩ := h
  rw [hl]
  exact durable_append hd hev

lemma Tracks.durable_dispatched (h : Tracks conf m opers n ma) (hwf : WellFormed opers)
    (hn : opers[n]? = some op) (hnot : op.isGTID = false → ma.gtidSkip = false)
    (hflush : op.isNonDML = true → ma.pendingCommitCount = 0 ∨ GroupsOver conf opers n)
    (hd : Throughout (Durable conf m opers) ma.log) {x : Ending}
    (hdis : Dispatched conf env op (takes op ma) x) :
    Throughout (Durable conf m opers) x.2.log := by
  have hd₀ : Throughout (Durable conf m opers) (takes op ma).log :=
    durable_append hd (by simp [Event.isWrite])
  have hrest : (stamped (takes op ma)).state ∈ [State.ddl, .dcl] →
      (stamped (takes op ma)).pendingCommitCount = 0 := fun hs => h.pending_of_stamped hs
  have hmerged (hop : op.isNonDML = true) (hs : (takes op ma).state ∈ allowed op) {x : Ending}
      (hm : Merged env (takes op ma) x) : Throughout (Durable conf m opers) x.2.log := by
    refine (h.between_nonDML hop hs).durable_merged h.built (fun hp => ?_) h.gtidSetsMap hd₀ hm
    rcases hflush hop with hzero | hover
    · exact absurd (hzero ▸ hp : 1 ≤ 0) (by simp)
    · exact hover
  cases hdis with
  | refused _ _ result | binLogPos _ _ result | beginMerged _ _ _ _ result
  | dmlStop _ _ _ _ result | dml _ _ _ result | dmlMissing _ _ _ _ _ result
  | xid _ _ _ result =>
    subst result
    exact hd₀
  | heartbeat o hop hs x₁ hset result =>
    subst result hop
    rw [thenState_log]
    exact (h.between_stamped hs).durable_settled h.built (groupsOver_of_heartbeat hwf hn) hrest
      h.gtidSetsMap hd₀ hset
  | gtidSettle o hop hs force e ma₁ hset result =>
    subst result hop
    exact (h.between_stamped hs).durable_settled h.built (groupsOver_of_gtid hn) hrest h.gtidSetsMap hd₀ hset
  | gtid o hop hs force ma₁ hset x₂ h₂ result =>
    subst result hop
    rw [thenState_log]
    have hover : GroupsOver conf opers _ := groupsOver_of_gtid hn
    have hd₁ := (h.between_stamped hs).durable_settled h.built hover hrest h.gtidSetsMap hd₀ hset
    refine ((h.between_stamped hs).settled hset).durable_decided h.built hover ?_ hd₁ h₂
    rw [hset.keeps.ckpt]
    exact h.gtidSetsMap
  | nonDMLMerge hop hs e ma₁ hm result =>
    subst result
    exact hmerged hop hs hm
  | nonDML hop hs hq ma₁ hm result =>
    subst result
    have hd₁ := hmerged hop hs hm
    exact hd₁
  | nonDMLExec hop hs schemaContext query hq ma₁ hm x₂ h₂ result =>
    subst result
    rw [thenState_log]
    exact (writesNothing_of_executedNonDML h₂).durable (hmerged hop hs hm)
  | begin o hop hs hp x₁ hb result =>
    subst result
    rw [thenState_log]
    exact (writesNothing_of_began hb).durable hd₀
  | dmlExec hop hs query hq htx x₁ hexec result =>
    subst result
    rw [thenState_log]
    exact (writesNothing_of_executedData hexec).durable hd₀

/-- One turn keeps the property, whether it stops the applier or not. -/
lemma Tracks.durable_start (h : Tracks conf m opers n ma) (hwf : WellFormed opers)
    (hn : opers[n]? = some op)
    (hflush : op.isNonDML = true → ma.gtidSkip = false →
      ma.pendingCommitCount = 0 ∨ GroupsOver conf opers n)
    (hd : Throughout (Durable conf m opers) ma.log) :
    Throughout (Durable conf m opers) (MysqlApplier.start conf env op ma).2.log := by
  have hturn := Turn.of_start conf env op ma
  cases hturn with
  | skipped hskip hop result =>
    rw [result]
    exact durable_append hd (by simp [Event.isWrite])
  | taken hnot x₁ hdis result =>
    rw [result, finish_log]
    refine h.durable_dispatched hwf hn hnot (fun hop => hflush hop ?_) hd hdis
    exact hnot (isGTID_of_isNonDML hop)

end

lemma durable_run {conf : Settings} {env : Env} {ckpt : Checkpoint} {opers : List MysqlOperation}
    (hwf : WellFormed opers) (hflush : FlushedBefore conf env ckpt opers) :
    Throughout (Durable conf ckpt.gtidSetsMap opers)
      (run conf env opers (newMysqlApplier ckpt)).2.log := by
  refine Prog.forEach_along (P := fun _ (ma : MysqlApplier) =>
    Throughout (Durable conf ckpt.gtidSetsMap opers) ma.log) opers ?_ ?_ ?_
  · intro written hw
    simp [World.initial] at hw
  · intro as op ma has hrun ih
    have hpre : as <+: opers := (List.prefix_append as [op]).trans has
    have hn := Prog.getElem?_of_concat_isPrefix has
    refine (tracks_run hpre hrun).durable_start hwf hn (fun hop hskip => ?_) ih
    rw [List.prefix_iff_eq_take.mp hpre] at hrun
    exact hflush as.length op ma hn hop hrun hskip
  · intro as op e ma _ ih
    exact ih

/-- The checkpoint is never ahead of the data in a run over well-formed groups in which no DDL or
DCL statement is reached with a batch pending. -/
theorem checkpointNotAhead_of_flushedBefore (conf : Settings) (env : Env) (ckpt : Checkpoint)
    (opers : List MysqlOperation) (hwf : WellFormed opers)
    (hflush : FlushedBefore conf env ckpt opers) : CheckpointNotAhead conf env ckpt opers := by
  intro p hp written hw k o ma hrun hk hnot hcov
  have hdurable := throughout_iff_forall_isPrefix.mp (durable_run hwf hflush) p hp
  refine hdurable written hw k o hk ?_ hcov
  have htracks := tracks_run (List.take_prefix k opers) hrun
  have hlen : (opers.take k).length = k := by
    rw [List.length_take]
    exact min_eq_left (List.getElem?_eq_some_iff.mp hk).1.le
  rw [hlen] at htracks
  rwa [htracks.gtidSetsMap]

/-- A row transaction and a DDL statement, with the commit intervals of the two. -/
def ddlAfterRows (lastCommitted lastCommitted' : Int64) : List MysqlOperation :=
  [.gtid ⟨lastCommitted, 1, 10, "u", 1⟩, .begin ⟨1, 10⟩,
   .dmlInsert ⟨"db", "t", [⟨"id", 3, .int32 1, false⟩], [0], 10⟩, .xid ⟨10⟩,
   .gtid ⟨lastCommitted', 1, 11, "u", 2⟩,
   .ddlTable ⟨"db", "db", "t", "ALTER TABLE t ADD c INT", 11⟩]

/-- A DDL statement of a new commit interval finds the batch flushed. -/
theorem checkpointNotAhead_ddlAfterRows :
    CheckpointNotAhead Settings.unrestricted (fun _ _ => .ok) ⟨∅, "", 0⟩ (ddlAfterRows 1 2) := by
  refine checkpointNotAhead_of_flushedBefore _ _ _ _ (by decide) ?_
  intro n op ma hn hop hrun _
  have hn5 : n = 5 := by
    match n, hn with
    | 0, hn | 1, hn | 2, hn | 3, hn | 4, hn =>
      cases hn
      exact absurd hop (by decide)
    | 5, _ => rfl
  subst hn5
  have hpending : (run Settings.unrestricted (fun _ _ => .ok) ((ddlAfterRows 1 2).take 5)
      (newMysqlApplier ⟨∅, "", 0⟩)).2.pendingCommitCount = 0 := by decide
  rw [hrun] at hpending
  exact .inl hpending

/-- A DDL statement of the same commit interval is claimed by the written map before it is
executed: a crash right after the write loses it. -/
theorem not_checkpointNotAhead_ddlAfterRows : WellFormed (ddlAfterRows 1 1) ∧
    ¬ CheckpointNotAhead Settings.unrestricted (fun _ _ => .ok) ⟨∅, "", 0⟩ (ddlAfterRows 1 1) := by
  refine ⟨by decide, fun h => ?_⟩
  let ma := (run Settings.unrestricted (fun _ _ => .ok) ((ddlAfterRows 1 1).take 4)
    (newMysqlApplier ⟨∅, "", 0⟩)).2
  have hgroup := h _ (List.take_prefix 10 _) (Finmap.insert "u" 2 ∅) (by decide) 4
    ⟨1, 1, 11, "u", 2⟩ ma rfl rfl (by decide) (by decide)
  have hin : InGroup (ddlAfterRows 1 1) 4 5 := by
    refine ⟨by decide, fun l op hl hl' hop => ?_⟩
    obtain rfl : l = 5 := by omega
    cases hop
    rfl
  rcases hgroup 5 _ hin rfl with hnone | ⟨e, he, hpos, -⟩
  · exact absurd hnone (by decide)
  · have hcommitted : 5 ∉ (World.replay ((run Settings.unrestricted (fun _ _ => .ok)
        (ddlAfterRows 1 1) (newMysqlApplier ⟨∅, "", 0⟩)).2.log.take 10)).committed.map Entry.pos := by
      decide
    exact hcommitted (List.mem_map.mpr ⟨e, he, hpos⟩)

end MysqlSync
