import MysqlSync.Applier.Durability

/-!
# The transaction handle and the batch

The client's transaction is open exactly while a batch is pending or a row transaction is under
way, so the client never finds a transaction where it wants to open one, nor misses one
(`run_ne_tx_error`). A heartbeat flushes the batch unless it falls into a skipped group: then it is
dropped with the group, and a batch that was pending before the group stays pending.
-/

namespace MysqlSync

open MysqlApplier

/-- The errors `tx already exists` and `tx does not exist`. -/
def Stop.isTx : Stop → Bool
  | .txAlreadyExists | .txDoesNotExist => true
  | _ => false

section

variable {conf : Settings} {env : Env} {m : GtidSetsMap} {opers : List MysqlOperation} {k : ℕ}
  {ma ma₁ : MysqlApplier} {op : MysqlOperation} {e : Stop}

/-! ### The handle -/

lemma isTx_of_merged (htx : ma.tx = true ↔ 1 ≤ ma.pendingCommitCount)
    (h : Merged env ma (.error e, ma₁)) : e.isTx = false := by
  cases h with
  | missing hp hclosed result => exact absurd (htx.mpr hp) (by simp [hclosed])
  | refused hp hopen r hr henv result =>
    cases result
    rfl
  | idle hp result => simp at result
  | flushed hp hopen r₁ r₂ result => simp at result

lemma isTx_of_settled {force : Bool} (htx : ma.tx = true ↔ 1 ≤ ma.pendingCommitCount)
    (h : Settled env force ma (.error e, ma₁)) : e.isTx = false := by
  cases h with
  | merged hs hforce h => exact isTx_of_merged htx h
  | idle hs result => simp at result
  | checkpointed hs r₁ r₂ result => simp at result

lemma isTx_of_decided {o : MysqlOperationGTID} (htx : ma.tx = true ↔ 1 ≤ ma.pendingCommitCount)
    (h : Decided env o ma (.error e, ma₁)) : e.isTx = false := by
  cases h with
  | miss last hlast hlt hgap result =>
    cases result
    rfl
  | stopped hc e' ma' hm result =>
    cases result
    have htx' : { ma with gtidSkip := false }.tx = true ↔
        1 ≤ { ma with gtidSkip := false }.pendingCommitCount := htx
    exact isTx_of_merged htx' hm
  | skip hcov result => simp at result
  | accept hc ma' hm result => simp at result

lemma isTx_of_began (htx : ma.tx = false) (h : MysqlClient.Began conf env ma (.error e, ma₁)) :
    e.isTx = false := by
  cases h with
  | already hopen result => exact absurd (htx.symm.trans hopen) (by simp)
  | refused _ r hr henv result =>
    cases result
    rfl
  | session _ l param r hr henv hl result =>
    cases result
    rfl
  | ok _ result => simp at result

lemma isTx_of_executedNonDML {schemaContext query : String} (htx : ma.tx = false)
    (h : MysqlClient.ExecutedNonDML conf env schemaContext query ma (.error e, ma₁)) :
    e.isTx = false := by
  cases h with
  | began e' ma' hb result =>
    cases result
    exact isTx_of_began htx hb
  | use _ r hr henv r'' r' result =>
    cases result
    rfl
  | failed _ r hr henv r'' r' result =>
    cases result
    rfl
  | commit _ r hr r' hr' henv result =>
    cases result
    rfl
  | ok _ r hr result => simp at result

/-- The cases of the type switch: none of them stops for want of a transaction, or because of
one. -/
lemma Tracks.isTx_of_dispatched (h : Tracks conf m opers k ma)
    (hnot : op.isGTID = false → ma.gtidSkip = false)
    (hd : Dispatched conf env op (takes op ma) (.error e, ma₁)) : e.isTx = false := by
  cases hd with
  | refused hs ts result =>
    cases result
    rfl
  | heartbeat o hop hs x₁ hset result =>
    obtain rfl := thenState_eq_error result
    exact isTx_of_settled (h.between_stamped hs).tx_iff hset
  | gtidSettle o hop hs force e' ma' hset result =>
    cases result
    exact isTx_of_settled (h.between_stamped hs).tx_iff hset
  | gtid o hop hs force ma' hset x₂ h₂ result =>
    obtain rfl := thenState_eq_error result
    exact isTx_of_decided ((h.between_stamped hs).settled hset).tx_iff h₂
  | nonDMLMerge hop hs e' ma' hm result =>
    cases result
    exact isTx_of_merged (h.between_nonDML hop hs).tx_iff hm
  | nonDMLExec hop hs schemaContext query hq ma' hm x₂ h₂ result =>
    obtain rfl := thenState_eq_error result
    have hb := (h.between_nonDML hop hs).merged hm
    exact isTx_of_executedNonDML (hb.tx_eq_false hm.pending_eq_zero) h₂
  | begin o hop hs hp x₁ hb result =>
    obtain rfl := thenState_eq_error result
    exact isTx_of_began ((h.between_begin hs).tx_eq_false hp) hb
  | dmlStop hop hs e' hq result =>
    cases result
    rcases dmlQuery_error hq with rfl | rfl
    · rfl
    · rfl
  | dmlMissing hop hs query hq htx result =>
    -- a row change is let through in the states `begin` and `dml` only, where one is open
    have hopen : ma.tx = true := by
      rw [takes_state (hnot (isGTID_of_isDML hop))] at hs
      refine h.tx_iff.mpr (.inr ?_)
      cases op <;> simp_all [MysqlOperation.isDML, allowed]
    exact absurd (htx.symm.trans hopen) (by simp)
  | dmlExec hop hs query hq htx x₁ hexec result =>
    obtain rfl := thenState_eq_error result
    cases hexec with
    | failed r hr henv r'' r' result =>
      cases result
      rfl
    | ok r hr result => simp at result
  | binLogPos o hop result => simp at result
  | nonDML hop hs hq ma' hm result => simp at result
  | beginMerged o hop hs hp result => simp at result
  | dml hop hs hq result => simp at result
  | xid o hop hs result => simp at result

lemma Tracks.isTx_of_start (h : Tracks conf m opers k ma)
    (hstart : MysqlApplier.start conf env op ma = (.error e, ma₁)) : e.isTx = false := by
  have hturn := Turn.of_start conf env op ma
  rw [hstart] at hturn
  cases hturn with
  | skipped hskip hop result => simp at result
  | taken hnot x₁ hd result =>
    obtain rfl := finish_eq_error result
    exact h.isTx_of_dispatched hnot hd

lemma isTx_of_run {ckpt : Checkpoint} {opers : List MysqlOperation}
    (hrun : run conf env opers (newMysqlApplier ckpt) = (.error e, ma)) : e.isTx = false := by
  have hall : ∀ e : Stop, (run conf env opers (newMysqlApplier ckpt)).1 = .error e → e.isTx = false := by
    refine Prog.forEach_induction (P := fun _ r _ => ∀ e : Stop, r = .error e → e.isTx = false) ?_ ?_ ?_
      opers
    · intro e h
      cases h
    · intro as op ma has _ e h
      have htracks := tracks_run (List.prefix_refl as) has
      exact htracks.isTx_of_start (Prod.ext h rfl)
    · intro as op e ma _ ih
      exact ih
  exact hall e (by rw [hrun])

end

/-- The transaction handle matches the applier's bookkeeping: after every sequence of operations
that does not stop the applier, the client holds a transaction if and only if a batch is pending
or the state is `begin` or `dml`, and no sequence of operations stops the applier with
`tx already exists` or `tx does not exist`. -/
theorem tx_iff_and_ne_tx_error (conf : Settings) (env : Env) (ckpt : Checkpoint)
    (opers : List MysqlOperation) :
    (∀ ma, run conf env opers (newMysqlApplier ckpt) = (.ok (), ma) →
      (ma.tx = true ↔ 1 ≤ ma.pendingCommitCount ∨ ma.state = .begin ∨ ma.state = .dml)) ∧
    (run conf env opers (newMysqlApplier ckpt)).1 ≠ .error .txAlreadyExists ∧
    (run conf env opers (newMysqlApplier ckpt)).1 ≠ .error .txDoesNotExist := by
  refine ⟨fun ma hrun => (tracks_run (List.prefix_refl opers) hrun).tx_iff, fun h => ?_, fun h => ?_⟩
  · exact absurd (isTx_of_run (Prod.ext h rfl)) (by simp [Stop.isTx])
  · exact absurd (isTx_of_run (Prod.ext h rfl)) (by simp [Stop.isTx])

/-! ### Heartbeats -/

/-- Nothing is left to flush after `opers`: no batch is pending, no transaction is open, and every
group whose GTID was not skipped when it arrived is committed. -/
structure Flushed (conf : Settings) (env : Env) (ckpt : Checkpoint) (opers : List MysqlOperation)
    (ma : MysqlApplier) : Prop where
  pendingCommitCount : ma.pendingCommitCount = 0
  tx : ma.tx = false ∧ ma.world.tx = none
  committed : ∀ k o ma', opers[k]? = some (.gtid o) →
    run conf env (opers.take k) (newMysqlApplier ckpt) = (.ok (), ma') →
    ¬ ma'.ckpt.gtidSetsMap.Covers o.serverUUID o.trxID.toUInt64 →
    GroupCommitted conf opers k ma.world

section

variable {conf : Settings} {env : Env} {ckpt : Checkpoint} {opers : List MysqlOperation}
  {m : GtidSetsMap} {k : ℕ} {ma ma₁ : MysqlApplier}

/-- Without a batch, and outside a row transaction, everything is flushed. -/
lemma Tracks.flushed (h : Tracks conf ckpt.gtidSetsMap opers opers.length ma)
    (hp : ma.pendingCommitCount = 0) (hs : ma.state ≠ .begin ∧ ma.state ≠ .dml) :
    Flushed conf env ckpt opers ma := by
  have htx : ma.tx = false := by
    rw [Bool.eq_false_iff, Ne, h.tx_iff, hp]
    simp [hs]
  have hnone : ma.world.tx = none :=
    Option.isNone_iff_eq_none.mp (Option.isSome_eq_false_iff.mp (h.tx.symm.trans htx))
  have hfollows : Follows conf ckpt.gtidSetsMap opers opers.length ma.world.committed [] := by
    have hf := h.follows
    rwa [World.opened, hnone] at hf
  have hover : GroupsOver conf opers opers.length := by
    intro k j op _ hj _ hop
    rw [List.getElem?_eq_none hj] at hop
    cases hop
  refine ⟨hp, ⟨htx, hnone⟩, fun k o ma' hk hrun hnot => ?_⟩
  have hkn : k < opers.length := (List.getElem?_eq_some_iff.mp hk).1
  refine hfollows.groupCommitted h.built hover hkn hk ?_
  have htracks := tracks_run (List.take_prefix k opers) hrun
  rw [List.length_take, min_eq_left hkn.le] at htracks
  rwa [htracks.gtidSetsMap]

/-- A heartbeat that is not dropped leaves no batch and the state `null`. -/
lemma Tracks.pending_of_heartbeat {o : MysqlOperationHeartbeat} (h : Tracks conf m opers k ma)
    (hskip : ma.gtidSkip = false)
    (hstart : MysqlApplier.start conf env (.heartbeat o) ma = (.ok (), ma₁)) :
    ma₁.pendingCommitCount = 0 ∧ ma₁.state = .null := by
  have hturn := Turn.of_start conf env (.heartbeat o) ma
  rw [hstart] at hturn
  cases hturn with
  | skipped hskip' hop result => exact absurd (hskip.symm.trans hskip') (by simp)
  | taken hnot x₁ hd result =>
    obtain ⟨ma', rfl, rfl⟩ := finish_eq_ok result
    cases hd with
    | heartbeat o' hop hs x₁ hset result =>
      obtain ⟨ma₂, rfl, rfl⟩ := thenState_eq_ok result
      refine ⟨hset.pending_eq_zero fun hmem => h.rested ?_, rfl⟩
      rwa [stamped, takes_state hskip] at hmem
    | _ => simp_all [MysqlOperation.isNonDML, MysqlOperation.isDML]

end

/-- A heartbeat flushes everything if and only if it does not fall into a skipped group with a
batch pending: a heartbeat that finds a skipped group is dropped, so that what was pending before
the group stays pending. -/
theorem flushed_iff_of_heartbeat (conf : Settings) (env : Env) (ckpt : Checkpoint)
    (opers : List MysqlOperation) (o : MysqlOperationHeartbeat) (ma ma₁ : MysqlApplier)
    (hrun : run conf env opers (newMysqlApplier ckpt) = (.ok (), ma))
    (hstart : MysqlApplier.start conf env (.heartbeat o) ma = (.ok (), ma₁)) :
    Flushed conf env ckpt (opers ++ [.heartbeat o]) ma₁ ↔
      (ma.gtidSkip = true → ma.pendingCommitCount = 0) := by
  have htracks := tracks_run (List.prefix_refl opers) hrun
  have hrun₁ : run conf env (opers ++ [.heartbeat o]) (newMysqlApplier ckpt) = (.ok (), ma₁) := by
    rw [run, Prog.forEach_concat_of_ok hrun]
    exact hstart
  have htracks₁ := tracks_run (List.prefix_refl _) hrun₁
  cases hskip : ma.gtidSkip with
  | false =>
    obtain ⟨hp, hs⟩ := htracks.pending_of_heartbeat hskip hstart
    refine iff_of_true (htracks₁.flushed hp ?_) (by simp)
    simp [hs]
  | true =>
    rw [start_of_skip conf hskip rfl] at hstart
    obtain ⟨-, rfl⟩ := Prod.mk.inj hstart
    have hs : ma.state = .gtid := htracks.skipping hskip
    constructor
    · intro h _
      exact h.pendingCommitCount
    · intro hp
      refine htracks₁.flushed (hp rfl) ?_
      simp [emit, hs]

/-- A row transaction of the server `a`, then one of the server `b`. -/
def rowsOfTwo : List MysqlOperation :=
  [.gtid ⟨1, 1, 10, "a", 1⟩, .begin ⟨1, 10⟩,
   .dmlInsert ⟨"db", "t", [⟨"id", 3, .int32 1, false⟩], [0], 10⟩, .xid ⟨10⟩,
   .gtid ⟨1, 2, 11, "b", 1⟩, .begin ⟨2, 11⟩, .xid ⟨11⟩]

/-- Both transactions are new: the heartbeat flushes them. -/
theorem flushed_rowsOfTwo :
    Flushed Settings.unrestricted (fun _ _ => .ok) ⟨∅, "", 0⟩ (rowsOfTwo ++ [.heartbeat ⟨12⟩])
      (run Settings.unrestricted (fun _ _ => .ok) (rowsOfTwo ++ [.heartbeat ⟨12⟩])
        (newMysqlApplier ⟨∅, "", 0⟩)).2 :=
  (flushed_iff_of_heartbeat _ _ _ rowsOfTwo ⟨12⟩ _ _ rfl rfl).mpr
    (fun h => absurd h (by decide))

/-- The second transaction is skipped: the heartbeat is dropped with it, and the first one stays
in its open transaction. -/
theorem not_flushed_rowsOfTwo :
    WellFormed (rowsOfTwo ++ [.heartbeat ⟨12⟩]) ∧
    (run Settings.unrestricted (fun _ _ => .ok) (rowsOfTwo ++ [.heartbeat ⟨12⟩])
      (newMysqlApplier ⟨Finmap.singleton "b" 1, "", 0⟩)).1 = .ok () ∧
    ¬ Flushed Settings.unrestricted (fun _ _ => .ok) ⟨Finmap.singleton "b" 1, "", 0⟩
      (rowsOfTwo ++ [.heartbeat ⟨12⟩])
      (run Settings.unrestricted (fun _ _ => .ok) (rowsOfTwo ++ [.heartbeat ⟨12⟩])
        (newMysqlApplier ⟨Finmap.singleton "b" 1, "", 0⟩)).2 := by
  refine ⟨by decide, rfl, fun h => ?_⟩
  exact absurd h.pendingCommitCount (by decide)

end MysqlSync
