import MysqlSync.Applier.Plain

/-!
# A run tracks the plain run

`Tracks k ma` is the invariant between turns: after `k` operations the statements committed and
those executed in the open transaction are, in this order, the statements of the plain run, and
the client's transaction, the pending count and the state agree with each other. `Between k ma`
is what is left of it inside the turn of operation `k`, while no row transaction is open. The
lemmas `..._tracks` take the families of `MysqlSync.Applier.Turn` through one by one; no
assumption on the environment is needed for a turn that does not stop.
-/

namespace MysqlSync

open MysqlApplier

def Statement.isDML : Statement → Bool
  | .dml _ => true
  | _ => false

def Entry.key (e : Entry) : ℕ × Statement := (e.pos, e.statement)

/-- The operations that begin or end a group of row changes. -/
def MysqlOperation.isDelimiter : MysqlOperation → Bool
  | .gtid _ | .begin _ | .xid _ => true
  | _ => false

/-- A group begins or ends strictly between two positions. -/
def Delimited (opers : List MysqlOperation) (i j : ℕ) : Prop :=
  ∃ l op, i < l ∧ l < j ∧ opers[l]? = some op ∧ op.isDelimiter = true

lemma Delimited.mono {opers : List MysqlOperation} {i j k : ℕ} (h : Delimited opers i j)
    (hjk : j ≤ k) : Delimited opers i k := by
  obtain ⟨l, op, hil, hlj, hop, hd⟩ := h
  exact ⟨l, op, hil, hlj.trans_le hjk, hop, hd⟩

/-! ### What the destination holds -/

section

variable (conf : Settings) (m : GtidSetsMap) (opers : List MysqlOperation)

/-- The groups of the row statements in `l` are over before position `k`. -/
def Closed (k : ℕ) (l : List Entry) : Prop :=
  ∀ e ∈ l, e.statement.isDML = true → Delimited opers e.pos k

/-- The destination holds the statements of the first `k` operations, and no group of row changes
reaches from the committed part into the open transaction. -/
structure Follows (k : ℕ) (committed opened : List Entry) : Prop where
  applied : (committed ++ opened).map Entry.key = (plain conf m (opers.take k)).applied
  tolerated : ∀ e ∈ committed ++ opened, e.reply.Tolerated conf
  closed : Closed opers k committed
  separated : ∀ e ∈ committed, e.statement.isDML = true → ∀ e' ∈ opened,
    Delimited opers e.pos e'.pos

/-- The destination is in step with the plain run, or one operation behind while that operation
is being processed. -/
def Synced (w : World) : Prop :=
  ∃ k, (k = w.received ∨ k + 1 = w.received) ∧ Follows conf m opers k w.committed w.opened

end

section

variable {conf : Settings} {m : GtidSetsMap} {opers : List MysqlOperation} {k : ℕ}
  {committed opened : List Entry} {op : MysqlOperation}

lemma Closed.mono {l : List Entry} (h : Closed opers k l) {k' : ℕ} (hk : k ≤ k') :
    Closed opers k' l :=
  fun e he hd => (h e he hd).mono hk

/-- A commit while no group of row changes is under way. -/
lemma Follows.commit (h : Follows conf m opers k committed opened)
    (hc : Closed opers k (committed ++ opened)) :
    Follows conf m opers k (committed ++ opened) [] where
  applied := by rw [List.append_nil]; exact h.applied
  tolerated := by rw [List.append_nil]; exact h.tolerated
  closed := hc
  separated := fun _ _ _ _ he' => absurd he' List.not_mem_nil

/-- An operation that executes nothing. -/
lemma Follows.succ (h : Follows conf m opers k committed opened) (hk : opers[k]? = some op)
    (hnone : (plain conf m (opers.take k)).skip = true ∨ Plain.statements conf op = []) :
    Follows conf m opers (k + 1) committed opened where
  applied := by
    rw [h.applied, plain_take_succ hk, Plain.step_applied]
    rcases hnone with hnone | hnone <;> simp [hnone]
  tolerated := h.tolerated
  closed := h.closed.mono (Nat.le_succ k)
  separated := h.separated

/-- An operation whose statement is executed in the open transaction. -/
lemma Follows.exec (h : Follows conf m opers k committed opened) (hk : opers[k]? = some op)
    (hskip : (plain conf m (opers.take k)).skip = false) {st : Statement}
    (hst : statement conf op = .ok (some st)) {r : Reply} (hr : r.Tolerated conf) :
    Follows conf m opers (k + 1) committed (opened ++ [⟨k, st, r⟩]) where
  applied := by
    have hlen : (opers.take k).length = k := by
      rw [List.length_take]
      exact min_eq_left (List.getElem?_eq_some_iff.mp hk).1.le
    rw [← List.append_assoc, List.map_append, h.applied, plain_take_succ hk, Plain.step_applied,
      plain_received, hlen]
    simp [hskip, Plain.statements, hst, Entry.key]
  tolerated := by
    intro e he
    rw [← List.append_assoc, List.mem_append, List.mem_singleton] at he
    rcases he with he | rfl
    · exact h.tolerated e he
    · exact hr
  closed := h.closed.mono (Nat.le_succ k)
  separated := by
    intro e he hd e' he'
    rw [List.mem_append, List.mem_singleton] at he'
    rcases he' with he' | rfl
    · exact h.separated e he hd e' he'
    · exact h.closed e he hd

end

/-! ### The invariant -/

section

variable (conf : Settings) (m : GtidSetsMap) (opers : List MysqlOperation)

/-- Every operation consumed so far and not skipped could be turned into its statement. -/
def Built (k : ℕ) : Prop :=
  ∀ i op, i < k → opers[i]? = some op → (plain conf m (opers.take i)).skip = false →
    ∃ st, statement conf op = .ok st

/-- Between two turns, after `k` operations. -/
structure Tracks (k : ℕ) (ma : MysqlApplier) : Prop where
  synced : Throughout (Synced conf m opers) ma.log
  received : ma.world.received = k
  follows : Follows conf m opers k ma.world.committed ma.world.opened
  gtidSetsMap : (plain conf m (opers.take k)).gtidSetsMap = ma.ckpt.gtidSetsMap
  skip : (plain conf m (opers.take k)).skip = ma.gtidSkip
  tx : ma.tx = ma.world.tx.isSome
  tx_iff : ma.tx = true ↔ 1 ≤ ma.pendingCommitCount ∨ ma.state = .begin ∨ ma.state = .dml
  rested : ma.state ∈ [State.null, .ddl, .dcl] → ma.pendingCommitCount = 0
  skipping : ma.gtidSkip = true → ma.state = .gtid
  closed : ma.state ∉ [State.begin, .dml] → Closed opers k ma.world.executed
  built : Built conf m opers k

/-- Inside the turn of operation `k`, with no row transaction under way. -/
structure Between (k : ℕ) (ma : MysqlApplier) : Prop where
  synced : Throughout (Synced conf m opers) ma.log
  received : ma.world.received = k + 1
  follows : Follows conf m opers k ma.world.committed ma.world.opened
  tx : ma.tx = ma.world.tx.isSome
  tx_iff : ma.tx = true ↔ 1 ≤ ma.pendingCommitCount
  closed : Closed opers k ma.world.executed

end

section

variable {conf : Settings} {env : Env} {m : GtidSetsMap} {opers : List MysqlOperation} {k : ℕ}
  {ma ma₁ : MysqlApplier} {op : MysqlOperation}

/-- The statements held are those of operations before the `k`-th. -/
lemma Follows.pos_lt {committed opened : List Entry}
    (h : Follows conf m opers k committed opened) {e : Entry} (he : e ∈ committed ++ opened) :
    e.pos < k := by
  have hmem : e.key ∈ (plain conf m (opers.take k)).applied :=
    h.applied ▸ List.mem_map_of_mem he
  obtain ⟨op, hop, -⟩ := mem_plain_applied.mp hmem
  have hlt := (List.getElem?_eq_some_iff.mp hop).1
  exact hlt.trans_le (List.length_take_le ..)

/-! ### Inside a turn -/

/-- Receiving the next operation. -/
lemma Tracks.synced_receive (h : Tracks conf m opers k ma) (op : MysqlOperation) :
    Throughout (Synced conf m opers) (ma.log ++ [.receive op]) := by
  refine throughout_append.mpr ⟨h.synced, ⟨k, .inl h.received.symm, h.follows⟩, k, .inr ?_, h.follows⟩
  rw [World.after_receive, h.received]

/-- A turn that starts outside a row transaction. -/
lemma Tracks.between (h : Tracks conf m opers k ma) (hs : ma.state ∉ [State.begin, .dml]) :
    Between conf m opers k (takes op ma) where
  synced := h.synced_receive op
  received := by rw [takes, world_emit]; exact congrArg (· + 1) h.received
  follows := by rw [takes, world_emit]; exact h.follows
  tx := by rw [takes, world_emit]; exact h.tx
  tx_iff := by
    have hiff := h.tx_iff
    simp only [List.mem_cons, List.not_mem_nil, or_false, not_or] at hs
    simp only [hs, or_false] at hiff
    exact hiff
  closed := by rw [takes, world_emit]; exact h.closed hs

lemma Between.checkpoint (h : Between conf m opers k ma) (ma' : MysqlApplier) (r₁ r₂ : Reply) :
    Between conf m opers k (ma.emit (checkpointEvents ma' r₁ r₂)) where
  synced := by
    refine throughout_append.mpr ⟨h.synced, always_checkpointEvents (fun gs bp _ => ?_) r₁ r₂⟩
    exact ⟨k, .inr h.received.symm, h.follows⟩
  received := by rw [world_emit, foldl_checkpointEvents]; exact h.received
  follows := by rw [world_emit, foldl_checkpointEvents]; exact h.follows
  tx := by rw [world_emit, foldl_checkpointEvents]; exact h.tx
  tx_iff := h.tx_iff
  closed := by rw [world_emit, foldl_checkpointEvents]; exact h.closed

/-- Without a batch no transaction is open. -/
lemma Between.tx_eq_false (h : Between conf m opers k ma) (hp : ma.pendingCommitCount = 0) :
    ma.tx = false := by
  rw [Bool.eq_false_iff, Ne, h.tx_iff, hp]
  exact Nat.not_succ_le_zero 0

/-- Committing the batch. -/
lemma Between.commit (h : Between conf m opers k ma) :
    Between conf m opers k
      ({ ma with tx := false, pendingCommitCount := 0, gtidCount := 0 }.emit
        [.call .commit .ok]) where
  synced := throughout_append.mpr ⟨h.synced, ⟨k, .inr h.received.symm, h.follows⟩,
    k, .inr h.received.symm, h.follows.commit h.closed⟩
  received := by rw [world_emit]; exact h.received
  follows := by rw [world_emit]; exact h.follows.commit h.closed
  tx := by rw [world_emit]; rfl
  tx_iff := by simp [emit]
  closed := by
    rw [world_emit]
    intro e he
    exact h.closed e (by simpa [World.executed, World.opened] using he)

lemma Between.merged (h : Between conf m opers k ma) (hm : Merged env ma (.ok (), ma₁)) :
    Between conf m opers k ma₁ := by
  cases hm with
  | idle hp result =>
    obtain ⟨-, rfl⟩ := Prod.mk.inj result
    exact h
  | flushed hp htx r₁ r₂ result =>
    obtain ⟨-, rfl⟩ := Prod.mk.inj result
    have hck := h.commit.checkpoint ma r₁ r₂
    rw [emit_emit] at hck
    exact hck
  | missing hp htx result => simp at result
  | refused hp htx r hr henv result => simp at result

lemma Between.settled {force : Bool} (h : Between conf m opers k ma)
    (hset : Settled env force ma (.ok (), ma₁)) : Between conf m opers k ma₁ := by
  cases hset with
  | idle hs result =>
    obtain ⟨-, rfl⟩ := Prod.mk.inj result
    exact h
  | checkpointed hs r₁ r₂ result =>
    obtain ⟨-, rfl⟩ := Prod.mk.inj result
    exact h.checkpoint ma r₁ r₂
  | merged hs hforce hm => exact h.merged hm

/-! ### Whole turns -/

lemma Built.succ (h : Built conf m opers k) (hk : opers[k]? = some op)
    (hst : (plain conf m (opers.take k)).skip = false → ∃ st, statement conf op = .ok st) :
    Built conf m opers (k + 1) := by
  intro i op' hi hop' hskip
  rcases Nat.lt_succ_iff_lt_or_eq.mp hi with hi | rfl
  · exact h i op' hi hop' hskip
  · obtain rfl : op = op' := Option.some.inj (hk.symm.trans hop')
    exact hst hskip

/-- The end of a turn outside a row transaction that executed nothing. -/
lemma Between.tracks (h : Between conf m opers k ma) (hk : opers[k]? = some op)
    (hst : Plain.statements conf op = []) (hbuilt : Built conf m opers (k + 1))
    (hmap : (plain conf m (opers.take (k + 1))).gtidSetsMap = ma.ckpt.gtidSetsMap)
    (hskip : (plain conf m (opers.take (k + 1))).skip = ma.gtidSkip)
    (hs : ma.state ∉ [State.begin, .dml])
    (hrest : ma.state ∈ [State.null, .ddl, .dcl] → ma.pendingCommitCount = 0)
    (hskipping : ma.gtidSkip = true → ma.state = .gtid) : Tracks conf m opers (k + 1) ma where
  synced := h.synced
  received := h.received
  follows := h.follows.succ hk (.inr hst)
  gtidSetsMap := hmap
  skip := hskip
  tx := h.tx
  tx_iff := by
    simp only [List.mem_cons, List.not_mem_nil, or_false, not_or] at hs
    simp only [hs, or_false]
    exact h.tx_iff
  rested := hrest
  skipping := hskipping
  closed := fun _ => h.closed.mono (Nat.le_succ k)
  built := hbuilt

/-- An operation that is passed over because its group is skipped. -/
lemma Tracks.skipped (h : Tracks conf m opers k ma) (hk : opers[k]? = some op)
    (hskip : ma.gtidSkip = true) (hop : op.isGTID = false) :
    Tracks conf m opers (k + 1) (ma.emit [.receive op]) := by
  have hpskip : (plain conf m (opers.take k)).skip = true := h.skip.trans hskip
  have hfollows := h.follows.succ hk (.inl hpskip)
  exact
    { h with
      synced := h.synced_receive op
      received := by rw [world_emit]; exact congrArg (· + 1) h.received
      follows := by rw [world_emit]; exact hfollows
      gtidSetsMap := by rw [plain_take_succ hk, Plain.step_gtidSetsMap hop]; exact h.gtidSetsMap
      skip := by rw [plain_take_succ hk, Plain.step_skip hop]; exact h.skip
      tx := by rw [world_emit]; exact h.tx
      closed := fun hs => by rw [world_emit]; exact (h.closed hs).mono (Nat.le_succ k)
      built := h.built.succ hk fun hf => absurd (hpskip.symm.trans hf) (by simp) }

lemma Tracks.finish (h : Tracks conf m opers k ma) (op : MysqlOperation) :
    Tracks conf m opers k (MysqlApplier.finish op (.ok (), ma)).2 := by
  obtain ⟨ts, heq⟩ := exists_finish_eq op (.ok (), ma)
  rw [heq]
  exact { h with }

/-- A turn that makes no call. -/
lemma Tracks.quiet (h : Tracks conf m opers k ma) (hk : opers[k]? = some op)
    (hskip : ma.gtidSkip = false) (hgtid : op.isGTID = false) (hst : statement conf op = .ok none)
    (hlog : ma₁.log = ma.log ++ [.receive op])
    (hckpt : ma₁.ckpt.gtidSetsMap = ma.ckpt.gtidSetsMap) (hskip₁ : ma₁.gtidSkip = false)
    (htx : ma₁.tx = ma.tx)
    (htx_iff : ma₁.tx = true ↔ 1 ≤ ma₁.pendingCommitCount ∨ ma₁.state = .begin ∨ ma₁.state = .dml)
    (hrest : ma₁.state ∈ [State.null, .ddl, .dcl] → ma₁.pendingCommitCount = 0)
    (hclosed : ma₁.state ∉ [State.begin, .dml] → Closed opers (k + 1) ma.world.executed) :
    Tracks conf m opers (k + 1) ma₁ := by
  have hworld : ma₁.world = { ma.world with received := k + 1 } := by
    rw [world, hlog, World.replay_append, List.foldl_cons, List.foldl_nil, World.after_receive,
      h.received]
  exact
    { synced := by rw [hlog]; exact h.synced_receive op
      received := by rw [hworld]
      follows := by
        rw [hworld]
        exact h.follows.succ hk (.inr (by simp [Plain.statements, hst]))
      gtidSetsMap := by
        rw [plain_take_succ hk, Plain.step_gtidSetsMap hgtid, h.gtidSetsMap, hckpt]
      skip := by rw [plain_take_succ hk, Plain.step_skip hgtid, h.skip, hskip, hskip₁]
      tx := by rw [hworld, htx]; exact h.tx
      tx_iff := htx_iff
      rested := hrest
      skipping := fun htrue => absurd (hskip₁.symm.trans htrue) (by simp)
      closed := fun hs => by rw [hworld]; exact hclosed hs
      built := h.built.succ hk fun _ => ⟨none, hst⟩ }

lemma Tracks.binLogPos (h : Tracks conf m opers k ma) {o : MysqlOperationBinLogPos}
    (hk : opers[k]? = some (.binLogPos o)) (hskip : ma.gtidSkip = false) :
    Tracks conf m opers (k + 1) { takes (.binLogPos o) ma with
      ckpt := (takes (.binLogPos o) ma).ckpt.setBinlogPos o.file o.pos } := by
  have hstate : (takes (.binLogPos o) ma).state = ma.state := takes_state hskip
  refine h.quiet hk hskip rfl rfl rfl rfl hskip rfl ?_ ?_ ?_
  · rw [hstate]
    exact h.tx_iff
  · rw [hstate]
    exact h.rested
  · rw [hstate]
    exact fun hs => (h.closed hs).mono (Nat.le_succ k)

/-- The state a GTID turn starts from. -/
lemma Tracks.notMem_of_takes (h : Tracks conf m opers k ma) {l : List State}
    (hs : (takes op ma).state ∈ l) (hl : ∀ s ∈ l, s ∉ [State.begin, .dml]) :
    ma.state ∉ [State.begin, .dml] := by
  cases hskip : ma.gtidSkip with
  | true =>
    rw [h.skipping hskip]
    simp
  | false => exact hl _ (by simpa [takes, emit, hskip] using hs)

/-- The destination when a heartbeat or a GTID finds the applier at rest. -/
lemma Tracks.between_stamped (h : Tracks conf m opers k ma) (hs : (takes op ma).state ∈ resting) :
    Between conf m opers k (stamped (takes op ma)) :=
  { h.between (h.notMem_of_takes hs (by simp [resting])) with }

/-- A turn that finds a statement other than a row change done finds no batch. -/
lemma Tracks.pending_of_stamped (h : Tracks conf m opers k ma)
    (hs : (stamped (takes op ma)).state ∈ [State.ddl, .dcl]) : ma.pendingCommitCount = 0 := by
  refine h.rested ?_
  cases hskip : ma.gtidSkip with
  | true => simp [stamped, takes, emit, hskip] at hs
  | false =>
    rw [stamped, takes_state hskip] at hs
    exact List.mem_cons_of_mem _ hs

/-- The destination when a transaction begins. -/
lemma Tracks.between_begin (h : Tracks conf m opers k ma) (hs : (takes op ma).state = .gtid) :
    Between conf m opers k (takes op ma) :=
  h.between (h.notMem_of_takes (List.mem_singleton.mpr hs) (by simp))

/-- The decision on a GTID ends its turn. -/
lemma Between.decided {o : MysqlOperationGTID} {ma₂ : MysqlApplier}
    (h : Between conf m opers k ma) (hk : opers[k]? = some (.gtid o))
    (hmap : (plain conf m (opers.take k)).gtidSetsMap = ma.ckpt.gtidSetsMap)
    (hbuilt : Built conf m opers k) (hd : Decided env o ma (.ok (), ma₂)) :
    Tracks conf m opers (k + 1) { ma₂ with state := .gtid } := by
  have hbuilt' : Built conf m opers (k + 1) := hbuilt.succ hk fun _ => ⟨none, rfl⟩
  cases hd with
  | skip hcov result =>
    obtain ⟨-, rfl⟩ := Prod.mk.inj result
    have hstep := (plain_take_succ hk).trans (Plain.step_of_covers conf (hmap ▸ hcov))
    have hb : Between conf m opers k { ma with gtidSkip := true, state := .gtid } := { h with }
    exact hb.tracks hk rfl hbuilt' (by rw [hstep]; exact hmap) (by rw [hstep]) (by simp) (by simp)
      fun _ => rfl
  | accept hc ma₁ hm result =>
    obtain ⟨-, rfl⟩ := Prod.mk.inj result
    have hstep := (plain_take_succ hk).trans
      (Plain.step_of_not_covers conf (hmap ▸ hc.not_covers))
    have hfalse : Between conf m opers k { ma with gtidSkip := false } := { h with }
    obtain ⟨hb₁, hckpt, hskip⟩ : Between conf m opers k ma₁ ∧ ma₁.ckpt = ma.ckpt ∧
        ma₁.gtidSkip = false := by
      rcases hm with rfl | hm
      · exact ⟨hfalse, rfl, rfl⟩
      · exact ⟨hfalse.merged hm, hm.keeps.ckpt, hm.keeps.gtidSkip⟩
    have hb : Between conf m opers k { ma₁ with
        lastCommitted := o.lastCommitted
        ckpt := ma₁.ckpt.setTrxIdOfServerUUID o.serverUUID o.trxID.toUInt64
        gtidCount := ma₁.gtidCount + 1
        state := .gtid } := { hb₁ with }
    refine hb.tracks hk rfl hbuilt' ?_ ?_ (by simp) (by simp) ?_
    · rw [hstep, hckpt, hmap]
      rfl
    · rw [hstep]
      exact hskip.symm
    · exact fun htrue => absurd (hskip.symm.trans htrue) (by simp)
  | miss last hlast hlt hgap result => simp at result
  | stopped hc e ma₁ hm result => simp at result

lemma Tracks.heartbeat {o : MysqlOperationHeartbeat} (h : Tracks conf m opers k ma)
    (hk : opers[k]? = some (.heartbeat o)) (hskip : ma.gtidSkip = false)
    (hs : (takes (.heartbeat o) ma).state ∈ resting)
    (hset : Settled env true (stamped (takes (.heartbeat o) ma)) (.ok (), ma₁)) :
    Tracks conf m opers (k + 1) { ma₁ with state := .null } := by
  have hb₁ : Between conf m opers k { ma₁ with state := .null } :=
    { (h.between_stamped hs).settled hset with }
  have hckpt : ma₁.ckpt = ma.ckpt := hset.keeps.ckpt
  have hskip₁ : ma₁.gtidSkip = false := hset.keeps.gtidSkip.trans hskip
  have hpending : ma₁.pendingCommitCount = 0 := by
    refine hset.pending_eq_zero fun hmem => h.rested ?_
    rwa [stamped, takes_state hskip] at hmem
  refine hb₁.tracks hk rfl (h.built.succ hk fun _ => ⟨none, rfl⟩) ?_ ?_ (by simp)
    (fun _ => hpending) ?_
  · rw [plain_take_succ hk, Plain.step_gtidSetsMap rfl, h.gtidSetsMap, hckpt]
  · rw [plain_take_succ hk, Plain.step_skip rfl, h.skip, hskip, hskip₁]
  · exact fun htrue => absurd (hskip₁.symm.trans htrue) (by simp)

lemma nonDMLState_mem (op : MysqlOperation) :
    nonDMLState op ∉ [State.begin, .dml] ∧ nonDMLState op ≠ .gtid := by
  cases op <;> simp [nonDMLState]

lemma isGTID_of_isNonDML (hop : op.isNonDML = true) : op.isGTID = false := by
  cases op <;> simp_all [MysqlOperation.isNonDML, MysqlOperation.isGTID]

lemma isGTID_of_isDML (hop : op.isDML = true) : op.isGTID = false := by
  cases op <;> simp_all [MysqlOperation.isDML, MysqlOperation.isGTID]

/-- A turn that begins in a state in which DDL and DCL are allowed. -/
lemma Tracks.between_nonDML (h : Tracks conf m opers k ma) (hop : op.isNonDML = true)
    (hs : (takes op ma).state ∈ allowed op) : Between conf m opers k (takes op ma) := by
  refine h.between (h.notMem_of_takes hs ?_)
  cases op <;> simp_all [MysqlOperation.isNonDML, allowed]

/-- A filtered DDL or DCL statement. -/
lemma Tracks.nonDML (h : Tracks conf m opers k ma) (hk : opers[k]? = some op)
    (hskip : ma.gtidSkip = false) (hop : op.isNonDML = true)
    (hs : (takes op ma).state ∈ allowed op) (hq : nonDMLQuery conf op = none)
    (hm : Merged env (takes op ma) (.ok (), ma₁)) :
    Tracks conf m opers (k + 1) { ma₁ with state := nonDMLState op } := by
  have hb₁ : Between conf m opers k { ma₁ with state := nonDMLState op } :=
    { (h.between_nonDML hop hs).merged hm with }
  have hst := statement_of_isNonDML conf hop hq
  have hpending : ma₁.pendingCommitCount = 0 := hm.pending_eq_zero
  have hckpt : ma₁.ckpt = ma.ckpt := hm.keeps.ckpt
  have hskip₁ : ma₁.gtidSkip = false := hm.keeps.gtidSkip.trans hskip
  refine hb₁.tracks hk (by simp [Plain.statements, hst]) (h.built.succ hk fun _ => ⟨none, hst⟩) ?_ ?_
    (nonDMLState_mem op).1 (fun _ => hpending) ?_
  · rw [plain_take_succ hk, Plain.step_gtidSetsMap (isGTID_of_isNonDML hop), h.gtidSetsMap, hckpt]
  · rw [plain_take_succ hk, Plain.step_skip (isGTID_of_isNonDML hop), h.skip, hskip, hskip₁]
  · exact fun htrue => absurd (hskip₁.symm.trans htrue) (by simp)

/-- Without a transaction everything held is committed. -/
lemma Between.follows_nil (h : Between conf m opers k ma) (htx : ma.tx = false) :
    Follows conf m opers k ma.world.committed [] := by
  have hnone : ma.world.tx = none :=
    Option.isNone_iff_eq_none.mp (Option.isSome_eq_false_iff.mp (h.tx.symm.trans htx))
  have hf := h.follows
  rwa [World.opened, hnone] at hf

lemma Between.synced_begin (h : Between conf m opers k ma) (htx : ma.tx = false) {l : List Event}
    (hl : MysqlClient.AllSession l) :
    Throughout (Synced conf m opers) (ma.log ++ Event.call .begin .ok :: l) := by
  refine throughout_append.mpr ⟨h.synced, MysqlClient.always_begin hl h.synced.last ?_⟩
  exact ⟨k, .inr h.received.symm, h.follows_nil htx⟩

/-- A statement executed in a transaction of its own, up to its commit. -/
lemma Between.exec (schemaContext : String) {query : String} {r : Reply} (h : Between conf m opers k ma)
    (hk : opers[k]? = some op) (hskip : (plain conf m (opers.take k)).skip = false)
    (hst : statement conf op = .ok (some (.nonDML query))) (hr : r.Tolerated conf)
    (htx : ma.tx = false) :
    Follows conf m opers (k + 1) ma.world.committed [⟨k, .nonDML query, r⟩] ∧
    Throughout (Synced conf m opers) (ma.log ++ (MysqlClient.openEvents conf schemaContext ++
      [Event.call (.exec (.nonDML query)) r])) := by
  have hfollows := h.follows_nil htx
  have hexec := hfollows.exec hk hskip hst hr
  refine ⟨hexec, throughout_append.mpr ⟨h.synced, Trace.always_append.mpr ⟨?_, ?_⟩⟩⟩
  · refine MysqlClient.always_openEvents conf ?_ ?_ schemaContext
    · exact ⟨k, .inr h.received.symm, h.follows⟩
    · exact ⟨k, .inr h.received.symm, hfollows⟩
  · rw [MysqlClient.foldl_openEvents]
    refine ⟨⟨k, .inr h.received.symm, hfollows⟩, k + 1, .inl ?_, ?_⟩
    · rw [World.after_nonDML]
      exact h.received.symm
    · rw [World.after_nonDML]
      simp only [World.opened, h.received]
      exact hexec

/-- What a log holds after a statement in a transaction of its own. -/
lemma foldl_nonDML (w : World) (schemaContext query : String) (r : Reply) :
    (MysqlClient.openEvents conf schemaContext ++
      [Event.call (.exec (.nonDML query)) r, .call .commit .ok]).foldl World.after w =
    { w with committed := w.committed ++ [⟨w.received - 1, .nonDML query, r⟩], tx := none } := by
  rw [List.foldl_append, MysqlClient.foldl_openEvents]
  simp

/-- A statement executed and committed in a transaction of its own. -/
lemma Between.exec_commit (schemaContext : String) {query : String} {r : Reply}
    (h : Between conf m opers k ma) (hk : opers[k]? = some op)
    (hskip : (plain conf m (opers.take k)).skip = false)
    (hst : statement conf op = .ok (some (.nonDML query))) (hr : r.Tolerated conf)
    (htx : ma.tx = false) {log : List Event} (hlog : log = ma.log ++
      (MysqlClient.openEvents conf schemaContext ++
        [Event.call (.exec (.nonDML query)) r, .call .commit .ok])) :
    Throughout (Synced conf m opers) log ∧
    World.replay log = { ma.world with
      committed := ma.world.committed ++ [⟨k, .nonDML query, r⟩], tx := none } ∧
    Follows conf m opers (k + 1) (ma.world.committed ++ [⟨k, .nonDML query, r⟩]) [] := by
  subst hlog
  obtain ⟨hexec, hsynced⟩ := h.exec schemaContext hk hskip hst hr htx
  have hcommit : Follows conf m opers (k + 1)
      (ma.world.committed ++ [⟨k, .nonDML query, r⟩]) [] := by
    refine hexec.commit fun e he hd => ?_
    rw [List.mem_append, List.mem_singleton] at he
    rcases he with he | rfl
    · exact hexec.closed e he hd
    · simp [Statement.isDML] at hd
  have hworld : World.replay (ma.log ++ (MysqlClient.openEvents conf schemaContext ++
      [Event.call (.exec (.nonDML query)) r, .call .commit .ok])) =
      { ma.world with
        committed := ma.world.committed ++ [⟨k, .nonDML query, r⟩], tx := none } := by
    rw [World.replay_append, foldl_nonDML]
    simp only [h.received, Nat.add_sub_cancel]
  refine ⟨?_, hworld, hcommit⟩
  rw [List.append_cons, ← List.append_assoc, ← List.append_assoc] at hworld ⊢
  rw [← List.append_assoc] at hsynced
  refine throughout_concat.mpr ⟨hsynced, ?_⟩
  rw [hworld]
  exact ⟨k + 1, .inl h.received.symm, hcommit⟩

/-- An executed DDL or DCL statement. -/
lemma Tracks.nonDMLExec {schemaContext query : String} {ma₂ : MysqlApplier}
    (h : Tracks conf m opers k ma) (hk : opers[k]? = some op) (hskip : ma.gtidSkip = false)
    (hop : op.isNonDML = true) (hs : (takes op ma).state ∈ allowed op)
    (hq : nonDMLQuery conf op = some (schemaContext, query))
    (hm : Merged env (takes op ma) (.ok (), ma₁))
    (hx : MysqlClient.ExecutedNonDML conf env schemaContext query ma₁ (.ok (), ma₂)) :
    Tracks conf m opers (k + 1) { ma₂ with state := nonDMLState op } := by
  have hb₁ := (h.between_nonDML hop hs).merged hm
  have hst := statement_of_nonDMLQuery conf hq
  have hpskip : (plain conf m (opers.take k)).skip = false := h.skip.trans hskip
  have hpending : ma₁.pendingCommitCount = 0 := hm.pending_eq_zero
  have hckpt : ma₁.ckpt = ma.ckpt := hm.keeps.ckpt
  have hskip₁ : ma₁.gtidSkip = false := hm.keeps.gtidSkip.trans hskip
  have hgtid := isGTID_of_isNonDML hop
  cases hx with
  | ok htx r hr result =>
    obtain ⟨-, rfl⟩ := Prod.mk.inj result
    obtain ⟨hsynced, hworld, hcommit⟩ :=
      hb₁.exec_commit schemaContext hk hpskip hst hr htx rfl
    exact
      { synced := hsynced
        received := by rw [world, emit_log, hworld]; exact hb₁.received
        follows := by rw [world, emit_log, hworld]; exact hcommit
        gtidSetsMap := by
          rw [plain_take_succ hk, Plain.step_gtidSetsMap hgtid, h.gtidSetsMap]
          exact congrArg Checkpoint.gtidSetsMap hckpt.symm
        skip := by
          rw [plain_take_succ hk, Plain.step_skip hgtid, hpskip]
          exact hskip₁.symm
        tx := by rw [world, emit_log, hworld]; rfl
        tx_iff := by
          have hs' := (nonDMLState_mem op).1
          simp only [List.mem_cons, List.not_mem_nil, or_false, not_or] at hs'
          simp [emit, hpending, hs']
        rested := fun _ => hpending
        skipping := fun htrue => absurd (hskip₁.symm.trans htrue) (by simp)
        closed := by
          intro _
          rw [world, emit_log, hworld, World.executed, World.opened, Option.getD_none,
            List.append_nil]
          exact hcommit.closed
        built := h.built.succ hk fun _ => ⟨_, hst⟩ }
  | _ => simp_all

/-! ### Row transactions -/

/-- `BEGIN` while a batch is pending joins the open transaction. -/
lemma Tracks.beginMerged {o : MysqlOperationBegin} (h : Tracks conf m opers k ma)
    (hk : opers[k]? = some (.begin o)) (hskip : ma.gtidSkip = false)
    (hp : 1 ≤ ma.pendingCommitCount) :
    Tracks conf m opers (k + 1) { takes (.begin o) ma with state := .begin } := by
  have htx : ma.tx = true := h.tx_iff.mpr (.inl hp)
  refine h.quiet hk hskip rfl rfl rfl rfl hskip rfl ?_ (by simp) (by simp)
  simpa [takes, emit] using htx

/-- A turn that ends inside a row transaction, with the destination holding `w`. -/
lemma Tracks.inTransaction {w : World} (h : Tracks conf m opers k ma) (hk : opers[k]? = some op)
    (hskip : ma.gtidSkip = false) (hgtid : op.isGTID = false)
    (hst : ∃ st, statement conf op = .ok st)
    (hsynced : Throughout (Synced conf m opers) ma₁.log) (hworld : ma₁.world = w)
    (hreceived : w.received = k + 1)
    (hfollows : Follows conf m opers (k + 1) w.committed w.opened) (hsome : w.tx.isSome = true)
    (hckpt : ma₁.ckpt = ma.ckpt) (hskip₁ : ma₁.gtidSkip = false) (htx : ma₁.tx = true)
    (hs : ma₁.state = .begin ∨ ma₁.state = .dml) : Tracks conf m opers (k + 1) ma₁ where
  synced := hsynced
  received := by rw [hworld, hreceived]
  follows := by rw [hworld]; exact hfollows
  gtidSetsMap := by
    rw [plain_take_succ hk, Plain.step_gtidSetsMap hgtid, h.gtidSetsMap, hckpt]
  skip := by rw [plain_take_succ hk, Plain.step_skip hgtid, h.skip, hskip, hskip₁]
  tx := by rw [htx, hworld, hsome]
  tx_iff := ⟨fun _ => .inr hs, fun _ => htx⟩
  rested := fun hmem => by rcases hs with hs | hs <;> simp [hs] at hmem
  skipping := fun htrue => absurd (hskip₁.symm.trans htrue) (by simp)
  closed := fun hmem => by rcases hs with hs | hs <;> simp [hs] at hmem
  built := h.built.succ hk fun _ => hst

/-- `BEGIN` that opens a transaction. -/
lemma Tracks.begin {o : MysqlOperationBegin} (h : Tracks conf m opers k ma)
    (hk : opers[k]? = some (.begin o)) (hskip : ma.gtidSkip = false)
    (hs : (takes (.begin o) ma).state = .gtid)
    (hbegan : MysqlClient.Began conf env (takes (.begin o) ma) (.ok (), ma₁)) :
    Tracks conf m opers (k + 1) { ma₁ with state := .begin } := by
  have hb := h.between_begin hs
  cases hbegan with
  | ok htx result =>
    obtain ⟨-, rfl⟩ := Prod.mk.inj result
    have hses := MysqlClient.allSession_sessionEvents conf.sessionParams
    have hworld : World.replay ((takes (.begin o) ma).log ++
        (Event.call .begin .ok :: MysqlClient.sessionEvents conf.sessionParams)) =
        { (takes (.begin o) ma).world with tx := some [] } := by
      rw [World.replay_append, MysqlClient.foldl_begin hses]
    exact h.inTransaction hk hskip rfl ⟨none, rfl⟩ (hb.synced_begin htx hses) hworld hb.received
      ((hb.follows_nil htx).succ hk (.inr rfl)) rfl rfl hskip rfl (.inl rfl)
  | _ => simp_all

/-- A row change that is suppressed. -/
lemma Tracks.dml (h : Tracks conf m opers k ma) (hk : opers[k]? = some op)
    (hskip : ma.gtidSkip = false) (hop : op.isDML = true)
    (hs : (takes op ma).state ∈ allowed op) (hq : dmlQuery conf op = .ok none) :
    Tracks conf m opers (k + 1) { takes op ma with state := .dml } := by
  have hst : statement conf op = .ok none := by rw [statement_of_isDML conf hop, hq]; rfl
  have htx : ma.tx = true := by
    rw [takes_state hskip] at hs
    refine h.tx_iff.mpr (.inr ?_)
    cases op <;> simp_all [MysqlOperation.isDML, allowed]
  refine h.quiet hk hskip (isGTID_of_isDML hop) hst rfl rfl hskip rfl ?_ (by simp) (by simp)
  simpa [takes, emit] using htx

/-- An executed row change. -/
lemma Tracks.dmlExec {query : Query} (h : Tracks conf m opers k ma) (hk : opers[k]? = some op)
    (hskip : ma.gtidSkip = false) (hop : op.isDML = true)
    (hq : dmlQuery conf op = .ok (some query)) (htx : ma.tx = true)
    (hx : MysqlClient.ExecutedData conf env (.dml query) (takes op ma) (.ok (), ma₁)) :
    Tracks conf m opers (k + 1) { ma₁ with state := .dml } := by
  have hst : statement conf op = .ok (some (.dml query)) := by
    rw [statement_of_isDML conf hop, hq]; rfl
  cases hx with
  | ok r hr result =>
    obtain ⟨-, rfl⟩ := Prod.mk.inj result
    obtain ⟨opened, hopened⟩ : ∃ opened, ma.world.tx = some opened :=
      Option.isSome_iff_exists.mp (h.tx.symm.trans htx)
    have hexec : Follows conf m opers (k + 1) ma.world.committed (opened ++ [⟨k, .dml query, r⟩]) := by
      have hf := h.follows
      rw [World.opened, hopened] at hf
      exact hf.exec hk (h.skip.trans hskip) hst hr
    have hworld : World.replay ((takes op ma).log ++ [.call (.exec (.dml query)) r]) =
        { ma.world with received := k + 1, tx := some (opened ++ [⟨k, .dml query, r⟩]) } := by
      simp only [takes, emit_log, World.replay_append, List.foldl_cons, List.foldl_nil, World.after_receive,
        World.after_dml, hopened, Option.map_some, h.received, Nat.add_sub_cancel]
    refine h.inTransaction hk hskip (isGTID_of_isDML hop) ⟨_, hst⟩ ?_ hworld rfl hexec rfl rfl hskip
      htx (.inr rfl)
    refine throughout_concat.mpr ⟨h.synced_receive op, ?_⟩
    rw [hworld]
    exact ⟨k + 1, .inl rfl, hexec⟩
  | failed r hr henv e r' result => simp at result

/-- The end of a row transaction: the groups of all statements held are over. -/
lemma Tracks.xid {o : MysqlOperationXid} (h : Tracks conf m opers k ma)
    (hk : opers[k]? = some (.xid o)) (hskip : ma.gtidSkip = false)
    (hs : (takes (.xid o) ma).state ∈ allowed (.xid o)) :
    Tracks conf m opers (k + 1) { takes (.xid o) ma with
      pendingCommitCount := (takes (.xid o) ma).pendingCommitCount + 1, state := .xid } := by
  have htx : ma.tx = true := by
    rw [takes_state hskip] at hs
    refine h.tx_iff.mpr (.inr ?_)
    simpa [allowed, or_comm] using hs
  refine h.quiet hk hskip rfl rfl rfl rfl hskip rfl ?_ (by simp) ?_
  · simpa [takes, emit] using htx
  · intro _ e he _
    exact ⟨k, .xid o, h.follows.pos_lt he, Nat.lt_succ_self k, hk, rfl⟩

lemma Tracks.dispatched (h : Tracks conf m opers k ma) (hk : opers[k]? = some op)
    (hnot : op.isGTID = false → ma.gtidSkip = false)
    (hd : Dispatched conf env op (takes op ma) (.ok (), ma₁)) :
    Tracks conf m opers (k + 1) ma₁ := by
  cases hd with
  | binLogPos o hop result =>
    subst hop
    obtain ⟨-, rfl⟩ := Prod.mk.inj result
    exact h.binLogPos hk (hnot rfl)
  | heartbeat o hop hs x₁ hset result =>
    subst hop
    obtain ⟨ma₁, rfl, rfl⟩ := thenState_eq_ok result
    exact h.heartbeat hk (hnot rfl) hs hset
  | gtid o hop hs force ma₁ hset x₂ h₂ result =>
    subst hop
    obtain ⟨ma₂, rfl, rfl⟩ := thenState_eq_ok result
    refine ((h.between_stamped hs).settled hset).decided hk ?_ h.built h₂
    rw [hset.keeps.ckpt]
    exact h.gtidSetsMap
  | nonDML hop hs hq ma₁ hm result =>
    obtain ⟨-, rfl⟩ := Prod.mk.inj result
    exact h.nonDML hk (hnot (isGTID_of_isNonDML hop)) hop hs hq hm
  | nonDMLExec hop hs schemaContext query hq ma₁ hm x₂ h₂ result =>
    obtain ⟨ma₂, rfl, rfl⟩ := thenState_eq_ok result
    exact h.nonDMLExec hk (hnot (isGTID_of_isNonDML hop)) hop hs hq hm h₂
  | beginMerged o hop hs hp result =>
    subst hop
    obtain ⟨-, rfl⟩ := Prod.mk.inj result
    exact h.beginMerged hk (hnot rfl) hp
  | begin o hop hs hp x₁ hb result =>
    subst hop
    obtain ⟨ma₁, rfl, rfl⟩ := thenState_eq_ok result
    exact h.begin hk (hnot rfl) hs hb
  | dml hop hs hq result =>
    obtain ⟨-, rfl⟩ := Prod.mk.inj result
    exact h.dml hk (hnot (isGTID_of_isDML hop)) hop hs hq
  | dmlExec hop hs query hq htx x₁ hexec result =>
    obtain ⟨ma₁, rfl, rfl⟩ := thenState_eq_ok result
    exact h.dmlExec hk (hnot (isGTID_of_isDML hop)) hop hq htx hexec
  | xid o hop hs result =>
    subst hop
    obtain ⟨-, rfl⟩ := Prod.mk.inj result
    exact h.xid hk (hnot rfl) hs
  | _ => simp_all

/-- One turn keeps the invariant. -/
theorem Tracks.start (h : Tracks conf m opers k ma) (hk : opers[k]? = some op)
    (hstart : MysqlApplier.start conf env op ma = (.ok (), ma₁)) :
    Tracks conf m opers (k + 1) ma₁ := by
  have hturn := Turn.of_start conf env op ma
  rw [hstart] at hturn
  cases hturn with
  | skipped hskip hop result =>
    obtain ⟨-, rfl⟩ := Prod.mk.inj result
    exact h.skipped hk hskip hop
  | taken hnot x₁ hd result =>
    obtain ⟨ma', rfl, rfl⟩ := finish_eq_ok result
    exact (h.dispatched hk hnot hd).finish op

/-! ### Whole runs -/

lemma tracks_newMysqlApplier (ckpt : Checkpoint) :
    Tracks conf ckpt.gtidSetsMap opers 0 (newMysqlApplier ckpt) := by
  have hfollows : Follows conf ckpt.gtidSetsMap opers 0 [] [] :=
    ⟨rfl, by simp, by simp [Closed], by simp⟩
  exact
    { synced := ⟨0, .inl rfl, hfollows⟩
      received := rfl
      follows := hfollows
      gtidSetsMap := rfl
      skip := rfl
      tx := rfl
      tx_iff := by simp [newMysqlApplier]
      rested := fun _ => rfl
      skipping := by simp [newMysqlApplier]
      closed := by simp [newMysqlApplier, Closed, World.replay, World.initial, World.executed,
        World.opened]
      built := fun i _ hi => absurd hi (Nat.not_lt_zero i) }

/-- Every run that has not stopped tracks the plain run. -/
theorem tracks_run {ckpt : Checkpoint} {as : List MysqlOperation} (has : as <+: opers)
    (hrun : run conf env as (newMysqlApplier ckpt) = (.ok (), ma)) :
    Tracks conf ckpt.gtidSetsMap opers as.length ma := by
  induction as using List.reverseRecOn generalizing ma with
  | nil =>
    obtain ⟨-, rfl⟩ := Prod.mk.inj hrun
    exact tracks_newMysqlApplier ckpt
  | append_singleton as op ih =>
    rcases has' : run conf env as (newMysqlApplier ckpt) with ⟨e | ⟨⟩, ma'⟩
    · rw [run, Prog.forEach_append_of_error has'] at hrun
      simp at hrun
    · rw [run, Prog.forEach_concat_of_ok has'] at hrun
      rw [List.length_append, List.length_singleton]
      have hpre : as <+: opers := (List.prefix_append as [op]).trans has
      exact (ih hpre has').start (Prog.getElem?_of_concat_isPrefix has) hrun

end

end MysqlSync
