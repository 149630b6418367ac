import MysqlSync.System.Cuts
import MysqlSync.Transfer.Progress
import MysqlSync.Rows.Transport

/-!
# From the extractor to a destination

What a client has put on its channel is a part of what the extractor has sent, and the applier
receives it as gob has left it. So a destination, behind any number of others and any failures on
the way, cuts the history that the extractor sends between two transactions.
-/

namespace MysqlSync

open MysqlApplier

/-! ### Operations in transport -/

/-- What arrives for an operation. -/
def MysqlOperation.gob : MysqlOperation → MysqlOperation
  | .dmlInsert op => .dmlInsert { op with columns := op.columns.map MysqlOperationDMLColumn.gob }
  | .dmlDelete op => .dmlDelete { op with columns := op.columns.map MysqlOperationDMLColumn.gob }
  | .dmlUpdate op => .dmlUpdate { op with
      afterColumns := op.afterColumns.map MysqlOperationDMLColumn.gob
      beforeColumns := op.beforeColumns.map MysqlOperationDMLColumn.gob }
  | op => op

@[simp] lemma MysqlOperation.isDML_gob (op : MysqlOperation) : op.gob.isDML = op.isDML := by
  cases op <;> rfl

lemma map_gob_of_isIdle {ops : List MysqlOperation} (h : ∀ op ∈ ops, op.isIdle = true) :
    ops.map MysqlOperation.gob = ops := by
  have hself : ∀ op ∈ ops, op.gob = id op := by
    intro op hop
    have hidle := h op hop
    cases op <;> simp_all [MysqlOperation.isIdle, MysqlOperation.gob]
  rw [List.map_congr_left hself, List.map_id]

/-- What arrives for a transaction. -/
def RowTransaction.gob (t : RowTransaction) : RowTransaction where
  lead := t.lead
  gtid := t.gtid
  positions := t.positions
  begin := t.begin
  rows := t.rows.map MysqlOperation.gob
  xid := t.xid
  trail := t.trail
  lead_isIdle := t.lead_isIdle
  rows_inRows := by
    intro op hop
    obtain ⟨op', hop', rfl⟩ := List.mem_map.mp hop
    rcases t.rows_inRows op' hop' with hdml | ⟨o, rfl⟩
    · exact .inl ((MysqlOperation.isDML_gob op').trans hdml)
    · exact .inr ⟨o, rfl⟩
  trail_isIdle := t.trail_isIdle

lemma RowTransaction.ops_gob (t : RowTransaction) : t.gob.ops = t.ops.map MysqlOperation.gob := by
  have hpositions : (t.positions.map MysqlOperation.binLogPos).map MysqlOperation.gob =
      t.positions.map .binLogPos := List.map_map
  simp [ops, head, RowTransaction.gob, map_gob_of_isIdle t.lead_isIdle,
    map_gob_of_isIdle t.trail_isIdle, hpositions, MysqlOperation.gob]

lemma stream_gob (txs : List RowTransaction) :
    stream (txs.map RowTransaction.gob) = (stream txs).map MysqlOperation.gob := by
  induction txs with
  | nil => rfl
  | cons t txs ih => rw [List.map_cons, stream_cons, ih, t.ops_gob, stream_cons, List.map_append]

@[simp] lemma gtids_gob (txs : List RowTransaction) :
    gtids (txs.map RowTransaction.gob) = gtids txs := List.map_map

/-! ### The transfer -/

namespace TCPServer

variable {ι : Type} [Fintype ι] [DecidableEq ι] {es : List (TransferEvent ι)} {ts : TCPServer ι}

/-- What a client has put on its channel is a part of what was extracted. -/
lemma moCh_isPrefix_extracted (h : run es = some ts) (c : ι) :
    (ts.links c).client.moCh <+: es.filterMap TransferEvent.extracted := by
  have hreceived := (Lockstep.received_bounds (broadcast_of_run h) c).2
  have htaken : ts.batches.flatten <+: ts.taken := by
    rw [(inv_of_run h).taken]
    exact List.prefix_append _ _
  have hextracted : ts.taken <+: es.filterMap TransferEvent.extracted := by
    have hall := taken_append_moCh_of_run h
    exact ⟨ts.moCh, hall⟩
  exact hreceived.trans (htaken.trans hextracted)

end TCPServer

/-- Whatever has happened in the transfer to any number of clients, whatever the calls of an
applier have replied and wherever it has ended, it has cut the history of the source between two
transactions: it has committed the statements of all transactions from the first one that its
checkpoint did not cover up to some other one, and the checkpoint it has stored covers none beyond
these. -/
theorem pipeline_cut {ι : Type} [Fintype ι] [DecidableEq ι] {es : List (TransferEvent ι)}
    {ts : TCPServer ι} (hrun : TCPServer.run es = some ts) {txs : List RowTransaction}
    (hasc : Ascends (gtids txs)) (hsent : es.filterMap TransferEvent.extracted <+: stream txs)
    (c : ι) {conf : Settings} {env : Env} {ckpt : Checkpoint} {k : ℕ}
    (hk : CoversFirst ckpt.gtidSetsMap (gtids txs) k) {opers : List MysqlOperation}
    (hopers : opers <+: (ts.links c).client.moCh.map MysqlOperation.gob)
    {p : List Event} (hp : p <+: (run conf env opers (newMysqlApplier ckpt)).2.log) :
    ∃ n, Cut conf (txs.map RowTransaction.gob) k n (World.replay p) := by
  have hstream : opers <+: stream (txs.map RowTransaction.gob) := by
    rw [stream_gob]
    exact hopers.trans (((TCPServer.moCh_isPrefix_extracted hrun c).trans hsent).map _)
  rw [← gtids_gob] at hk hasc
  exact exists_cut hk hasc hstream hp

/-- The transaction with number `trxID` inserts a row with that key. -/
def insertsOne (trxID : Int64) : RowTransaction where
  lead := [.binLogPos ⟨1, "GTIDEvent", "mysql-bin.1", 100, 10⟩]
  gtid := ⟨0, 1, 10, "u", trxID⟩
  positions := [⟨1, "QueryEvent", "mysql-bin.1", 200, 10⟩]
  begin := ⟨1, 10⟩
  rows := [.binLogPos ⟨1, "WriteRowsEventV2", "mysql-bin.1", 300, 10⟩,
    .dmlInsert ⟨"db", "t",
      [⟨"id", 8, .int64 trxID, false⟩, ⟨"v", 252, .bytes (some []), false⟩], [0], 10⟩,
    .binLogPos ⟨1, "XIDEvent", "mysql-bin.1", 400, 10⟩]
  xid := ⟨10⟩
  trail := []
  lead_isIdle := by simp [MysqlOperation.isIdle]
  rows_inRows := by simp [MysqlOperation.isDML]
  trail_isIdle := by simp

/-- Two transactions are sent to two clients, one of which has put all but their last three
operations on its channel. -/
def twoInsertsSent : List (TransferEvent Bool) :=
  List.flatten [
    (stream [insertsOne 1, insertsOne 2]).map .extract,
    [.link false .register, .link true .register, .readDead false, .readState, .readDead true,
      .readState, .evaluateFetchCount 16],
    List.replicate 16 .takeMo,
    [.formBatch, .link false .setPush, .link true .setPush, .link true .clientPush,
      .link false .clientPush, .link true (.sendOperations none true), .link true .decodeSignal1],
    List.replicate 13 (.link true .putMo)]

theorem pipeline_cut_twoInsertsSent :
    ∃ ts, TCPServer.run twoInsertsSent = some ts ∧ (ts.links true).client.moCh.length = 13 ∧
      ∃ n, Cut Settings.unrestricted ([insertsOne 1, insertsOne 2].map RowTransaction.gob) 0 n
        (World.replay (run Settings.unrestricted (fun _ _ => .ok)
          ((ts.links true).client.moCh.map MysqlOperation.gob)
          (newMysqlApplier ⟨∅, "", 0⟩)).2.log) := by
  have hrun : ((TCPServer.run twoInsertsSent).map fun ts =>
      decide ((ts.links true).client.moCh.length = 13)) = some true := by decide +kernel
  obtain ⟨ts, hts, hlen⟩ := Option.map_eq_some_iff.mp hrun
  have hcovers : CoversFirst ∅ (gtids [insertsOne 1, insertsOne 2]) 0 :=
    ⟨Nat.zero_le _, by simp [GtidSetsMap.Covers]⟩
  have hascends : Ascends (gtids [insertsOne 1, insertsOne 2]) :=
    .cons (by simpa [insertsOne] using by decide) (.cons (by simp) .nil)
  refine ⟨ts, hts, of_decide_eq_true hlen, ?_⟩
  exact pipeline_cut hts hascends (List.prefix_refl _) true hcovers (List.prefix_refl _)
    (List.prefix_refl _)

end MysqlSync
