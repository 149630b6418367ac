import MysqlSync.Lib.Blocks
import MysqlSync.Applier.Kept

/-!
# Where a crash cuts a history

A history is a list of source transactions with rows. A destination that holds the first `k` of
them runs on the stream of the history and may end between any two events of its log. What it has
committed by then are the statements of the transactions from `k` up to some `n`, and the map it
has stored covers exactly the first `k'` of them, where `k'` is at most `n` (`exists_cut`).
-/

namespace MysqlSync

open MysqlApplier

/-! ### Histories -/

/-- The operations that may stand between two transactions. -/
def MysqlOperation.isIdle : MysqlOperation → Bool
  | .binLogPos _ | .heartbeat _ => true
  | _ => false

/-- The operations of a source transaction with rows, as a destination receives them: those around
it, the GTID, the `BEGIN`, the row changes with the positions between them and the XID. -/
structure RowTransaction where
  lead : List MysqlOperation
  gtid : MysqlOperationGTID
  positions : List MysqlOperationBinLogPos
  begin : MysqlOperationBegin
  rows : List MysqlOperation
  xid : MysqlOperationXid
  trail : List MysqlOperation
  lead_isIdle : ∀ op ∈ lead, op.isIdle = true
  rows_inRows : ∀ op ∈ rows, op.isDML = true ∨ ∃ o, op = .binLogPos o
  trail_isIdle : ∀ op ∈ trail, op.isIdle = true

namespace RowTransaction

/-- What comes before the row changes. -/
def head (t : RowTransaction) : List MysqlOperation :=
  t.lead ++ .gtid t.gtid :: (t.positions.map .binLogPos ++ [.begin t.begin])

def ops (t : RowTransaction) : List MysqlOperation :=
  t.head ++ t.rows ++ .xid t.xid :: t.trail

/-- The statements of its row changes. -/
def statements (conf : Settings) (t : RowTransaction) : List Statement :=
  t.rows.flatMap (Plain.statements conf)

end RowTransaction

/-- The operations of a history. -/
def stream (txs : List RowTransaction) : List MysqlOperation := txs.flatMap RowTransaction.ops

@[simp] lemma stream_nil : stream [] = [] := rfl

@[simp] lemma stream_cons (t : RowTransaction) (txs : List RowTransaction) :
    stream (t :: txs) = t.ops ++ stream txs := List.flatMap_cons

@[simp] lemma stream_append (txs txs' : List RowTransaction) :
    stream (txs ++ txs') = stream txs ++ stream txs' := List.flatMap_append

/-- Every server numbers its transactions in increasing order. -/
def Ascends (gtids : List MysqlOperationGTID) : Prop :=
  gtids.Pairwise fun o o' => o.serverUUID = o'.serverUUID → o.trxID.toUInt64 < o'.trxID.toUInt64

/-- The map covers the first `k` of these transactions and none of the others. -/
structure CoversFirst (m : GtidSetsMap) (gtids : List MysqlOperationGTID) (k : ℕ) : Prop where
  le : k ≤ gtids.length
  iff : ∀ i o, gtids[i]? = some o → (m.Covers o.serverUUID o.trxID.toUInt64 ↔ i < k)

/-- The GTIDs of a history. -/
def gtids (txs : List RowTransaction) : List MysqlOperationGTID := txs.map RowTransaction.gtid

/-! ### The grammar -/

section

variable {op : MysqlOperation} {ops : List MysqlOperation}

lemma foldlM_next_of_isIdle (h : ∀ op ∈ ops, op.isIdle = true) :
    ops.foldlM Phase.next .rest = some .rest := by
  induction ops with
  | nil => rfl
  | cons op ops ih =>
    obtain ⟨hop, hops⟩ := List.forall_mem_cons.mp h
    rw [List.foldlM_cons]
    cases op <;> simp_all [MysqlOperation.isIdle, Phase.next]

lemma foldlM_next_binLogPos (l : List MysqlOperationBinLogPos) (phase : Phase) :
    (l.map MysqlOperation.binLogPos).foldlM Phase.next phase = some phase := by
  induction l with
  | nil => rfl
  | cons o l ih => exact ih

lemma foldlM_next_of_inRows (h : ∀ op ∈ ops, op.isDML = true ∨ ∃ o, op = .binLogPos o) :
    ops.foldlM Phase.next .row = some .row := by
  induction ops with
  | nil => rfl
  | cons op ops ih =>
    obtain ⟨hop, hops⟩ := List.forall_mem_cons.mp h
    have hnext : Phase.row.next op = some .row := by
      rcases hop with hop | ⟨o, rfl⟩
      · cases op <;> simp_all [MysqlOperation.isDML, Phase.next]
      · rfl
    rw [List.foldlM_cons, hnext]
    exact ih hops

lemma RowTransaction.foldlM_next (t : RowTransaction) :
    t.ops.foldlM Phase.next .rest = some .rest := by
  have hlead := foldlM_next_of_isIdle t.lead_isIdle
  have hpos := foldlM_next_binLogPos t.positions .gtid
  have hrows := foldlM_next_of_inRows t.rows_inRows
  have htrail := foldlM_next_of_isIdle t.trail_isIdle
  simp [RowTransaction.ops, RowTransaction.head, List.foldlM_append, hlead, hpos, hrows, htrail,
    Phase.next]

lemma phaseAfter_stream (txs : List RowTransaction) : phaseAfter (stream txs) = some .rest := by
  induction txs with
  | nil => rfl
  | cons t txs ih =>
    rw [phaseAfter, stream_cons, List.foldlM_append, t.foldlM_next]
    exact ih

lemma wellFormed_stream (txs : List RowTransaction) : WellFormed (stream txs) := by
  rw [WellFormed, phaseAfter_stream]
  rfl

lemma RowTransaction.isNonDML_of_mem {t : RowTransaction} (h : op ∈ t.ops) :
    op.isNonDML = false := by
  have hidle {op : MysqlOperation} (h : op.isIdle = true) : op.isNonDML = false := by
    cases op <;> simp_all [MysqlOperation.isIdle, MysqlOperation.isNonDML]
  have hrow {op : MysqlOperation} (h : op.isDML = true ∨ ∃ o, op = .binLogPos o) :
      op.isNonDML = false := by
    rcases h with h | ⟨o, rfl⟩
    · cases op <;> simp_all [MysqlOperation.isDML, MysqlOperation.isNonDML]
    · rfl
  simp only [RowTransaction.ops, RowTransaction.head, List.mem_append, List.mem_cons, List.mem_map,
    List.not_mem_nil, or_false] at h
  rcases h with ((h | rfl | ⟨o, -, rfl⟩ | rfl) | h) | rfl | h
  · exact hidle (t.lead_isIdle op h)
  · rfl
  · rfl
  · rfl
  · exact hrow (t.rows_inRows op h)
  · rfl
  · exact hidle (t.trail_isIdle op h)

/-- No DDL or DCL statement is ever reached. -/
lemma flushedBefore_stream (conf : Settings) (env : Env) (ckpt : Checkpoint)
    (txs : List RowTransaction) : FlushedBefore conf env ckpt (stream txs) := by
  intro n op ma hn hop
  obtain ⟨t, -, ht⟩ := List.mem_flatMap.mp (List.mem_of_getElem? hn)
  rw [t.isNonDML_of_mem ht] at hop
  cases hop

end

/-! ### The plain run over a history -/

/-- The statements of operations, with the positions they have from `i` on. -/
def keyed (conf : Settings) : ℕ → List MysqlOperation → List (ℕ × Statement)
  | _, [] => []
  | i, op :: ops => (Plain.statements conf op).map (i, ·) ++ keyed conf (i + 1) ops

section

variable {conf : Settings} {ops ops' : List MysqlOperation} {i j : ℕ} {st : Statement}

lemma keyed_append (i : ℕ) (ops ops' : List MysqlOperation) :
    keyed conf i (ops ++ ops') = keyed conf i ops ++ keyed conf (i + ops.length) ops' := by
  induction ops generalizing i with
  | nil => rfl
  | cons op ops ih =>
    rw [List.cons_append, keyed, keyed, ih, List.append_assoc, List.length_cons,
      Nat.add_right_comm, Nat.add_assoc i]

lemma keyed_eq_nil (h : ∀ op ∈ ops, Plain.statements conf op = []) (i : ℕ) :
    keyed conf i ops = [] := by
  induction ops generalizing i with
  | nil => rfl
  | cons op ops ih =>
    obtain ⟨hop, hops⟩ := List.forall_mem_cons.mp h
    rw [keyed, hop, ih hops]
    rfl

lemma map_snd_keyed (i : ℕ) (ops : List MysqlOperation) :
    (keyed conf i ops).map Prod.snd = ops.flatMap (Plain.statements conf) := by
  induction ops generalizing i with
  | nil => rfl
  | cons op ops ih => simp [keyed, ih, Function.comp_def]

lemma mem_keyed : (j, st) ∈ keyed conf i ops ↔
    ∃ d op, ops[d]? = some op ∧ j = i + d ∧ statement conf op = .ok (some st) := by
  induction ops generalizing i with
  | nil => simp [keyed]
  | cons op ops ih =>
    rw [keyed, List.mem_append, ih]
    constructor
    · rintro (h | ⟨d, op', hop', rfl, hst⟩)
      · obtain ⟨st', hst', heq⟩ := List.mem_map.mp h
        obtain ⟨rfl, rfl⟩ := Prod.mk.inj heq
        exact ⟨0, op, rfl, rfl, Plain.mem_statements.mp hst'⟩
      · exact ⟨d + 1, op', hop', by omega, hst⟩
    · rintro ⟨d, op', hop', rfl, hst⟩
      cases d with
      | zero =>
        cases hop'
        exact .inl (List.mem_map.mpr ⟨st, Plain.mem_statements.mpr hst, rfl⟩)
      | succ d => exact .inr ⟨d, op', hop', by omega, hst⟩

variable {m : GtidSetsMap} {skip : Bool} {received : ℕ} {applied : List (ℕ × Statement)}

/-- Operations without a GTID, when nothing is skipped. -/
lemma foldl_step_of_not_skip (h : ∀ op ∈ ops, op.isGTID = false) :
    ops.foldl (Plain.step conf) ⟨m, false, received, applied⟩ =
      ⟨m, false, received + ops.length, applied ++ keyed conf received ops⟩ := by
  induction ops generalizing received applied with
  | nil => simp [keyed]
  | cons op ops ih =>
    obtain ⟨hop, hops⟩ := List.forall_mem_cons.mp h
    rw [List.foldl_cons, Plain.step_of_not_skip hop rfl, ih hops]
    simp [keyed, Nat.add_assoc, Nat.add_comm 1]

lemma foldl_step_of_skip (h : ∀ op ∈ ops, op.isGTID = false) :
    ops.foldl (Plain.step conf) ⟨m, true, received, applied⟩ =
      ⟨m, true, received + ops.length, applied⟩ := by
  induction ops generalizing received with
  | nil => rfl
  | cons op ops ih =>
    obtain ⟨hop, hops⟩ := List.forall_mem_cons.mp h
    rw [List.foldl_cons, Plain.step_of_skip hop rfl, ih hops]
    simp [Nat.add_assoc, Nat.add_comm 1]

lemma statements_eq_nil_of_isIdle {op : MysqlOperation} (h : op.isIdle = true) :
    Plain.statements conf op = [] := by
  cases op <;> simp_all [MysqlOperation.isIdle, Plain.statements, statement, nonDMLQuery, dmlQuery]

lemma isGTID_of_isIdle {op : MysqlOperation} (h : op.isIdle = true) : op.isGTID = false := by
  cases op <;> simp_all [MysqlOperation.isIdle, MysqlOperation.isGTID]

lemma foldl_step_of_isIdle (h : ∀ op ∈ ops, op.isIdle = true) :
    ops.foldl (Plain.step conf) ⟨m, skip, received, applied⟩ =
      ⟨m, skip, received + ops.length, applied⟩ := by
  have hgtid : ∀ op ∈ ops, op.isGTID = false := fun op hop => isGTID_of_isIdle (h op hop)
  cases skip with
  | true => exact foldl_step_of_skip hgtid
  | false =>
    rw [foldl_step_of_not_skip hgtid,
      keyed_eq_nil fun op hop => statements_eq_nil_of_isIdle (h op hop), List.append_nil]

end

namespace RowTransaction

variable {conf : Settings} (t : RowTransaction)

/-- The statements with their positions, when the transaction begins at position `i`. -/
def block (conf : Settings) (i : ℕ) : List (ℕ × Statement) := keyed conf (i + t.head.length) t.rows

/-- What comes after the GTID. -/
def tail : List MysqlOperation :=
  t.positions.map .binLogPos ++ .begin t.begin :: (t.rows ++ .xid t.xid :: t.trail)

lemma ops_eq : t.ops = t.lead ++ .gtid t.gtid :: t.tail := by
  simp [ops, head, tail]

lemma isGTID_of_mem_tail {op : MysqlOperation} (h : op ∈ t.tail) : op.isGTID = false := by
  simp only [tail, List.mem_append, List.mem_cons, List.mem_map] at h
  rcases h with ⟨o, -, rfl⟩ | rfl | h | rfl | h
  · rfl
  · rfl
  · rcases t.rows_inRows op h with h | ⟨o, rfl⟩
    · cases op <;> simp_all [MysqlOperation.isDML, MysqlOperation.isGTID]
    · rfl
  · rfl
  · exact isGTID_of_isIdle (t.trail_isIdle op h)

lemma keyed_tail (i : ℕ) :
    keyed conf i t.tail = keyed conf (i + t.positions.length + 1) t.rows := by
  have hpos : ∀ j, keyed conf j (t.positions.map MysqlOperation.binLogPos) = [] :=
    keyed_eq_nil fun op hop => by
      obtain ⟨o, -, rfl⟩ := List.mem_map.mp hop
      rfl
  have htrail : ∀ j, keyed conf j t.trail = [] :=
    keyed_eq_nil fun op hop => statements_eq_nil_of_isIdle (t.trail_isIdle op hop)
  have hbegin : Plain.statements conf (.begin t.begin) = [] := rfl
  have hxid : Plain.statements conf (.xid t.xid) = [] := rfl
  simp [tail, keyed_append, keyed, hpos, htrail, hbegin, hxid]

variable {m : GtidSetsMap} {skip : Bool} {received : ℕ} {applied : List (ℕ × Statement)}

/-- A transaction that the map covers is skipped. -/
lemma foldl_step_of_covers (h : m.Covers t.gtid.serverUUID t.gtid.trxID.toUInt64) :
    t.ops.foldl (Plain.step conf) ⟨m, skip, received, applied⟩ =
      ⟨m, true, received + t.ops.length, applied⟩ := by
  rw [t.ops_eq, List.foldl_append, List.foldl_cons, foldl_step_of_isIdle t.lead_isIdle,
    Plain.step_of_covers conf h, foldl_step_of_skip fun op hop => t.isGTID_of_mem_tail hop]
  simp [Nat.add_assoc, Nat.add_comm 1]

/-- Any other transaction is entered in the map and appends its statements. -/
lemma foldl_step_of_not_covers (h : ¬ m.Covers t.gtid.serverUUID t.gtid.trxID.toUInt64) :
    t.ops.foldl (Plain.step conf) ⟨m, skip, received, applied⟩ =
      ⟨m.insert t.gtid.serverUUID t.gtid.trxID.toUInt64, false, received + t.ops.length,
        applied ++ t.block conf received⟩ := by
  have hblock : t.block conf received = keyed conf (received + t.lead.length + 1) t.tail := by
    rw [keyed_tail, block]
    simp [head, Nat.add_assoc, Nat.add_comm 1]
  rw [hblock, t.ops_eq, List.foldl_append, List.foldl_cons, foldl_step_of_isIdle t.lead_isIdle,
    Plain.step_of_not_covers conf h, foldl_step_of_not_skip fun op hop => t.isGTID_of_mem_tail hop]
  simp [Nat.add_assoc, Nat.add_comm 1]

end RowTransaction

/-- The statements of the transactions of a history that begins at position `i`. -/
def blocks (conf : Settings) : ℕ → List RowTransaction → List (List (ℕ × Statement))
  | _, [] => []
  | i, t :: txs => t.block conf i :: blocks conf (i + t.ops.length) txs

section

variable {conf : Settings} {m : GtidSetsMap} {txs : List RowTransaction} {t : RowTransaction}
  {k n : ℕ}

/-- The next transaction extends what the map covers by one. -/
lemma CoversFirst.insert {gtids : List MysqlOperationGTID} {o : MysqlOperationGTID}
    (h : CoversFirst m gtids k) (hasc : Ascends gtids) (ho : gtids[k]? = some o) :
    CoversFirst (Finmap.insert o.serverUUID o.trxID.toUInt64 m) gtids (k + 1) := by
  have hnot : ¬ m.Covers o.serverUUID o.trxID.toUInt64 := by
    rw [h.iff k o ho]
    exact lt_irrefl k
  obtain ⟨hk, hget⟩ := List.getElem?_eq_some_iff.mp ho
  refine ⟨hk, fun i o' ho' => ?_⟩
  obtain ⟨hi, hget'⟩ := List.getElem?_eq_some_iff.mp ho'
  rcases lt_trichotomy i k with hik | rfl | hki
  · exact ⟨fun _ => Nat.lt_succ_of_lt hik, fun _ => ((h.iff i o' ho').mpr hik).insert hnot⟩
  · obtain rfl : o = o' := Option.some.inj (ho.symm.trans ho')
    exact ⟨fun _ => Nat.lt_succ_self i, fun _ => ⟨_, Finmap.lookup_insert m, UInt64.le_refl _⟩⟩
  · refine ⟨fun hcov => absurd hcov ?_, fun hlt => by omega⟩
    by_cases hu : o.serverUUID = o'.serverUUID
    · -- a later transaction of the same server has a higher number
      have hlt := List.pairwise_iff_getElem.mp hasc k i hk hi hki
      rw [hget, hget'] at hlt
      rintro ⟨last, hlast, hle⟩
      rw [← hu, Finmap.lookup_insert] at hlast
      cases hlast
      exact absurd (hlt hu) (UInt64.not_lt.mpr hle)
    · rintro ⟨last, hlast, hle⟩
      rw [Finmap.lookup_insert_of_ne m (Ne.symm hu)] at hlast
      have := (h.iff i o' ho').mp ⟨last, hlast, hle⟩
      omega

lemma getElem?_gtids (ht : txs[n]? = some t) : (gtids txs)[n]? = some t.gtid := by
  rw [gtids, List.getElem?_map, ht]
  rfl

@[simp] lemma length_gtids (txs : List RowTransaction) : (gtids txs).length = txs.length :=
  List.length_map _

lemma CoversFirst.covers_iff (h : CoversFirst m (gtids txs) k) (ht : txs[n]? = some t) :
    m.Covers t.gtid.serverUUID t.gtid.trxID.toUInt64 ↔ n < k :=
  h.iff n t.gtid (getElem?_gtids ht)

lemma CoversFirst.le_length (h : CoversFirst m (gtids txs) k) : k ≤ txs.length :=
  length_gtids txs ▸ h.le

lemma stream_take_succ (ht : txs[n]? = some t) :
    stream (txs.take (n + 1)) = stream (txs.take n) ++ t.ops := by
  rw [List.take_add_one, ht]
  simp [stream]

lemma blocks_concat (i : ℕ) (txs : List RowTransaction) (t : RowTransaction) :
    blocks conf i (txs ++ [t]) = blocks conf i txs ++ [t.block conf (i + (stream txs).length)] := by
  induction txs generalizing i with
  | nil => rfl
  | cons t' txs ih =>
    rw [List.cons_append, blocks, ih, blocks, stream_cons, List.length_append, ← Nat.add_assoc]
    rfl

lemma plain_stream_take_succ (ht : txs[n]? = some t) :
    plain conf m (stream (txs.take (n + 1))) =
      t.ops.foldl (Plain.step conf) (plain conf m (stream (txs.take n))) := by
  rw [stream_take_succ ht, plain, List.foldl_append]
  rfl

variable (conf) in
/-- The transactions that the map covers are skipped. -/
lemma plain_stream_of_le (h : CoversFirst m (gtids txs) k) (hn : n ≤ k) :
    ∃ skip, plain conf m (stream (txs.take n)) = ⟨m, skip, (stream (txs.take n)).length, []⟩ := by
  induction n with
  | zero => exact ⟨false, rfl⟩
  | succ n ih =>
    obtain ⟨skip, hplain⟩ := ih (Nat.le_of_succ_le hn)
    have hlt : n < txs.length := Nat.lt_of_lt_of_le hn h.le_length
    have ht : txs[n]? = some txs[n] := List.getElem?_eq_getElem hlt
    rw [plain_stream_take_succ ht, hplain,
      RowTransaction.foldl_step_of_covers _ ((h.covers_iff ht).mpr hn), stream_take_succ ht,
      List.length_append]
    exact ⟨true, rfl⟩

variable (conf) in
/-- The others are entered in the map one by one, and append their statements. -/
lemma plain_stream_of_ge (h : CoversFirst m (gtids txs) k) (hasc : Ascends (gtids txs)) (hk : k ≤ n)
    (hn : n ≤ txs.length) :
    ∃ m' skip, CoversFirst m' (gtids txs) n ∧ plain conf m (stream (txs.take n)) =
      ⟨m', skip, (stream (txs.take n)).length,
        (blocks conf (stream (txs.take k)).length ((txs.take n).drop k)).flatten⟩ := by
  induction n, hk using Nat.le_induction with
  | base =>
    obtain ⟨skip, hplain⟩ := plain_stream_of_le conf h le_rfl
    refine ⟨m, skip, h, ?_⟩
    rw [hplain, List.drop_of_length_le (by simp)]
    rfl
  | succ n hk ih =>
    obtain ⟨m', skip, hcov, hplain⟩ := ih (Nat.le_of_succ_le hn)
    have ht : txs[n]? = some txs[n] := List.getElem?_eq_getElem hn
    have hnot : ¬ m'.Covers txs[n].gtid.serverUUID txs[n].gtid.trxID.toUInt64 := by
      rw [hcov.covers_iff ht]
      exact lt_irrefl n
    refine ⟨_, false, hcov.insert hasc (getElem?_gtids ht), ?_⟩
    have htake : txs.take (n + 1) = txs.take n ++ [txs[n]] := List.take_succ_eq_append_getElem hn
    have hdrop : (txs.take (n + 1)).drop k = (txs.take n).drop k ++ [txs[n]] := by
      rw [htake, List.drop_append_of_le_length (by simp; omega)]
    have hlen : (stream (txs.take k)).length + (stream ((txs.take n).drop k)).length =
        (stream (txs.take n)).length := by
      rw [← List.length_append, ← stream_append]
      have hsplit := Blocks.drop_take_eq_append txs (Nat.zero_le k) hk
      rw [List.drop_zero, List.drop_zero] at hsplit
      rw [← hsplit]
    rw [plain_stream_take_succ ht, hplain, RowTransaction.foldl_step_of_not_covers _ hnot,
      stream_take_succ ht, List.length_append, hdrop, blocks_concat, hlen, List.flatten_append]
    simp

/-- A part of a history ends inside a transaction or at its end. -/
lemma exists_of_isPrefix_stream {q : List MysqlOperation} (h : q <+: stream txs) :
    q = stream txs ∨ ∃ n t r, txs[n]? = some t ∧ r <+: t.ops ∧ q = stream (txs.take n) ++ r := by
  induction txs generalizing q with
  | nil => exact .inl (List.prefix_nil.mp h)
  | cons t txs ih =>
    rw [stream_cons] at h ⊢
    rcases List.prefix_or_prefix_of_prefix h (List.prefix_append _ _) with hq | ⟨q', rfl⟩
    · exact .inr ⟨0, t, q, rfl, hq, rfl⟩
    · rw [List.prefix_append_right_inj] at h
      rcases ih h with rfl | ⟨n, t', r, ht', hr, rfl⟩
      · exact .inl rfl
      · exact .inr ⟨n + 1, t', r, ht', hr, by simp⟩

lemma gtidSetsMap_foldl_step {ops : List MysqlOperation} (h : ∀ op ∈ ops, op.isGTID = false)
    (p : Plain) : (ops.foldl (Plain.step conf) p).gtidSetsMap = p.gtidSetsMap := by
  induction ops generalizing p with
  | nil => rfl
  | cons op ops ih =>
    obtain ⟨hop, hops⟩ := List.forall_mem_cons.mp h
    rw [List.foldl_cons, ih hops, Plain.step_gtidSetsMap hop]

variable (conf) in
/-- Inside a transaction the map is that of its beginning or that of its end. -/
lemma RowTransaction.gtidSetsMap_of_isPrefix (t : RowTransaction) {r : List MysqlOperation}
    (h : r <+: t.ops) (p : Plain) :
    (r.foldl (Plain.step conf) p).gtidSetsMap = p.gtidSetsMap ∨
      (r.foldl (Plain.step conf) p).gtidSetsMap =
        (t.ops.foldl (Plain.step conf) p).gtidSetsMap := by
  have hlead : ∀ op ∈ t.lead, op.isGTID = false := fun op hop =>
    isGTID_of_isIdle (t.lead_isIdle op hop)
  rw [t.ops_eq] at h ⊢
  rcases List.prefix_or_prefix_of_prefix h (List.prefix_append _ _) with hr | ⟨r', rfl⟩
  · exact .inl (gtidSetsMap_foldl_step (fun op hop => hlead op (hr.subset hop)) p)
  · rw [List.prefix_append_right_inj] at h
    cases r' with
    | nil => exact .inl (gtidSetsMap_foldl_step (by simpa using hlead) p)
    | cons op r' =>
      obtain ⟨rfl, hr'⟩ := List.cons_prefix_cons.mp h
      right
      simp only [List.foldl_append, List.foldl_cons]
      rw [gtidSetsMap_foldl_step fun op hop => t.isGTID_of_mem_tail (hr'.subset hop),
        gtidSetsMap_foldl_step fun op hop => t.isGTID_of_mem_tail hop]

/-- At any point of a history the map covers a number of its transactions. -/
lemma exists_coversFirst_of_isPrefix (h : CoversFirst m (gtids txs) k) (hasc : Ascends (gtids txs))
    {q : List MysqlOperation} (hq : q <+: stream txs) :
    ∃ k', k ≤ k' ∧ CoversFirst (plain conf m q).gtidSetsMap (gtids txs) k' := by
  have hat (n : ℕ) (hn : n ≤ txs.length) : ∃ k', k ≤ k' ∧
      CoversFirst (plain conf m (stream (txs.take n))).gtidSetsMap (gtids txs) k' := by
    rcases le_total n k with hnk | hkn
    · obtain ⟨skip, hplain⟩ := plain_stream_of_le conf h hnk
      rw [hplain]
      exact ⟨k, le_rfl, h⟩
    · obtain ⟨m', skip, hcov, hplain⟩ := plain_stream_of_ge conf h hasc hkn hn
      rw [hplain]
      exact ⟨n, hkn, hcov⟩
  rcases exists_of_isPrefix_stream hq with rfl | ⟨n, t, r, ht, hr, rfl⟩
  · have hall := hat txs.length le_rfl
    rwa [List.take_length] at hall
  · have hlt : n < txs.length := (List.getElem?_eq_some_iff.mp ht).1
    rw [plain, List.foldl_append]
    rcases t.gtidSetsMap_of_isPrefix conf hr (plain conf m (stream (txs.take n))) with
      heq | heq
    · rw [show (stream (txs.take n)).foldl (Plain.step conf) (Plain.start m) =
        plain conf m (stream (txs.take n)) from rfl, heq]
      exact hat n hlt.le
    · rw [show (stream (txs.take n)).foldl (Plain.step conf) (Plain.start m) =
        plain conf m (stream (txs.take n)) from rfl, heq, ← plain_stream_take_succ ht]
      exact hat (n + 1) hlt

/-! ### Positions -/

lemma exists_of_mem_blocks {i : ℕ} {b : List (ℕ × Statement)} (h : b ∈ blocks conf i txs) :
    ∃ pre t post, txs = pre ++ t :: post ∧ b = t.block conf (i + (stream pre).length) := by
  induction txs generalizing i with
  | nil => simp [blocks] at h
  | cons t txs ih =>
    rcases List.mem_cons.mp h with rfl | h
    · exact ⟨[], t, txs, rfl, rfl⟩
    · obtain ⟨pre, t', post, rfl, rfl⟩ := ih h
      exact ⟨t :: pre, t', post, rfl, by simp [Nat.add_assoc]⟩

variable {pre post : List RowTransaction} {d : ℕ}

lemma getElem?_append_middle {α : Type} (as : List α) {bs : List α} (cs : List α)
    (hd : d < bs.length) :
    (as ++ (bs ++ cs))[as.length + d]? = bs[d]? := by
  rw [List.getElem?_append_right (Nat.le_add_right _ _), Nat.add_sub_cancel_left,
    List.getElem?_append_left hd]

variable (pre post) in
lemma getElem?_stream_tail (hd : d < t.tail.length) :
    (stream (pre ++ t :: post))[(stream pre).length + t.lead.length + 1 + d]? = t.tail[d]? := by
  have hmiddle := getElem?_append_middle (stream pre ++ t.lead ++ [.gtid t.gtid]) (stream post) hd
  simpa [t.ops_eq, Nat.add_assoc] using hmiddle

variable (pre post) in
lemma getElem?_stream_rows (hd : d < t.rows.length) :
    (stream (pre ++ t :: post))[(stream pre).length + t.head.length + d]? = t.rows[d]? := by
  have hmiddle := getElem?_append_middle (stream pre ++ t.head)
    (.xid t.xid :: (t.trail ++ stream post)) hd
  simpa [RowTransaction.ops, Nat.add_assoc] using hmiddle

variable (pre t post) in
lemma getElem?_stream_gtid :
    (stream (pre ++ t :: post))[(stream pre).length + t.lead.length]? = some (.gtid t.gtid) := by
  simp [t.ops_eq]

/-- The row changes of a transaction are one group. -/
lemma sameGroup_rows {d d' : ℕ} {op op' : MysqlOperation} (hop : t.rows[d]? = some op)
    (hop' : t.rows[d']? = some op') (hdml : op.isDML = true) (hdml' : op'.isDML = true) :
    SameGroup (stream (pre ++ t :: post)) ((stream pre).length + t.head.length + d)
      ((stream pre).length + t.head.length + d') := by
  obtain ⟨hd, -⟩ := List.getElem?_eq_some_iff.mp hop
  obtain ⟨hd', -⟩ := List.getElem?_eq_some_iff.mp hop'
  refine ⟨⟨op, by rw [getElem?_stream_rows pre post hd, hop], hdml⟩,
    ⟨op', by rw [getElem?_stream_rows pre post hd', hop'], hdml'⟩, fun l op₁ hlt hlt' hget => ?_⟩
  obtain ⟨e, rfl⟩ : ∃ e, l = (stream pre).length + t.head.length + e :=
    ⟨l - ((stream pre).length + t.head.length), by omega⟩
  rw [getElem?_stream_rows pre post (by omega)] at hget
  rcases t.rows_inRows op₁ (List.mem_of_getElem? hget) with hdml | ⟨o, rfl⟩
  · exact isDelimiter_of_isDML hdml
  · rfl

variable (pre post) in
/-- A row change belongs to the group of the GTID before it. -/
lemma inGroup_rows (hd : d < t.rows.length) :
    InGroup (stream (pre ++ t :: post)) ((stream pre).length + t.lead.length)
      ((stream pre).length + t.head.length + d) := by
  have hhead : t.head.length = t.lead.length + 1 + (t.positions.length + 1) := by
    simp [RowTransaction.head]
    omega
  have htail : t.positions.length + 1 + t.rows.length ≤ t.tail.length := by
    simp [RowTransaction.tail]
    omega
  refine ⟨by omega, fun l op hlt hle hget => ?_⟩
  obtain ⟨e, rfl⟩ : ∃ e, l = (stream pre).length + t.lead.length + 1 + e :=
    ⟨l - ((stream pre).length + t.lead.length + 1), by omega⟩
  rw [getElem?_stream_tail pre post (by omega)] at hget
  exact t.isGTID_of_mem_tail (List.mem_of_getElem? hget)

/-- The statements of a block are those of row changes. -/
lemma exists_of_mem_block {i j : ℕ} {st : Statement} (h : (j, st) ∈ t.block conf i) :
    ∃ d op, t.rows[d]? = some op ∧ op.isDML = true ∧ j = i + t.head.length + d ∧
      statement conf op = .ok (some st) := by
  obtain ⟨d, op, hop, rfl, hst⟩ := mem_keyed.mp h
  refine ⟨d, op, hop, ?_, rfl, hst⟩
  rcases t.rows_inRows op (List.mem_of_getElem? hop) with hdml | ⟨o, rfl⟩
  · exact hdml
  · cases hst

end

/-! ### The cut -/

section

variable {conf : Settings} {env : Env} {ckpt : Checkpoint} {txs : List RowTransaction} {k : ℕ}

/-- The log of a run on a part of a stream is a part of the log of the run on the stream. -/
lemma log_isPrefix {opers opers' : List MysqlOperation} (h : opers <+: opers')
    (ma : MysqlApplier) : (run conf env opers ma).2.log <+: (run conf env opers' ma).2.log := by
  obtain ⟨rest, rfl⟩ := h
  induction rest using List.reverseRecOn with
  | nil => rw [List.append_nil]
  | append_singleton rest op ih =>
    refine ih.trans ?_
    rw [← List.append_assoc]
    rcases hrun : run conf env (opers ++ rest) ma with ⟨e | ⟨⟩, ma'⟩
    · rw [run, Prog.forEach_append_of_error hrun]
    · obtain ⟨l, hl, -⟩ := writesOnly_start conf env op ma'
      rw [run, Prog.forEach_concat_of_ok hrun, hl]
      exact List.prefix_append _ _

/-- What a destination that held the first `k` transactions of a history has left behind: the
statements of those from `k` to `n`, and a map that covers some of the first `n`. -/
structure Cut (conf : Settings) (txs : List RowTransaction) (k n : ℕ) (w : World) : Prop where
  ge : k ≤ n
  le : n ≤ txs.length
  committed : w.committed.map Entry.statement =
    ((txs.take n).drop k).flatMap (RowTransaction.statements conf)
  tolerated : ∀ e ∈ w.committed, e.reply.Tolerated conf
  stored : ∀ m, w.gtidsets = some m → ∃ k', k ≤ k' ∧ k' ≤ n ∧ CoversFirst m (gtids txs) k'

lemma map_snd_blocks (i : ℕ) (txs : List RowTransaction) :
    (blocks conf i txs).flatten.map Prod.snd = txs.flatMap (RowTransaction.statements conf) := by
  induction txs generalizing i with
  | nil => rfl
  | cons t txs ih =>
    rw [blocks, List.flatten_cons, List.map_append, ih, List.flatMap_cons, RowTransaction.block,
      map_snd_keyed]
    rfl

lemma take_blocks (i n : ℕ) (txs : List RowTransaction) :
    (blocks conf i txs).take n = blocks conf i (txs.take n) := by
  induction txs generalizing i n with
  | nil => simp [blocks]
  | cons t txs ih =>
    cases n with
    | zero => rfl
    | succ n => rw [blocks, List.take_succ_cons, List.take_succ_cons, blocks, ih]

@[simp] lemma length_blocks (i : ℕ) (txs : List RowTransaction) :
    (blocks conf i txs).length = txs.length := by
  induction txs generalizing i with
  | nil => rfl
  | cons t txs ih => rw [blocks, List.length_cons, ih, List.length_cons]

lemma mem_of_gtidsets {p : List Event} {m : GtidSetsMap}
    (hm : (World.replay p).gtidsets = some m) : .call (.putGtidsets m) .ok ∈ p := by
  induction p using List.reverseRecOn with
  | nil => cases hm
  | append_singleton p e ih =>
    rw [World.replay_append] at hm
    by_cases he : e.isWrite = true
    · obtain ⟨m', r, rfl⟩ : ∃ m' r, e = .call (.putGtidsets m') r := by
        cases e with
        | receive op => cases he
        | call c r =>
          cases c with
          | putGtidsets m' => exact ⟨m', r, rfl⟩
          | _ => cases he
      rw [List.foldl_cons, List.foldl_nil, World.after_putGtidsets] at hm
      simp only at hm
      split_ifs at hm with hr
      · cases hm
        subst hr
        simp
      · exact List.mem_append_left _ (ih hm)
    · rw [List.foldl_cons, List.foldl_nil,
        (World.after_of_not_isWrite (Bool.eq_false_iff.mpr he) _).1] at hm
      exact List.mem_append_left _ (ih hm)

/-- The map that was last stored is one of the plain run. -/
lemma exists_plain_of_gtidsets {opers : List MysqlOperation} {p : List Event}
    (hp : p <+: (run conf env opers (newMysqlApplier ckpt)).2.log) {m : GtidSetsMap}
    (hm : (World.replay p).gtidsets = some m) :
    ∃ q, q <+: opers ∧ m = (plain conf ckpt.gtidSetsMap q).gtidSetsMap := by
  obtain ⟨q, ma, hq, hrun, rfl⟩ := exists_run_of_mem_log (hp.subset (mem_of_gtidsets hm))
  have htracks := tracks_run (List.prefix_refl q) hrun
  refine ⟨q, hq, ?_⟩
  rw [← htracks.gtidSetsMap, List.take_length]

lemma plain_applied_isPrefix {m : GtidSetsMap} {opers opers' : List MysqlOperation}
    (h : opers <+: opers') : (plain conf m opers).applied <+: (plain conf m opers').applied := by
  obtain ⟨rest, rfl⟩ := h
  induction rest using List.reverseRecOn with
  | nil => rw [List.append_nil]
  | append_singleton rest op ih =>
    rw [← List.append_assoc, plain_concat, Plain.step_applied]
    exact ih.trans (List.prefix_append _ _)

lemma pairwise_plain_applied (m : GtidSetsMap) (opers : List MysqlOperation) :
    (plain conf m opers).applied.Pairwise (fun a b => a.1 < b.1) := by
  induction opers using List.reverseRecOn with
  | nil => exact .nil
  | append_singleton opers op ih =>
    rw [plain_concat, Plain.step_applied, plain_received, List.pairwise_append]
    refine ⟨ih, ?_, ?_⟩
    · split
      · exact .nil
      · rw [Plain.statements]
        split <;> simp
    · rintro ⟨j, st⟩ ha b hb
      obtain ⟨op', hop', -⟩ := mem_plain_applied.mp ha
      have hlt : j < opers.length := (List.getElem?_eq_some_iff.mp hop').1
      split at hb
      · cases hb
      · obtain ⟨st', -, rfl⟩ := List.mem_map.mp hb
        exact hlt

/-- A transaction with what comes before it, in a history of which the first `k` are left out. -/
lemma exists_split_of_mem_blocks {b : List (ℕ × Statement)}
    (h : b ∈ blocks conf (stream (txs.take k)).length (txs.drop k)) :
    ∃ pre t post, txs = pre ++ t :: post ∧ b = t.block conf (stream pre).length := by
  obtain ⟨pre, t, post, htxs, rfl⟩ := exists_of_mem_blocks h
  refine ⟨txs.take k ++ pre, t, post, ?_, ?_⟩
  · rw [List.append_assoc, ← htxs, List.take_append_drop]
  · rw [stream_append, List.length_append]

/-- What is committed of a transaction is all of it. -/
lemma Follows.whole_blocks {m : GtidSetsMap} {committed opened : List Entry} {i : ℕ}
    (h : Follows conf m (stream txs) i committed opened) :
    Blocks.Whole (blocks conf (stream (txs.take k)).length (txs.drop k))
      (committed.map Entry.key) := by
  intro b hb a ha hcommitted a' ha'
  obtain ⟨pre, t, post, htxs, rfl⟩ := exists_split_of_mem_blocks hb
  obtain ⟨j, st⟩ := a
  obtain ⟨j', st'⟩ := a'
  obtain ⟨d, op, hop, hdml, rfl, -⟩ := exists_of_mem_block ha
  obtain ⟨d', op', hop', hdml', rfl, hst'⟩ := exists_of_mem_block ha'
  obtain ⟨e, he, hkey⟩ := List.mem_map.mp hcommitted
  have hwhole := Follows.groupsWhole (w := ⟨0, committed, some opened, none, none⟩) h
  rw [htxs] at hwhole
  have hlt : d' < t.rows.length := (List.getElem?_eq_some_iff.mp hop').1
  obtain ⟨e', he', hpos, hst⟩ := hwhole _ _ (sameGroup_rows hop hop' hdml hdml')
    ⟨e, he, congrArg Prod.fst hkey⟩ op' st' (by rw [getElem?_stream_rows pre post hlt, hop']) hst'
  exact List.mem_map.mpr ⟨e', he', Prod.ext hpos hst⟩

/-- The committed statements are those of whole transactions. -/
lemma exists_committed_eq {m : GtidSetsMap} (hk : CoversFirst m (gtids txs) k)
    (hasc : Ascends (gtids txs)) {committed opened : List Entry} {i : ℕ}
    (hfollows : Follows conf m (stream txs) i committed opened) :
    ∃ n, k ≤ n ∧ n ≤ txs.length ∧ committed.map Entry.key =
      (blocks conf (stream (txs.take k)).length ((txs.take n).drop k)).flatten := by
  obtain ⟨m', skip, -, hplain⟩ := plain_stream_of_ge conf hk hasc hk.le_length le_rfl
  rw [List.take_length] at hplain
  have happlied : (plain conf m (stream txs)).applied =
      (blocks conf (stream (txs.take k)).length (txs.drop k)).flatten := by rw [hplain]
  have hnodup : (blocks conf (stream (txs.take k)).length (txs.drop k)).flatten.Nodup := by
    rw [← happlied]
    exact (pairwise_plain_applied m (stream txs)).imp fun hlt heq => by simp [heq] at hlt
  have hpre : committed.map Entry.key <+:
      (blocks conf (stream (txs.take k)).length (txs.drop k)).flatten := by
    rw [← happlied]
    refine .trans ?_ (plain_applied_isPrefix (List.take_prefix i (stream txs)))
    rw [← hfollows.applied, List.map_append]
    exact List.prefix_append _ _
  obtain ⟨n, hn, heq⟩ := Blocks.exists_eq_flatten_take hnodup hpre hfollows.whole_blocks
  rw [length_blocks, List.length_drop] at hn
  refine ⟨k + n, Nat.le_add_right k n, by have := hk.le_length; omega, ?_⟩
  rw [heq, take_blocks, List.drop_take, Nat.add_sub_cancel_left]

/-- The positions of the statements of a history lie inside it. -/
lemma lt_of_mem_blocks {i j : ℕ} {st : Statement} (h : (j, st) ∈ (blocks conf i txs).flatten) :
    j < i + (stream txs).length := by
  obtain ⟨b, hb, hmem⟩ := List.mem_flatten.mp h
  obtain ⟨pre, t, post, rfl, rfl⟩ := exists_of_mem_blocks hb
  obtain ⟨d, op, hop, -, rfl, -⟩ := exists_of_mem_block hmem
  have hlt : d < t.rows.length := (List.getElem?_eq_some_iff.mp hop).1
  simp only [stream_append, stream_cons, RowTransaction.ops, List.length_append, List.length_cons]
  omega

lemma take_stream_lead (pre : List RowTransaction) (t : RowTransaction)
    (post : List RowTransaction) :
    (stream (pre ++ t :: post)).take ((stream pre).length + t.lead.length) =
      stream pre ++ t.lead := by
  rw [stream_append, stream_cons, t.ops_eq, List.take_length_add_append, List.append_assoc,
    List.take_left]

/-- A transaction that the stored map covers has nothing left to commit. -/
lemma statements_eq_nil_of_covers {m₀ m : GtidSetsMap} (hk : CoversFirst m₀ (gtids txs) k)
    (hasc : Ascends (gtids txs)) {w : World} (hdurable : Durable conf m₀ (stream txs) w) {n : ℕ}
    (hkn : k ≤ n) (hcommitted : w.committed.map Entry.key =
      (blocks conf (stream (txs.take k)).length ((txs.take n).drop k)).flatten)
    (hm : w.gtidsets = some m) {i : ℕ} {t : RowTransaction} (ht : txs[i]? = some t) (hni : n ≤ i)
    (hcov : m.Covers t.gtid.serverUUID t.gtid.trxID.toUInt64) : t.statements conf = [] := by
  obtain ⟨hi, hget⟩ := List.getElem?_eq_some_iff.mp ht
  have htxs : txs = txs.take i ++ t :: txs.drop (i + 1) := by
    rw [← hget, ← List.drop_eq_getElem_cons hi, List.take_append_drop]
  obtain ⟨m', skip, hcov', hplain⟩ :=
    plain_stream_of_ge conf hk hasc (hkn.trans hni) hi.le
  have hgtid := getElem?_stream_gtid t (txs.take i) (txs.drop (i + 1))
  have hnot : ¬ (plain conf m₀ ((stream txs).take
      ((stream (txs.take i)).length + t.lead.length))).gtidSetsMap.Covers
      t.gtid.serverUUID t.gtid.trxID.toUInt64 := by
    have htake := take_stream_lead (txs.take i) t (txs.drop (i + 1))
    rw [← htxs] at htake
    have hmap : (plain conf m₀ (stream (txs.take i) ++ t.lead)).gtidSetsMap = m' := by
      rw [plain, List.foldl_append, gtidSetsMap_foldl_step fun op hop =>
        isGTID_of_isIdle (t.lead_isIdle op hop)]
      exact congrArg Plain.gtidSetsMap hplain
    rw [htake, hmap, hcov'.covers_iff ht]
    exact lt_irrefl i
  rw [← htxs] at hgtid
  have hgroup := hdurable m hm _ t.gtid hgtid hnot hcov
  refine List.flatMap_eq_nil_iff.mpr fun op hop => ?_
  refine List.eq_nil_iff_forall_not_mem.mpr fun st hst => ?_
  obtain ⟨d, hd⟩ := List.mem_iff_getElem?.mp hop
  have hlt : d < t.rows.length := (List.getElem?_eq_some_iff.mp hd).1
  have hrow := getElem?_stream_rows (txs.take i) (txs.drop (i + 1)) hlt
  have hin := inGroup_rows (txs.take i) (txs.drop (i + 1)) hlt
  rw [← htxs] at hrow hin
  rcases hgroup _ op hin (hrow.trans hd) with hnone | ⟨e, he, hpos, hst', -⟩
  · rw [Plain.mem_statements, hnone] at hst
    cases hst
  · -- the statement would be committed at a position beyond the committed part
    have hmem : e.key ∈ w.committed.map Entry.key := List.mem_map_of_mem he
    rw [hcommitted] at hmem
    have hbound := lt_of_mem_blocks hmem
    have hlen : (stream (txs.take k)).length + (stream ((txs.take n).drop k)).length ≤
        (stream (txs.take i)).length := by
      have hsplit := congrArg (fun l => (stream l).length)
        (Blocks.drop_take_eq_append txs (Nat.zero_le k) hkn)
      have hsplit' := congrArg (fun l => (stream l).length)
        (Blocks.drop_take_eq_append txs (Nat.zero_le n) hni)
      simp only [List.drop_zero, stream_append, List.length_append] at hsplit hsplit'
      omega
    omega

/-- However a run on a part of a history ends, it cuts the history between two transactions. -/
lemma exists_cut (hk : CoversFirst ckpt.gtidSetsMap (gtids txs) k) (hasc : Ascends (gtids txs))
    {opers : List MysqlOperation} (hopers : opers <+: stream txs)
    {p : List Event} (hp : p <+: (run conf env opers (newMysqlApplier ckpt)).2.log) :
    ∃ n, Cut conf txs k n (World.replay p) := by
  -- the run on a part of the stream is a part of the run on the stream
  replace hp := hp.trans (log_isPrefix hopers _)
  obtain ⟨i, opened, hfollows⟩ :=
    throughout_iff_forall_isPrefix.mp (kept_run conf env ckpt (stream txs)) p hp
  have hdurable := throughout_iff_forall_isPrefix.mp (durable_run (wellFormed_stream txs)
    (flushedBefore_stream conf env ckpt txs)) p hp
  obtain ⟨n, hkn, hn, hcommitted⟩ := exists_committed_eq hk hasc hfollows
  have hstatements : (World.replay p).committed.map Entry.statement =
      ((txs.take n).drop k).flatMap (RowTransaction.statements conf) := by
    rw [← map_snd_blocks (stream (txs.take k)).length, ← hcommitted, List.map_map]
    rfl
  have htolerated : ∀ e ∈ (World.replay p).committed, e.reply.Tolerated conf :=
    fun e he => hfollows.tolerated e (List.mem_append_left _ he)
  cases hm : (World.replay p).gtidsets with
  | none => exact ⟨n, hkn, hn, hstatements, htolerated, fun m h => by rw [hm] at h; cases h⟩
  | some m =>
    obtain ⟨q, hq, rfl⟩ := exists_plain_of_gtidsets hp hm
    obtain ⟨k', hkk', hcov⟩ := exists_coversFirst_of_isPrefix hk hasc hq
    -- transactions the map covers beyond the committed ones have no statements
    refine ⟨max n k', hkn.trans (le_max_left _ _), max_le hn hcov.le_length, ?_, htolerated, ?_⟩
    · rw [hstatements]
      rcases le_total k' n with hle | hle
      · rw [max_eq_left hle]
      · have hnil : ((txs.take k').drop n).flatMap (RowTransaction.statements conf) = [] := by
          refine List.flatMap_eq_nil_iff.mpr fun t ht => ?_
          obtain ⟨d, hd⟩ := List.mem_iff_getElem?.mp ht
          rw [List.getElem?_drop, List.getElem?_take] at hd
          split_ifs at hd with hlt
          exact statements_eq_nil_of_covers hk hasc hdurable hkn hcommitted hm hd
            (Nat.le_add_right n d) ((hcov.covers_iff hd).mpr hlt)
        rw [max_eq_right hle, Blocks.drop_take_eq_append txs hkn hle, List.flatMap_append, hnil,
          List.append_nil]
    · intro m' hm'
      rw [hm] at hm'
      cases hm'
      exact ⟨k', hkk', le_max_right _ _, hcov⟩

end

end MysqlSync
