import MysqlSync.Applier.Turn

/-!
# The plain run

What applying a stream is meant to amount to, with nothing of how the applier goes about it: no
transactions, no batches, no states. A GTID that the map covers begins a group to skip, any other
GTID is entered in the map; every other operation that is not skipped appends the statement it
stands for.
-/

namespace MysqlSync

structure Plain where
  gtidSetsMap : GtidSetsMap
  skip : Bool
  received : ℕ
  /-- The statements, each with the position of its operation in the stream. -/
  applied : List (ℕ × Statement)

namespace Plain

variable (conf : Settings)

def start (gtidSetsMap : GtidSetsMap) : Plain where
  gtidSetsMap := gtidSetsMap
  skip := false
  received := 0
  applied := []

/-- The statements of one operation: one or none. -/
def statements (op : MysqlOperation) : List Statement :=
  match MysqlApplier.statement conf op with
  | .ok (some st) => [st]
  | _ => []

def step (p : Plain) (op : MysqlOperation) : Plain :=
  match op with
  | .gtid o =>
    if p.gtidSetsMap.Covers o.serverUUID o.trxID.toUInt64 then
      { p with skip := true, received := p.received + 1 }
    else
      { p with
        gtidSetsMap := p.gtidSetsMap.insert o.serverUUID o.trxID.toUInt64
        skip := false
        received := p.received + 1 }
  | op =>
    if p.skip then { p with received := p.received + 1 }
    else
      { p with
        received := p.received + 1
        applied := p.applied ++ (statements conf op).map (p.received, ·) }

end Plain

/-- The plain run over a stream. -/
def plain (conf : Settings) (gtidSetsMap : GtidSetsMap) (opers : List MysqlOperation) : Plain :=
  opers.foldl (Plain.step conf) (Plain.start gtidSetsMap)

section

variable {conf : Settings} {m : GtidSetsMap}

@[simp] lemma plain_nil : plain conf m [] = Plain.start m := rfl

lemma plain_concat (opers : List MysqlOperation) (op : MysqlOperation) :
    plain conf m (opers ++ [op]) = Plain.step conf (plain conf m opers) op := by
  simp [plain]

lemma plain_take_succ {opers : List MysqlOperation} {k : ℕ} {op : MysqlOperation}
    (hk : opers[k]? = some op) :
    plain conf m (opers.take (k + 1)) = Plain.step conf (plain conf m (opers.take k)) op := by
  rw [List.take_add_one, hk]
  exact plain_concat _ _

namespace Plain

@[simp] lemma step_received (p : Plain) (op : MysqlOperation) :
    (step conf p op).received = p.received + 1 := by
  cases op <;> simp only [step] <;> split_ifs <;> rfl

variable (conf) in
lemma step_of_covers {p : Plain} {o : MysqlOperationGTID}
    (h : p.gtidSetsMap.Covers o.serverUUID o.trxID.toUInt64) :
    step conf p (.gtid o) = { p with skip := true, received := p.received + 1 } := by
  simp [step, h]

variable (conf) in
lemma step_of_not_covers {p : Plain} {o : MysqlOperationGTID}
    (h : ¬ p.gtidSetsMap.Covers o.serverUUID o.trxID.toUInt64) :
    step conf p (.gtid o) = { p with
      gtidSetsMap := p.gtidSetsMap.insert o.serverUUID o.trxID.toUInt64
      skip := false
      received := p.received + 1 } := by
  simp [step, h]

lemma step_of_skip {p : Plain} {op : MysqlOperation} (hop : op.isGTID = false)
    (hskip : p.skip = true) : step conf p op = { p with received := p.received + 1 } := by
  cases op <;> simp_all [step, MysqlOperation.isGTID]

lemma step_of_not_skip {p : Plain} {op : MysqlOperation} (hop : op.isGTID = false)
    (hskip : p.skip = false) :
    step conf p op = { p with
      received := p.received + 1
      applied := p.applied ++ (statements conf op).map (p.received, ·) } := by
  cases op <;> simp_all [step, MysqlOperation.isGTID]

@[simp] lemma statements_gtid (o : MysqlOperationGTID) : statements conf (.gtid o) = [] := rfl

lemma mem_statements {op : MysqlOperation} {st : Statement} :
    st ∈ statements conf op ↔ MysqlApplier.statement conf op = .ok (some st) := by
  rcases h : MysqlApplier.statement conf op with e | _ | st' <;> simp [statements, h, eq_comm]

/-- Only a GTID changes whether operations are skipped. -/
lemma step_skip {p : Plain} {op : MysqlOperation} (hop : op.isGTID = false) :
    (step conf p op).skip = p.skip := by
  cases hskip : p.skip
  · rw [step_of_not_skip hop hskip, hskip]
  · rw [step_of_skip hop hskip, hskip]

lemma step_gtidSetsMap {p : Plain} {op : MysqlOperation} (hop : op.isGTID = false) :
    (step conf p op).gtidSetsMap = p.gtidSetsMap := by
  cases hskip : p.skip
  · rw [step_of_not_skip hop hskip]
  · rw [step_of_skip hop hskip]

/-- What one operation adds. -/
lemma step_applied (p : Plain) (op : MysqlOperation) :
    (step conf p op).applied =
      p.applied ++ if p.skip then [] else (statements conf op).map (p.received, ·) := by
  by_cases hop : op.isGTID = true
  · obtain ⟨o, rfl⟩ : ∃ o, op = .gtid o := by
      cases op <;> simp_all [MysqlOperation.isGTID]
    simp only [step]
    split_ifs <;> simp
  · rw [Bool.not_eq_true] at hop
    cases hskip : p.skip
    · simp [step_of_not_skip hop hskip]
    · simp [step_of_skip hop hskip]

end Plain

@[simp] lemma plain_received (opers : List MysqlOperation) :
    (plain conf m opers).received = opers.length := by
  induction opers using List.reverseRecOn with
  | nil => rfl
  | append_singleton opers op ih => simp [plain_concat, ih]

/-- The statements of a plain run are those of the operations that are not skipped. -/
lemma mem_plain_applied {opers : List MysqlOperation} {i : ℕ} {st : Statement} :
    (i, st) ∈ (plain conf m opers).applied ↔
      ∃ op, opers[i]? = some op ∧ (plain conf m (opers.take i)).skip = false ∧
        MysqlApplier.statement conf op = .ok (some st) := by
  induction opers using List.reverseRecOn with
  | nil => simp [Plain.start]
  | append_singleton opers op ih =>
    rw [plain_concat, Plain.step_applied, List.mem_append, ih, plain_received]
    have hne (hi : i ≠ opers.length) (l : List Statement) :
        (i, st) ∉ l.map (opers.length, ·) := by
      intro hmem
      obtain ⟨_, -, heq⟩ := List.mem_map.mp hmem
      exact hi (Prod.mk.inj heq).1.symm
    rcases lt_trichotomy i opers.length with hi | rfl | hi
    · have htake : (opers ++ [op]).take i = opers.take i := List.take_append_of_le_length hi.le
      have hget : (opers ++ [op])[i]? = opers[i]? := List.getElem?_append_left hi
      rw [htake, hget]
      split_ifs <;> simp [hne hi.ne]
    · have hnone : opers[opers.length]? = none := List.getElem?_eq_none le_rfl
      simp only [List.getElem?_concat_length, List.take_left', hnone, reduceCtorEq, false_and,
        exists_false, false_or, Option.some.injEq, exists_eq_left']
      cases hskip : (plain conf m opers).skip <;> simp [Plain.mem_statements]
    · have hnone : opers[i]? = none := List.getElem?_eq_none hi.le
      have hnone' : (opers ++ [op])[i]? = none :=
        List.getElem?_eq_none (by simpa using Nat.succ_le_of_lt hi)
      rw [hnone, hnone']
      split_ifs <;> simp [hne hi.ne']

/-- Between two positions without a GTID nothing starts or ends being skipped. -/
lemma plain_skip_eq {opers : List MysqlOperation} {i j : ℕ} (hij : i ≤ j)
    (hno : ∀ l op, i ≤ l → l < j → opers[l]? = some op → op.isGTID = false) :
    (plain conf m (opers.take j)).skip = (plain conf m (opers.take i)).skip := by
  induction j, hij using Nat.le_induction with
  | base => rfl
  | succ j hij ih =>
    have ih := ih fun l op hil hlj => hno l op hil (hlj.trans (Nat.lt_succ_self j))
    cases hop : opers[j]? with
    | none =>
      have hlen : opers.length ≤ j := List.getElem?_eq_none_iff.mp hop
      rw [List.take_of_length_le (hlen.trans (Nat.le_succ j)), ← ih, List.take_of_length_le hlen]
    | some op =>
      rw [plain_take_succ hop, Plain.step_skip (hno j op hij (Nat.lt_succ_self j) hop), ih]

end

end MysqlSync
