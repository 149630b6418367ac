import MysqlSync.Applier.Outcome

/-!
# One turn of the loop

The statement an operation stands for, read off the code of its case (`MysqlApplier.statement`),
and the ways one turn of `start` can end (`Turn`). The row cases share one shape and so do the
cases of the statements with a transaction of their own: `dispatch_of_isDML` and
`dispatch_of_isNonDML` bring them to it.
-/

namespace MysqlSync

open Prog

namespace MysqlApplier

variable (conf : Settings) (env : Env)

/-! ### The statement of an operation -/

/-- The query the row cases build, `none` when the filter or a missing primary key suppresses it. -/
def dmlQuery : MysqlOperation → Except Stop (Option Query)
  | .dmlInsert op =>
    if replicateNotExecute conf op.database op.table then .ok none
    else match gobUint8NilRepair op.columns with
      | none => .error .gobRepair
      | some columns => .ok (some
          (if conf.dmlModeInsert = "replace"
            then buildDMLInsertQueryReplace op.database op.table columns
            else buildDMLInsertQuery op.database op.table columns))
  | .dmlDelete op =>
    if replicateNotExecute conf op.database op.table then .ok none
    else match gobUint8NilRepair op.columns with
      | none => .error .gobRepair
      | some columns =>
        if op.primaryKey.length = 0 then .ok none
        else match buildDMLDeleteQuery op.database op.table columns op.primaryKey with
          | none => .error .panic
          | some query => .ok (some query)
  | .dmlUpdate op =>
    if replicateNotExecute conf op.database op.table then .ok none
    else match gobUint8NilRepair op.afterColumns, gobUint8NilRepair op.beforeColumns with
      | some afterColumns, some beforeColumns =>
        if op.primaryKey.length = 0 then .ok none
        else if conf.dmlModeUpdate = "replace" then
          .ok (some (buildDMLInsertQueryReplace op.database op.table afterColumns))
        else match buildDMLUpdateQuery op.database op.table afterColumns beforeColumns
            op.primaryKey with
          | none => .error .panic
          | some query => .ok (some query)
      | _, _ => .error .gobRepair
  | _ => .ok none

/-- The schema context and the text of a statement with a transaction of its own, unless the
filter suppresses it. -/
def nonDMLQuery : MysqlOperation → Option (String × String)
  | .ddlDatabase op =>
    if replicateNotExecute conf op.database "" then none else some ("", op.query)
  | .ddlTable op =>
    if replicateNotExecute conf op.schemaContext "" ||
        replicateNotExecute conf op.database op.table then none
    else some (op.schemaContext, op.query)
  | .dclUser op =>
    if replicateNotExecute conf op.schemaContext "" then none
    else some (op.schemaContext, op.query)
  | _ => none

/-- The statement an operation stands for, if it is executed at all. -/
def statement (op : MysqlOperation) : Except Stop (Option Statement) :=
  match nonDMLQuery conf op with
  | some (_, query) => .ok (some (.nonDML query))
  | none => match dmlQuery conf op with
    | .ok (some query) => .ok (some (.dml query))
    | .ok none => .ok none
    | .error e => .error e

lemma statement_of_nonDMLQuery {op : MysqlOperation} {schemaContext query : String}
    (h : nonDMLQuery conf op = some (schemaContext, query)) :
    statement conf op = .ok (some (.nonDML query)) := by
  simp [statement, h]

lemma statement_of_isNonDML {op : MysqlOperation} (hop : op.isNonDML = true)
    (h : nonDMLQuery conf op = none) : statement conf op = .ok none := by
  have hdml : dmlQuery conf op = .ok none := by
    cases op <;> simp_all [MysqlOperation.isNonDML, dmlQuery]
  simp [statement, h, hdml]

lemma statement_of_isDML {op : MysqlOperation} (hop : op.isDML = true) :
    statement conf op = match dmlQuery conf op with
      | .ok query => .ok (query.map .dml)
      | .error e => .error e := by
  have hnon : nonDMLQuery conf op = none := by
    cases op <;> simp_all [MysqlOperation.isDML, nonDMLQuery]
  rcases h : dmlQuery conf op with e | _ | query <;> simp [statement, hnon, h]

variable {conf} in
/-- Why a row change cannot be turned into a statement. -/
lemma dmlQuery_error {op : MysqlOperation} {e : Stop} (h : dmlQuery conf op = .error e) :
    e = .gobRepair ∨ e = .panic := by
  cases op with
  | dmlInsert op =>
    simp only [dmlQuery] at h
    cases hc : gobUint8NilRepair op.columns with
    | none => simp only [hc] at h; split_ifs at h; simp_all
    | some columns => simp only [hc] at h; split_ifs at h
  | dmlDelete op =>
    simp only [dmlQuery] at h
    cases hc : gobUint8NilRepair op.columns with
    | none => simp only [hc] at h; split_ifs at h; simp_all
    | some columns =>
      cases hq : buildDMLDeleteQuery op.database op.table columns op.primaryKey with
      | none => simp only [hc, hq] at h; split_ifs at h; simp_all
      | some query => simp only [hc, hq] at h; split_ifs at h
  | dmlUpdate op =>
    simp only [dmlQuery] at h
    cases ha : gobUint8NilRepair op.afterColumns with
    | none => simp only [ha] at h; split_ifs at h; simp_all
    | some afterColumns =>
      cases hb : gobUint8NilRepair op.beforeColumns with
      | none => simp only [ha, hb] at h; split_ifs at h; simp_all
      | some beforeColumns =>
        cases hq : buildDMLUpdateQuery op.database op.table afterColumns beforeColumns
            op.primaryKey with
        | none => simp only [ha, hb, hq] at h; split_ifs at h; simp_all
        | some query => simp only [ha, hb, hq] at h; split_ifs at h
  | _ => simp [dmlQuery] at h

/-- The statements of the row cases: by the operation, what passed the filter and the mode. -/
inductive RowQuery : MysqlOperation → Query → Prop where
  | insert (op : MysqlOperationDMLInsert) (columns : List MysqlOperationDMLColumn)
      (hpass : conf.replicate.filter op.database op.table = true)
      (hmode : conf.dmlModeInsert ≠ "replace")
      (hrepair : gobUint8NilRepair op.columns = some columns) :
      RowQuery (.dmlInsert op) (buildDMLInsertQuery op.database op.table columns)
  | insertReplace (op : MysqlOperationDMLInsert) (columns : List MysqlOperationDMLColumn)
      (hpass : conf.replicate.filter op.database op.table = true)
      (hrepair : gobUint8NilRepair op.columns = some columns) :
      RowQuery (.dmlInsert op) (buildDMLInsertQueryReplace op.database op.table columns)
  | delete (op : MysqlOperationDMLDelete) (columns : List MysqlOperationDMLColumn)
      (hpass : conf.replicate.filter op.database op.table = true) (query : Query)
      (hq : buildDMLDeleteQuery op.database op.table columns op.primaryKey = some query)
      (hrepair : gobUint8NilRepair op.columns = some columns) : RowQuery (.dmlDelete op) query
  | update (op : MysqlOperationDMLUpdate) (afterColumns beforeColumns : List MysqlOperationDMLColumn)
      (hpass : conf.replicate.filter op.database op.table = true)
      (hmode : conf.dmlModeUpdate ≠ "replace") (query : Query)
      (hq : buildDMLUpdateQuery op.database op.table afterColumns beforeColumns op.primaryKey =
        some query) (hafter : gobUint8NilRepair op.afterColumns = some afterColumns)
      (hbefore : gobUint8NilRepair op.beforeColumns = some beforeColumns) :
      RowQuery (.dmlUpdate op) query
  | updateReplace (op : MysqlOperationDMLUpdate) (afterColumns : List MysqlOperationDMLColumn)
      (hpass : conf.replicate.filter op.database op.table = true)
      (hafter : gobUint8NilRepair op.afterColumns = some afterColumns) :
      RowQuery (.dmlUpdate op) (buildDMLInsertQueryReplace op.database op.table afterColumns)

variable {conf} in
lemma RowQuery.of_dmlQuery {op : MysqlOperation} {query : Query}
    (h : dmlQuery conf op = .ok (some query)) : RowQuery conf op query := by
  have pass {database table : String} (hnot : ¬ replicateNotExecute conf database table = true) :
      conf.replicate.filter database table = true := by
    simpa [replicateNotExecute] using hnot
  cases op with
  | dmlInsert op =>
    simp only [dmlQuery] at h
    split_ifs at h with hnot hmode
    · cases h
    · split at h
      · cases h
      · rename_i hrepair
        cases h
        exact .insertReplace op _ (pass hnot) hrepair
    · split at h
      · cases h
      · rename_i hrepair
        cases h
        exact .insert op _ (pass hnot) hmode hrepair
  | dmlDelete op =>
    simp only [dmlQuery] at h
    split_ifs at h with hnot hlen
    · cases h
    · split at h <;> cases h
    · split at h
      · cases h
      · rename_i hrepair
        split at h
        · cases h
        · rename_i hq
          cases h
          exact .delete op _ (pass hnot) _ hq hrepair
  | dmlUpdate op =>
    simp only [dmlQuery] at h
    split_ifs at h with hnot hlen hmode
    · cases h
    · split at h <;> cases h
    · split at h
      · rename_i hafter _
        cases h
        exact .updateReplace op _ (pass hnot) hafter
      · cases h
    · split at h
      · rename_i hafter hbefore
        split at h
        · cases h
        · rename_i hq
          cases h
          exact .update op _ _ (pass hnot) hmode _ hq hafter hbefore
      · cases h
  | _ => simp [dmlQuery] at h

/-! ### The state table -/

/-- The states in which the case of an operation goes on. -/
def allowed : MysqlOperation → List State
  | .binLogPos _ => [.null, .dml, .ddl, .dcl, .begin, .xid, .gtid]
  | .heartbeat _ | .gtid _ => resting
  | .ddlDatabase _ => [.gtid]
  | .ddlTable _ => [.gtid, .ddl]
  | .dclUser _ => [.gtid, .dcl]
  | .begin _ => [.gtid]
  | .dmlInsert _ | .dmlDelete _ | .dmlUpdate _ => [.begin, .dml]
  | .xid _ => [.dml, .begin]

/-- The name of a case in its error message. -/
def caseName : MysqlOperation → String
  | .binLogPos _ => "binlogpos"
  | .heartbeat _ => "heartbeat"
  | .gtid _ => "gtid"
  | .ddlDatabase _ => "ddldatabase"
  | .ddlTable _ => "ddltable"
  | .dclUser _ => "dcluser"
  | .begin _ => "begin"
  | .dmlInsert _ => "dmlinsert"
  | .dmlDelete _ => "dmldelete"
  | .dmlUpdate _ => "dmlupdate"
  | .xid _ => "xid"

/-- The state a statement with a transaction of its own leaves. -/
def nonDMLState : MysqlOperation → State
  | .dclUser _ => .dcl
  | _ => .ddl

/-- Go on to the state `s`, unless stopped. -/
def thenState (x : Ending) (s : State) : Ending :=
  match x with
  | (.ok (), ma) => (.ok (), { ma with state := s })
  | (.error e, ma) => (.error e, ma)

lemma thenState_eq_ok {x : Ending} {s : State} {ma' : MysqlApplier}
    (h : (.ok (), ma') = thenState x s) :
    ∃ ma, x = (.ok (), ma) ∧ ma' = { ma with state := s } := by
  rcases x with ⟨e | ⟨⟩, ma⟩
  · simp [thenState] at h
  · exact ⟨ma, rfl, (Prod.mk.inj h).2⟩

lemma thenState_eq_error {x : Ending} {s : State} {e : Stop} {ma' : MysqlApplier}
    (h : (.error e, ma') = thenState x s) : x = (.error e, ma') := by
  rcases x with ⟨e | ⟨⟩, ma⟩
  · exact h.symm
  · simp [thenState] at h

variable {env}

lemma bind_setState_apply (x : Action Unit) (s : State) (ma : MysqlApplier) :
    (x >>= fun _ => setState s) ma = thenState (x ma) s := by
  rw [bind_apply]
  rcases x ma with ⟨_ | ⟨⟩, ma'⟩ <;> rfl

lemma expectState_of_mem {case : String} {l : List State} {ma : MysqlApplier}
    (h : ma.state ∈ l) : expectState case l ma = (.ok (), ma) := by
  simp [expectState, bind_apply, h]

lemma expectState_of_notMem {case : String} {l : List State} {ma : MysqlApplier}
    (h : ma.state ∉ l) : expectState case l ma = (.error (.lastState case ma.state), ma) := by
  simp [expectState, bind_apply, h]

/-! ### The two shapes of cases that execute statements -/

variable (env) in
/-- What a row case does with its query. -/
def executeQuery (query : Except Stop (Option Query)) : Action Unit :=
  match query with
  | .error e => stop e
  | .ok none => pure ()
  | .ok (some query) => MysqlClient.executeOnDML conf env query

variable (env) in
/-- What the other cases do with their statement. -/
def executeStatement (query : Option (String × String)) : Action Unit :=
  match query with
  | none => pure ()
  | some (schemaContext, query) => MysqlClient.executeOnNonDML conf env schemaContext query

lemma startDMLInsert_eq (op : MysqlOperationDMLInsert) :
    startDMLInsert conf env op = (do
      expectState "dmlinsert" [.begin, .dml]
      executeQuery conf env (dmlQuery conf (.dmlInsert op))
      setState .dml) := by
  funext ma
  simp only [startDMLInsert, dmlQuery, repaired, onDMLInsert, onDMLInsert1, onDMLInsert2,
    bind_apply]
  rcases expectState "dmlinsert" [.begin, .dml] ma with ⟨_ | ⟨⟩, ma₁⟩
  · rfl
  by_cases hf : replicateNotExecute conf op.database op.table = true
  · simp [hf, executeQuery]
  · cases hr : gobUint8NilRepair op.columns with
    | none => simp [hf, executeQuery, bind_apply]
    | some columns => split_ifs <;> simp_all [executeQuery, bind_apply]

lemma startDMLDelete_eq (op : MysqlOperationDMLDelete) :
    startDMLDelete conf env op = (do
      expectState "dmldelete" [.begin, .dml]
      executeQuery conf env (dmlQuery conf (.dmlDelete op))
      setState .dml) := by
  funext ma
  simp only [startDMLDelete, dmlQuery, repaired, onDMLDelete, bind_apply]
  rcases expectState "dmldelete" [.begin, .dml] ma with ⟨_ | ⟨⟩, ma₁⟩
  · rfl
  by_cases hf : replicateNotExecute conf op.database op.table = true
  · simp [hf, executeQuery]
  · cases hr : gobUint8NilRepair op.columns with
    | none => simp [hf, executeQuery, bind_apply]
    | some columns =>
      by_cases hk : op.primaryKey.length = 0
      · simp [hf, hk, executeQuery, bind_apply]
      · cases hq : buildDMLDeleteQuery op.database op.table columns op.primaryKey <;>
          simp [hf, hk, hq, executeQuery, orPanic, bind_apply]

lemma startDMLUpdate_eq (op : MysqlOperationDMLUpdate) :
    startDMLUpdate conf env op = (do
      expectState "dmlupdate" [.begin, .dml]
      executeQuery conf env (dmlQuery conf (.dmlUpdate op))
      setState .dml) := by
  funext ma
  simp only [startDMLUpdate, dmlQuery, repaired, onDMLUpdate, onDMLUpdate1, onDMLUpdate2,
    bind_apply]
  rcases expectState "dmlupdate" [.begin, .dml] ma with ⟨_ | ⟨⟩, ma₁⟩
  · rfl
  by_cases hf : replicateNotExecute conf op.database op.table = true
  · simp [hf, executeQuery]
  · cases ha : gobUint8NilRepair op.afterColumns with
    | none => simp [hf, executeQuery, bind_apply]
    | some afterColumns =>
      cases hb : gobUint8NilRepair op.beforeColumns with
      | none => simp [hf, executeQuery, bind_apply]
      | some beforeColumns =>
        by_cases hk : op.primaryKey.length = 0
        · simp [hf, hk, executeQuery, bind_apply]
        · by_cases hm : conf.dmlModeUpdate = "replace"
          · simp [hf, hk, hm, executeQuery, bind_apply]
          · cases hq : buildDMLUpdateQuery op.database op.table afterColumns beforeColumns
                op.primaryKey <;> simp [hf, hk, hm, hq, executeQuery, orPanic, bind_apply]

/-- The row cases: check the state, execute the query if there is one, go on to `dml`. -/
lemma dispatch_of_isDML {op : MysqlOperation} (hop : op.isDML = true) :
    dispatch conf env op = (do
      expectState (caseName op) (allowed op)
      executeQuery conf env (dmlQuery conf op)
      setState .dml) := by
  cases op with
  | dmlInsert op => exact startDMLInsert_eq conf op
  | dmlDelete op => exact startDMLDelete_eq conf op
  | dmlUpdate op => exact startDMLUpdate_eq conf op
  | _ => simp [MysqlOperation.isDML] at hop

/-- The other statements: check the state, flush the batch, execute the statement unless the
filter suppresses it. -/
lemma dispatch_of_isNonDML {op : MysqlOperation} (hop : op.isNonDML = true) :
    dispatch conf env op = (do
      expectState (caseName op) (allowed op)
      mergeCommit env
      executeStatement conf env (nonDMLQuery conf op)
      setState (nonDMLState op)) := by
  cases op with
  | ddlDatabase op =>
    funext ma
    simp only [dispatch, startDDLDatabase, nonDMLQuery, onDDLDatabase]
    split_ifs <;> rfl
  | ddlTable op =>
    funext ma
    simp only [dispatch, startDDLTable, nonDMLQuery, onDDLTable]
    split_ifs <;> rfl
  | dclUser op =>
    funext ma
    simp only [dispatch, startDCLUser, nonDMLQuery, onDCLUser]
    split_ifs <;> rfl
  | _ => simp [MysqlOperation.isNonDML] at hop

/-! ### The type switch -/

/-- The first thing the heartbeat and the GTID case do. -/
def stamped (ma : MysqlApplier) : MysqlApplier :=
  { ma with lastCheckpointTimestamp := ma.lastAppliedTimestamp }

variable (env) in
/-- The ways a case can end. -/
inductive Dispatched (op : MysqlOperation) (ma : MysqlApplier) (x : Ending) : Prop where
  | refused (hs : ma.state ∉ allowed op) (ts : UInt32)
      (result : x = (.error (.lastState (caseName op) ma.state),
        { ma with lastCheckpointTimestamp := ts }))
  | binLogPos (o : MysqlOperationBinLogPos) (hop : op = .binLogPos o)
      (result : x = (.ok (), { ma with ckpt := ma.ckpt.setBinlogPos o.file o.pos }))
  | heartbeat (o : MysqlOperationHeartbeat) (hop : op = .heartbeat o) (hs : ma.state ∈ resting)
      (x₁ : Ending)
      (h : Settled env true (stamped ma) x₁)
      (result : x = thenState x₁ .null)
  | gtidSettle (o : MysqlOperationGTID) (hop : op = .gtid o) (hs : ma.state ∈ resting)
      (force : Bool) (e : Stop) (ma₁ : MysqlApplier)
      (h : Settled env force (stamped ma)
        (.error e, ma₁))
      (result : x = (.error e, ma₁))
  | gtid (o : MysqlOperationGTID) (hop : op = .gtid o) (hs : ma.state ∈ resting)
      (force : Bool) (ma₁ : MysqlApplier)
      (h : Settled env force (stamped ma)
        (.ok (), ma₁))
      (x₂ : Ending) (h₂ : Decided env o ma₁ x₂) (result : x = thenState x₂ .gtid)
  | nonDMLMerge (hop : op.isNonDML = true) (hs : ma.state ∈ allowed op) (e : Stop)
      (ma₁ : MysqlApplier) (h : Merged env ma (.error e, ma₁)) (result : x = (.error e, ma₁))
  | nonDML (hop : op.isNonDML = true) (hs : ma.state ∈ allowed op)
      (hq : nonDMLQuery conf op = none) (ma₁ : MysqlApplier) (h : Merged env ma (.ok (), ma₁))
      (result : x = (.ok (), { ma₁ with state := nonDMLState op }))
  | nonDMLExec (hop : op.isNonDML = true) (hs : ma.state ∈ allowed op)
      (schemaContext query : String) (hq : nonDMLQuery conf op = some (schemaContext, query))
      (ma₁ : MysqlApplier) (h : Merged env ma (.ok (), ma₁)) (x₂ : Ending)
      (h₂ : MysqlClient.ExecutedNonDML conf env schemaContext query ma₁ x₂)
      (result : x = thenState x₂ (nonDMLState op))
  | beginMerged (o : MysqlOperationBegin) (hop : op = .begin o) (hs : ma.state = .gtid)
      (hp : 1 ≤ ma.pendingCommitCount) (result : x = (.ok (), { ma with state := .begin }))
  | begin (o : MysqlOperationBegin) (hop : op = .begin o) (hs : ma.state = .gtid)
      (hp : ma.pendingCommitCount = 0) (x₁ : Ending) (h : MysqlClient.Began conf env ma x₁)
      (result : x = thenState x₁ .begin)
  | dmlStop (hop : op.isDML = true) (hs : ma.state ∈ allowed op) (e : Stop)
      (hq : dmlQuery conf op = .error e) (result : x = (.error e, ma))
  | dml (hop : op.isDML = true) (hs : ma.state ∈ allowed op) (hq : dmlQuery conf op = .ok none)
      (result : x = (.ok (), { ma with state := .dml }))
  | dmlMissing (hop : op.isDML = true) (hs : ma.state ∈ allowed op) (query : Query)
      (hq : dmlQuery conf op = .ok (some query)) (htx : ma.tx = false)
      (result : x = (.error .txDoesNotExist, ma))
  | dmlExec (hop : op.isDML = true) (hs : ma.state ∈ allowed op) (query : Query)
      (hq : dmlQuery conf op = .ok (some query)) (htx : ma.tx = true) (x₁ : Ending)
      (h : MysqlClient.ExecutedData conf env (.dml query) ma x₁) (result : x = thenState x₁ .dml)
  | xid (o : MysqlOperationXid) (hop : op = .xid o) (hs : ma.state ∈ allowed op)
      (result : x = (.ok (),
        { ma with pendingCommitCount := ma.pendingCommitCount + 1, state := .xid }))

lemma Dispatched.of_heartbeat (o : MysqlOperationHeartbeat) (ma : MysqlApplier) :
    Dispatched conf env (.heartbeat o) ma (startHeartbeat env ma) := by
  let ma₀ : MysqlApplier := stamped ma
  have heq : startHeartbeat env ma = thenState (settle env "heartbeat" true ma₀) .null :=
    bind_setState_apply ..
  by_cases hs : ma.state ∈ resting
  · exact .heartbeat o rfl hs _ (Settled.of_settle env _ _ _ hs) heq
  · have hstop := settle_of_notMem env "heartbeat" true ma₀ hs
    exact .refused hs ma.lastAppliedTimestamp (by rw [heq, hstop]; rfl)

lemma Dispatched.of_gtid (o : MysqlOperationGTID) (ma : MysqlApplier) :
    Dispatched conf env (.gtid o) ma (startGTID conf env o ma) := by
  let ma₀ : MysqlApplier := stamped ma
  let force := evaluateForceMergeCommit conf ma₀
  have heq : startGTID conf env o ma =
      (settle env "gtid" force >>= fun _ => onGTID env o >>= fun _ => setState .gtid) ma₀ := rfl
  by_cases hs : ma.state ∈ resting
  · have h := Settled.of_settle env "gtid" force ma₀ hs
    rcases hset : settle env "gtid" force ma₀ with ⟨e | ⟨⟩, ma₁⟩
    · exact .gtidSettle o rfl hs force e ma₁ (hset ▸ h) (by rw [heq, bind_of_error hset])
    · refine .gtid o rfl hs force ma₁ (hset ▸ h) _ (Decided.of_onGTID o ma₁) ?_
      rw [heq, bind_of_ok hset, bind_setState_apply]
  · have hstop := settle_of_notMem env "gtid" force ma₀ hs
    exact .refused hs ma.lastAppliedTimestamp (heq.trans (bind_of_error hstop))

lemma Dispatched.of_nonDML {op : MysqlOperation} (hop : op.isNonDML = true) (ma : MysqlApplier) :
    Dispatched conf env op ma (dispatch conf env op ma) := by
  rw [dispatch_of_isNonDML conf hop]
  by_cases hs : ma.state ∈ allowed op
  · rw [bind_of_ok (expectState_of_mem hs)]
    have h := Merged.of_mergeCommit env ma
    rcases hm : mergeCommit env ma with ⟨e | ⟨⟩, ma₁⟩
    · rw [bind_of_error hm]
      exact .nonDMLMerge hop hs e ma₁ (hm ▸ h) rfl
    · rw [bind_of_ok hm, bind_setState_apply]
      cases hq : nonDMLQuery conf op with
      | none => exact .nonDML hop hs hq ma₁ (hm ▸ h) rfl
      | some q =>
        exact .nonDMLExec hop hs q.1 q.2 hq ma₁ (hm ▸ h) _
          (MysqlClient.ExecutedNonDML.of_executeOnNonDML conf q.1 q.2 ma₁) rfl
  · rw [bind_of_error (expectState_of_notMem hs)]
    exact .refused hs _ rfl

lemma Dispatched.of_begin (o : MysqlOperationBegin) (ma : MysqlApplier) :
    Dispatched conf env (.begin o) ma (startBegin conf env ma) := by
  by_cases hs : ma.state ∈ [State.gtid]
  · have hgtid : ma.state = .gtid := List.mem_singleton.mp hs
    rw [startBegin, bind_of_ok (expectState_of_mem hs)]
    by_cases hp : ma.pendingCommitCount = 0
    · refine .begin o rfl hgtid hp _ (MysqlClient.Began.of_begin conf env ma) ?_
      rw [← bind_setState_apply]
      simp [bind_apply, hp, onBegin]
    · refine .beginMerged o rfl hgtid (Nat.one_le_iff_ne_zero.mpr hp) ?_
      simp [bind_apply, hp, setState]
  · rw [startBegin, bind_of_error (expectState_of_notMem hs)]
    exact .refused hs _ rfl

lemma Dispatched.of_dml {op : MysqlOperation} (hop : op.isDML = true) (ma : MysqlApplier) :
    Dispatched conf env op ma (dispatch conf env op ma) := by
  rw [dispatch_of_isDML conf hop]
  by_cases hs : ma.state ∈ allowed op
  · rw [bind_of_ok (expectState_of_mem hs), bind_setState_apply]
    rcases hq : dmlQuery conf op with e | _ | query
    · exact .dmlStop hop hs e hq rfl
    · exact .dml hop hs hq rfl
    · have hexec := MysqlClient.executeOnDML_apply conf env query ma
      cases htx : ma.tx with
      | false =>
        refine .dmlMissing hop hs query hq htx ?_
        simp only [executeQuery, hexec, htx]
        rfl
      | true =>
        refine .dmlExec hop hs query hq htx _
          (MysqlClient.ExecutedData.of_executeData conf env (.dml query) _ htx) ?_
        simp only [executeQuery, hexec, htx, ↓reduceIte]
  · rw [bind_of_error (expectState_of_notMem hs)]
    exact .refused hs _ rfl

lemma Dispatched.of_xid (o : MysqlOperationXid) (ma : MysqlApplier) :
    Dispatched conf env (.xid o) ma (startXid ma) := by
  by_cases hs : ma.state ∈ [State.dml, .begin]
  · rw [startXid, bind_of_ok (expectState_of_mem hs)]
    exact .xid o rfl hs rfl
  · rw [startXid, bind_of_error (expectState_of_notMem hs)]
    exact .refused hs _ rfl

lemma Dispatched.of_dispatch (op : MysqlOperation) (ma : MysqlApplier) :
    Dispatched conf env op ma (dispatch conf env op ma) := by
  cases op with
  | binLogPos o => exact .binLogPos o rfl rfl
  | heartbeat o => exact .of_heartbeat conf o ma
  | gtid o => exact .of_gtid conf o ma
  | ddlDatabase o => exact .of_nonDML conf rfl ma
  | ddlTable o => exact .of_nonDML conf rfl ma
  | dclUser o => exact .of_nonDML conf rfl ma
  | begin o => exact .of_begin conf o ma
  | dmlInsert o => exact .of_dml conf rfl ma
  | dmlDelete o => exact .of_dml conf rfl ma
  | dmlUpdate o => exact .of_dml conf rfl ma
  | xid o => exact .of_xid conf o ma

/-! ### The turn -/

/-- The applier as its type switch sees it: a GTID that ends a skipped group starts from the
state `null`. -/
def takes (op : MysqlOperation) (ma : MysqlApplier) : MysqlApplier :=
  { ma with state := if ma.gtidSkip then .null else ma.state }.emit [.receive op]

lemma takes_state {op : MysqlOperation} {ma : MysqlApplier} (hskip : ma.gtidSkip = false) :
    (takes op ma).state = ma.state := by
  simp [takes, emit, hskip]

/-- The end of a turn: the timestamp is taken over unless the case continued the loop. -/
def finish (op : MysqlOperation) (x : Ending) : Ending :=
  match x with
  | (.ok (), ma) =>
    (.ok (), if continues op then ma else { ma with lastAppliedTimestamp := op.getTimestamp })
  | (.error e, ma) => (.error e, ma)

/-- While a group is skipped, everything but a GTID is received and dropped. -/
lemma start_of_skip {op : MysqlOperation} {ma : MysqlApplier} (hskip : ma.gtidSkip = true)
    (hop : op.isGTID = false) : start conf env op ma = (.ok (), ma.emit [.receive op]) := by
  simp [start, bind_apply, emit, hskip, hop]

lemma start_of_takes {op : MysqlOperation} {ma : MysqlApplier}
    (h : ma.gtidSkip = false ∨ op.isGTID = true) :
    start conf env op ma = finish op (dispatch conf env op (takes op ma)) := by
  have hnot : (ma.gtidSkip && !op.isGTID) = false := by
    rcases h with h | h <;> simp [h]
  have hstart : start conf env op ma = (dispatch conf env op >>= fun _ =>
      if continues op then pure () else
        modify fun ma => { ma with lastAppliedTimestamp := op.getTimestamp }) (takes op ma) := by
    cases hskip : ma.gtidSkip <;>
      simp_all [start, bind_apply, emit, takes, setState]
  rw [hstart, bind_apply]
  rcases dispatch conf env op (takes op ma) with ⟨_ | ⟨⟩, ma₁⟩
  · rfl
  · simp only [finish]
    split_ifs <;> rfl

lemma start_gtid_eq (o : MysqlOperationGTID) (ma : MysqlApplier) :
    start conf env (.gtid o) ma = finish (.gtid o)
      ((settle env "gtid" (evaluateForceMergeCommit conf (stamped (takes (.gtid o) ma))) >>=
        fun _ => onGTID env o >>= fun _ => setState .gtid) (stamped (takes (.gtid o) ma))) :=
  start_of_takes conf (.inr rfl)

/-- The delay is counted from the timestamp taken over just before, so that only a full batch is
forced out. -/
lemma evaluateForceMergeCommit_stamped (ma : MysqlApplier) :
    evaluateForceMergeCommit conf (stamped ma) = true ↔
      1 ≤ conf.mergeCommitMaxCount ∧ conf.mergeCommitMaxCount ≤ ma.pendingCommitCount := by
  have hdelay : ¬ (1 ≤ conf.mergeCommitMaxDelay ∧ conf.mergeCommitMaxDelay ≤ 0) := by
    intro hd
    have hd₁ := UInt32.le_iff_toNat_le.mp hd.1
    have hd₀ := UInt32.le_iff_toNat_le.mp hd.2
    simp at hd₀ hd₁
    omega
  simp only [evaluateForceMergeCommit, stamped, UInt32.sub_self]
  simp_all

variable (env) in
/-- The ways the turn of a GTID can end. -/
inductive TurnGTID (o : MysqlOperationGTID) (ma : MysqlApplier) (x : Ending) : Prop where
  | refused (hs : (takes (.gtid o) ma).state ∉ resting) (e : Stop)
      (result : x = (.error e, stamped (takes (.gtid o) ma)))
  | settle (hs : (takes (.gtid o) ma).state ∈ resting) (e : Stop) (ma₁ : MysqlApplier)
      (h : Settled env (evaluateForceMergeCommit conf (stamped (takes (.gtid o) ma)))
        (stamped (takes (.gtid o) ma)) (.error e, ma₁))
      (result : x = (.error e, ma₁))
  | decided (hs : (takes (.gtid o) ma).state ∈ resting) (ma₁ : MysqlApplier)
      (h : Settled env (evaluateForceMergeCommit conf (stamped (takes (.gtid o) ma)))
        (stamped (takes (.gtid o) ma)) (.ok (), ma₁))
      (x₂ : Ending) (h₂ : onGTID env o ma₁ = x₂)
      (result : x = finish (.gtid o) (thenState x₂ .gtid))

variable (env) in
lemma TurnGTID.of_start (o : MysqlOperationGTID) (ma : MysqlApplier) :
    TurnGTID conf env o ma (start conf env (.gtid o) ma) := by
  rw [start_gtid_eq]
  by_cases hs : (takes (.gtid o) ma).state ∈ resting
  · have h := Settled.of_settle env "gtid"
      (evaluateForceMergeCommit conf (stamped (takes (.gtid o) ma)))
      (stamped (takes (.gtid o) ma)) hs
    rcases hset : MysqlApplier.settle env "gtid"
      (evaluateForceMergeCommit conf (stamped (takes (.gtid o) ma)))
      (stamped (takes (.gtid o) ma)) with ⟨e | ⟨⟩, ma₁⟩
    · exact .settle hs e ma₁ (hset ▸ h) (by rw [bind_of_error hset]; rfl)
    · refine .decided hs ma₁ (hset ▸ h) _ rfl ?_
      rw [bind_of_ok hset, bind_setState_apply]
  · have hstop := settle_of_notMem env "gtid"
      (evaluateForceMergeCommit conf (stamped (takes (.gtid o) ma))) (stamped (takes (.gtid o) ma))
      hs
    exact .refused hs _ (by rw [bind_of_error hstop]; rfl)

variable (env) in
/-- The ways a turn can end. -/
inductive Turn (op : MysqlOperation) (ma : MysqlApplier) (x : Ending) : Prop where
  | skipped (hskip : ma.gtidSkip = true) (hop : op.isGTID = false)
      (result : x = (.ok (), ma.emit [.receive op]))
  | taken (hnot : op.isGTID = false → ma.gtidSkip = false) (x₁ : Ending)
      (h : Dispatched conf env op (takes op ma) x₁) (result : x = finish op x₁)

variable (env) in
theorem Turn.of_start (op : MysqlOperation) (ma : MysqlApplier) :
    Turn conf env op ma (start conf env op ma) := by
  by_cases h : ma.gtidSkip = true ∧ op.isGTID = false
  · exact .skipped h.1 h.2 (start_of_skip conf h.1 h.2)
  · have htakes : ma.gtidSkip = false ∨ op.isGTID = true := by
      cases hskip : ma.gtidSkip <;> simp_all
    refine .taken (fun hgtid => ?_) _ (Dispatched.of_dispatch conf op (takes op ma))
      (start_of_takes conf htakes)
    simpa [hgtid] using htakes

lemma finish_eq_ok {op : MysqlOperation} {x : Ending} {ma' : MysqlApplier}
    (h : (.ok (), ma') = finish op x) :
    ∃ ma, x = (.ok (), ma) ∧ ma' = (finish op (.ok (), ma)).2 := by
  rcases x with ⟨e | ⟨⟩, ma⟩
  · simp [finish] at h
  · exact ⟨ma, rfl, (Prod.mk.inj h).2⟩

lemma finish_eq_error {op : MysqlOperation} {x : Ending} {e : Stop} {ma' : MysqlApplier}
    (h : (.error e, ma') = finish op x) : x = (.error e, ma') := by
  rcases x with ⟨e | ⟨⟩, ma⟩
  · exact h.symm
  · simp [finish] at h

/-- The end of a turn touches nothing but a timestamp. -/
lemma exists_finish_eq (op : MysqlOperation) (x : Ending) :
    ∃ ts, finish op x = (x.1, { x.2 with lastAppliedTimestamp := ts }) := by
  rcases x with ⟨e | ⟨⟩, ma⟩
  · exact ⟨ma.lastAppliedTimestamp, rfl⟩
  · by_cases h : continues op = true
    · exact ⟨ma.lastAppliedTimestamp, by simp [finish, h]⟩
    · exact ⟨op.getTimestamp, by simp [finish, h]⟩

lemma finish_frame (op : MysqlOperation) (x : Ending) :
    (finish op x).2.ckpt = x.2.ckpt ∧ (finish op x).2.gtidSkip = x.2.gtidSkip ∧
      (finish op x).1 = x.1 := by
  obtain ⟨ts, heq⟩ := exists_finish_eq op x
  rw [heq]
  exact ⟨rfl, rfl, rfl⟩

lemma finish_state (op : MysqlOperation) (x : Ending) : (finish op x).2.state = x.2.state := by
  obtain ⟨ts, heq⟩ := exists_finish_eq op x
  rw [heq]

end MysqlApplier

end MysqlSync
