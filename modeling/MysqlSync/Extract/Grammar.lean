import MysqlSync.Extract.Sends
import MysqlSync.Applier.Gtid
import MysqlSync.Applier.Table

/-!
# The grammar between the extractor and the applier

The operations a transaction of the binlog is turned into, read by the applier's state table.
`Agreed` says that an applier at rest gets through them and is at rest again; for the operations
of one transaction it comes down to the table alone (`agreed_iff_tableAfter`). Which transactions
the table closes is then a matter of their statements: a `COMMIT` query and the statements
without a case of their own send nothing, and leave the applier in the middle of a group.
-/

namespace MysqlSync

open MysqlApplier

/-! ### Transactions of the binlog -/

/-- What ends a transaction with rows. -/
inductive Terminator where
  | xid (header : EventHeader)
  | commit (header : EventHeader) (query : QueryEvent)
  deriving DecidableEq, Repr

inductive BinlogTransaction where
  | statement (gtidHeader : EventHeader) (gtid : GTIDEvent) (header : EventHeader)
      (query : QueryEvent)
  | rows (gtidHeader : EventHeader) (gtid : GTIDEvent) (beginHeader : EventHeader)
      (beginQuery : QueryEvent) (changes : List (EventHeader × RowsEventType × RowsEvent))
      (terminator : Terminator)
  deriving DecidableEq, Repr

def Terminator.event : Terminator → BinlogEvent
  | .xid header => ⟨header, .xid⟩
  | .commit header query => ⟨header, .query query⟩

def rowsEvent (row : EventHeader × RowsEventType × RowsEvent) : BinlogEvent :=
  ⟨row.1, .rows row.2.1 row.2.2⟩

namespace BinlogTransaction

variable (parse : String → Option (List StmtNode))

def events : BinlogTransaction → List BinlogEvent
  | .statement gtidHeader gtid header query => [⟨gtidHeader, .gtid gtid⟩, ⟨header, .query query⟩]
  | .rows gtidHeader gtid beginHeader beginQuery changes terminator =>
    ⟨gtidHeader, .gtid gtid⟩ :: ⟨beginHeader, .query beginQuery⟩ ::
      (changes.map rowsEvent ++ [terminator.event])

/-- The queries around the rows are a `BEGIN` and, unless an XID event ends them, a `COMMIT`. -/
def WellFormed : BinlogTransaction → Prop
  | .statement _ _ _ _ => True
  | .rows _ _ _ beginQuery _ (.xid _) => parse beginQuery.query = some [.begin]
  | .rows _ _ _ beginQuery _ (.commit _ query) =>
    parse beginQuery.query = some [.begin] ∧ parse query.query = some [.commit]

end BinlogTransaction

/-! ### What it takes to agree -/

/-- An operation that is to find the applier at rest. -/
def MysqlOperation.betweenGroups : MysqlOperation → Bool
  | .gtid _ | .heartbeat _ => true
  | _ => false

/-- Every applier at rest that does not skip the group gets through these operations and the next
GTID or heartbeat without a `last state is ...` error, and is at rest after them. -/
def Agreed (opers : List MysqlOperation) : Prop :=
  ∀ (conf : Settings) (env : Env) (ma : MysqlApplier), ma.state ∈ resting →
    (∀ o, .gtid o ∈ opers → ¬ ma.ckpt.gtidSetsMap.Covers o.serverUUID o.trxID.toUInt64) →
    (∀ next, next.betweenGroups = true → ∀ e ma',
      MysqlApplier.run conf env (opers ++ [next]) ma = (.error e, ma') → e.isLastState = false) ∧
    (∀ ma', MysqlApplier.run conf env opers ma = (.ok (), ma') → ma'.state ∈ resting)

section

variable {conf : Settings} {env : Env} {ma : MysqlApplier} {s : State}
  {as bs : List MysqlOperation}

lemma tableAfter_append (s : State) (as bs : List MysqlOperation) :
    tableAfter s (as ++ bs) = (tableAfter s as).bind (tableAfter · bs) :=
  List.foldlM_append

lemma tableAfter_cons (s : State) (op : MysqlOperation) (as : List MysqlOperation) :
    tableAfter s (op :: as) = (tableNext s op).bind (tableAfter · as) :=
  List.foldlM_cons

@[simp] lemma tableNext_binLogPos (s : State) (o : MysqlOperationBinLogPos) :
    tableNext s (.binLogPos o) = some s := by
  cases s <;> rfl

lemma tableNext_betweenGroups (op : MysqlOperation) (h : op.betweenGroups = true) (s : State) :
    (tableNext s op).isSome = true ↔ s ∈ resting := by
  have hallowed : allowed op = resting := by
    cases op <;> simp_all [MysqlOperation.betweenGroups, allowed]
  rw [tableNext, hallowed]
  split_ifs with hs <;> simp [hs]

variable (conf env) in
/-- A position operation leaves an applier at rest as it is, as far as the table goes. -/
lemma start_binLogPos (o : MysqlOperationBinLogPos) (hs : ma.state ∈ resting) :
    ∃ ma₁, MysqlApplier.start conf env (.binLogPos o) ma = (.ok (), ma₁) ∧
      ma₁.state ∈ resting ∧ ma₁.ckpt.gtidSetsMap = ma.ckpt.gtidSetsMap := by
  cases hskip : ma.gtidSkip with
  | true => exact ⟨_, start_of_skip conf hskip rfl, hs, rfl⟩
  | false =>
    refine ⟨_, start_of_takes conf (.inl hskip), ?_, rfl⟩
    have hstate : (takes (.binLogPos o) ma).state ∈ resting := by rwa [takes_state hskip]
    exact hstate

variable (conf env) in
/-- A GTID that is not covered opens a group, or stops the applier for another reason. -/
lemma start_gtid {o : MysqlOperationGTID} (hs : ma.state ∈ resting)
    (hcov : ¬ ma.ckpt.gtidSetsMap.Covers o.serverUUID o.trxID.toUInt64) :
    (∀ e ma', MysqlApplier.start conf env (.gtid o) ma = (.error e, ma') →
      e.isLastState = false) ∧
    (∀ ma', MysqlApplier.start conf env (.gtid o) ma = (.ok (), ma') →
      ma'.state = .gtid ∧ ma'.gtidSkip = false) := by
  have hstated := stated_start conf env (.gtid o) ma
  have hacc := accounted_start conf env (.gtid o) ma
  constructor
  · intro e ma' hstart
    rw [hstart] at hstated
    cases hstated with
    | skipped hskip hop hok hskip' => simp at hok
    | refused hskip hs' herr => exact absurd hs hs'
    | went hs' hnot hok hstate hsk => simp at hok
    | stopped hs' e' herr hne =>
      cases herr
      exact hne
  · intro ma' hstart
    rw [hstart] at hstated hacc
    constructor
    · cases hstated with
      | skipped hskip hop hok hskip' => simp [MysqlOperation.isGTID] at hop
      | refused hskip hs' herr => simp at herr
      | went hs' hnot hok hstate hsk => exact hstate
      | stopped hs' e herr hne => simp at herr
    · cases hacc with
      | other hop hk => simp [MysqlOperation.isGTID] at hop
      | skipped o' hop hcov' =>
        cases hop
        exact absurd hcov' hcov
      | accepted o' hop hcont hok hskip hmap => exact hskip
      | missed o' hop last hlast hlt hgap herr hmap => simp at herr
      | stopped o' hop e herr hk => simp at herr

/-- A destination on which the filter suppresses everything: no name has the form of an entry. -/
def Settings.suppressing : Settings :=
  { Settings.unrestricted with replicate := newReplicateFilter ⟨"", "", "none", ""⟩ }

lemma replicateNotExecute_suppressing (db tab : String) :
    replicateNotExecute Settings.suppressing db tab = true := by
  have hne : ("none" == db ++ "." ++ tab) = false := by
    rw [beq_eq_false_iff_ne]
    intro heq
    have hdot : '.' ∈ (db ++ "." ++ tab).toList := by simp
    rw [← heq] at hdot
    revert hdot
    decide
  have hdo : Settings.suppressing.replicate.doTabs = ["none"] := by decide
  have htrim : Strings.trimSpace "none" = "none" := by decide
  have hfilter : Settings.suppressing.replicate.filter db tab = false := by
    rw [← Bool.not_eq_true, Replicate.filter_eq_true_iff, hdo]
    simp [contains, htrim, hne]
  rw [replicateNotExecute, hfilter]
  rfl

lemma statement_suppressing (op : MysqlOperation) :
    ∃ st, MysqlApplier.statement Settings.suppressing op = .ok st := by
  refine ⟨none, ?_⟩
  cases op <;>
    simp [MysqlApplier.statement, nonDMLQuery, dmlQuery, replicateNotExecute_suppressing]

/-- What follows an operation the table allows does not find the applier in the wrong state. -/
lemma start_error_of_mem_allowed {op : MysqlOperation} {e : Stop} {ma' : MysqlApplier}
    (hs : ma.state ∈ allowed op) (h : MysqlApplier.start conf env op ma = (.error e, ma')) :
    e.isLastState = false := by
  have hstated := stated_start conf env op ma
  rw [h] at hstated
  cases hstated with
  | skipped hskip hop hok hskip' => simp at hok
  | refused hskip hs' herr => exact absurd hs hs'
  | went hs' hnot hok hstate hsk => simp at hok
  | stopped hs' e' herr hne =>
    cases herr
    exact hne

/-- A group the table closes is agreed on. -/
lemma agreed_of_tableAfter {p : MysqlOperationBinLogPos} {o : MysqlOperationGTID}
    (has : ∀ op ∈ as, op.isGTID = false) (hs : s ∈ resting)
    (htable : tableAfter .gtid as = some s) : Agreed (.binLogPos p :: .gtid o :: as) := by
  intro conf env ma hma hcov
  obtain ⟨ma₁, hpos, hma₁, hmap⟩ := start_binLogPos conf env p hma
  have hcov₁ : ¬ ma₁.ckpt.gtidSetsMap.Covers o.serverUUID o.trxID.toUInt64 := by
    rw [hmap]
    exact hcov o (by simp)
  obtain ⟨hgtidErr, hgtidOk⟩ := start_gtid conf env hma₁ hcov₁
  have hrun (l : List MysqlOperation) :
      MysqlApplier.run conf env (.binLogPos p :: .gtid o :: l) ma =
        MysqlApplier.run conf env (.gtid o :: l) ma₁ := by
    rw [MysqlApplier.run, Prog.forEach_cons, Prog.bind_of_ok hpos]
    rfl
  rcases hgtid : MysqlApplier.start conf env (.gtid o) ma₁ with ⟨e | ⟨⟩, ma₂⟩
  · -- the applier stops at the GTID, but not for its state
    have hstop (l : List MysqlOperation) :
        MysqlApplier.run conf env (.binLogPos p :: .gtid o :: l) ma = (.error e, ma₂) := by
      rw [hrun, MysqlApplier.run, Prog.forEach_cons, Prog.bind_of_error hgtid]
    refine ⟨fun next _ e' ma' h => ?_, fun ma' h => ?_⟩
    · rw [List.cons_append, List.cons_append, hstop] at h
      cases h
      exact hgtidErr e ma₂ hgtid
    · rw [hstop] at h
      simp at h
  · obtain ⟨hstate₂, hskip₂⟩ := hgtidOk ma₂ hgtid
    have hgo (l : List MysqlOperation) :
        MysqlApplier.run conf env (.binLogPos p :: .gtid o :: l) ma =
          MysqlApplier.run conf env l ma₂ := by
      rw [hrun, MysqlApplier.run, Prog.forEach_cons, Prog.bind_of_ok hgtid]
      rfl
    obtain ⟨hbodyErr, hbodyOk⟩ := run_of_tableAfter conf env has hskip₂
      (by rw [hstate₂]; exact htable)
    refine ⟨fun next hnext e ma' h => ?_, fun ma' h => ?_⟩
    · rw [List.cons_append, List.cons_append, hgo] at h
      rcases hbody : MysqlApplier.run conf env as ma₂ with ⟨e' | ⟨⟩, ma₃⟩
      · rw [MysqlApplier.run, Prog.forEach_append_of_error hbody] at h
        cases h
        exact hbodyErr _ _ hbody
      · rw [MysqlApplier.run, Prog.forEach_concat_of_ok hbody] at h
        refine start_error_of_mem_allowed ?_ h
        rw [(hbodyOk ma₃ hbody).1]
        cases next <;> simp_all [MysqlOperation.betweenGroups, allowed]
    · rw [hgo] at h
      rw [(hbodyOk ma' h).1]
      exact hs

/-- The stream that shows that a group is not closed: nothing is skipped and nothing is missed. -/
lemma plain_skip_of_group {p : MysqlOperationBinLogPos} {o : MysqlOperationGTID}
    (has : ∀ op ∈ as, op.isGTID = false) (k : ℕ) :
    (plain conf ∅ ((.binLogPos p :: .gtid o :: as).take k)).skip = false := by
  rcases k with _ | _ | k
  · rfl
  · rfl
  · have hstart : (plain conf ∅ ((.binLogPos p :: .gtid o :: as).take 2)).skip = false := by
      have hcov : ¬ GtidSetsMap.Covers ∅ o.serverUUID o.trxID.toUInt64 := by
        rintro ⟨last, hlast, -⟩
        simp at hlast
      have htake : (.binLogPos p :: .gtid o :: as).take 2 = [.binLogPos p] ++ [.gtid o] := rfl
      rw [htake, plain_concat, Plain.step_of_not_covers _ hcov]
    rw [plain_skip_eq (Nat.le_add_left 2 k), hstart]
    intro l op hl _ hop
    obtain ⟨l, rfl⟩ := Nat.exists_eq_add_of_le' hl
    exact has op (List.mem_of_getElem? hop)

lemma not_misses_of_group {p : MysqlOperationBinLogPos} {o o' : MysqlOperationGTID}
    (has : ∀ op ∈ as, op.isGTID = false)
    (hbs : bs ++ [.gtid o'] <+: .binLogPos p :: .gtid o :: as)
    (hrun : MysqlApplier.run conf env bs (newMysqlApplier ⟨∅, "", 0⟩) = (.ok (), ma)) :
    ¬ Misses ma.ckpt.gtidSetsMap o' := by
  have hpre : bs <+: .binLogPos p :: .gtid o :: as := (List.prefix_append bs _).trans hbs
  have hmap := (tracks_run hpre hrun).gtidSetsMap
  have hget := Prog.getElem?_of_concat_isPrefix hbs
  rintro ⟨last, hlast, -⟩
  rw [← hmap] at hlast
  -- the only GTID of the group is its second operation, which finds the map empty
  rcases bs with _ | ⟨b, _ | ⟨b', bs⟩⟩
  · simp at hget
  · have hplain : (plain conf ∅ ((.binLogPos p :: .gtid o :: as).take 1)).gtidSetsMap = ∅ := by
      have htake : (.binLogPos p :: .gtid o :: as).take 1 = [] ++ [.binLogPos p] := rfl
      rw [htake, plain_concat, Plain.step_gtidSetsMap rfl]
      rfl
    rw [List.length_singleton, hplain] at hlast
    simp at hlast
  · have hgtid := has (.gtid o') (List.mem_of_getElem? (by simpa using hget))
    simp [MysqlOperation.isGTID] at hgtid

/-- For the operations of one transaction, agreeing is a matter of the table. -/
theorem agreed_iff_tableAfter {p : MysqlOperationBinLogPos} {o : MysqlOperationGTID}
    (has : ∀ op ∈ as, op.isGTID = false) :
    Agreed (.binLogPos p :: .gtid o :: as) ↔ ∃ s ∈ resting, tableAfter .gtid as = some s := by
  constructor
  · intro hagreed
    by_contra hnone
    -- a new applier that suppresses every statement, on the group and a heartbeat
    obtain ⟨hstop, -⟩ := hagreed Settings.suppressing (fun _ _ => .ok) (newMysqlApplier ⟨∅, "", 0⟩)
      (by simp [newMysqlApplier, resting]) (fun _ _ ⟨last, hlast, _⟩ => by
        simp [newMysqlApplier] at hlast)
    have hops : ∀ op ∈ as ++ [.heartbeat ⟨0⟩], op.isGTID = false := by
      intro op hop
      rcases List.mem_append.mp hop with hop | hop
      · exact has op hop
      · rw [List.mem_singleton.mp hop]
        rfl
    have hnot : ¬ Regular (.binLogPos p :: .gtid o :: (as ++ [.heartbeat ⟨0⟩])) := by
      rw [Regular, tableAfter_cons, tableNext_binLogPos, Option.bind_some, tableAfter_cons]
      have hgtid : tableNext .null (.gtid o) = some .gtid := rfl
      rw [hgtid, Option.bind_some, tableAfter_concat]
      rintro hsome
      obtain ⟨s', hs'⟩ := Option.isSome_iff_exists.mp hsome
      obtain ⟨s, hs, hnext⟩ := Option.bind_eq_some_iff.mp hs'
      refine hnone ⟨s, ?_, hs⟩
      exact (tableNext_betweenGroups (.heartbeat ⟨0⟩) rfl s).mp (by rw [hnext]; rfl)
    obtain ⟨e, ma, hrun, he⟩ := exists_lastState_of_not_regular Settings.suppressing
      (fun _ _ => .ok) ⟨∅, "", 0⟩ hnot (fun _ _ _ => rfl)
      (fun op _ => statement_suppressing op)
      (fun bs o' ma hbs hrun => not_misses_of_group hops hbs hrun)
      (fun bs ma hbs hrun => by
        rw [← (tracks_run hbs hrun).skip]
        exact plain_skip_of_group hops _)
    have hfalse := hstop (.heartbeat ⟨0⟩) rfl e ma hrun
    exact absurd (he.symm.trans hfalse) (by simp)
  · rintro ⟨s, hs, htable⟩
    exact agreed_of_tableAfter has hs htable

end

/-! ### Statements -/

/-- What the case of a statement node sends, by its kind. -/
inductive StmtKind where
  | silent
  | table
  | database
  | user
  | begin
  deriving DecidableEq, Repr

def StmtNode.kind : StmtNode → StmtKind
  | .renameTable [] | .dropTable [] => .silent
  | .renameTable (_ :: _) | .dropTable (_ :: _) => .table
  | .alterTable _ _ | .createTable _ | .truncateTable _ | .dropIndex _ | .createIndex _ => .table
  | .createDatabase _ | .alterDatabase _ | .dropDatabase _ => .database
  | .createUser | .dropUser | .grant | .revoke | .alterUser => .user
  | .begin => .begin
  | .commit | .other => .silent

/-- The table on kinds of statements. -/
def kindNext (s : State) : StmtKind → Option State
  | .silent => some s
  | .table => if s = .gtid ∨ s = .ddl then some .ddl else none
  | .database => if s = .gtid then some .ddl else none
  | .user => if s = .gtid ∨ s = .dcl then some .dcl else none
  | .begin => if s = .gtid then some .begin else none

/-- The kinds of the statements that send something. -/
def spoken (stmts : List StmtNode) : List StmtKind :=
  (stmts.map StmtNode.kind).filter (· ≠ .silent)

/-- At least one statement sends something, and those that do are table and database statements,
a database statement only in the first place, or they are all user statements. -/
def ClosesGroup : List StmtKind → Prop
  | [] => False
  | k :: ks => ((k = .table ∨ k = .database) ∧ ∀ k' ∈ ks, k' = .table) ∨
      (k = .user ∧ ∀ k' ∈ ks, k' = .user)

instance : DecidablePred ClosesGroup
  | [] => inferInstanceAs (Decidable False)
  | _ :: _ => inferInstanceAs (Decidable (_ ∨ _))

section

variable (e : QueryEvent) (eh : EventHeader)

lemma tableAfter_ddlTables {α : Type} (f : α → MysqlOperationDDLTable) (a : α) (as : List α)
    (s : State) : tableAfter s ((a :: as).map fun a => .ddlTable (f a)) = kindNext s .table := by
  induction as generalizing a s with
  | nil => cases s <;> rfl
  | cons b as ih =>
    rw [List.map_cons, tableAfter_cons]
    cases s <;> first | rfl | exact ih b .ddl

/-- The operations of a statement take the table where its kind says. -/
lemma tableAfter_stmtOperations (stmt : StmtNode) (s : State) :
    tableAfter s (BinlogExtract.stmtOperations e eh stmt) = kindNext s stmt.kind := by
  cases stmt with
  | renameTable l =>
    cases l with
    | nil => rfl
    | cons tab l => exact tableAfter_ddlTables _ tab l s
  | dropTable l =>
    cases l with
    | nil => rfl
    | cons tab l => exact tableAfter_ddlTables _ tab l s
  | _ => cases s <;> rfl

lemma tableAfter_stmts (stmts : List StmtNode) (s : State) :
    tableAfter s (stmts.flatMap (BinlogExtract.stmtOperations e eh)) =
      (spoken stmts).foldlM kindNext s := by
  induction stmts generalizing s with
  | nil => rfl
  | cons stmt stmts ih =>
    rw [List.flatMap_cons, tableAfter_append, tableAfter_stmtOperations]
    by_cases hsilent : stmt.kind = .silent
    · have hspoken : spoken (stmt :: stmts) = spoken stmts := by simp [spoken, hsilent]
      rw [hsilent, hspoken]
      exact ih s
    · have hspoken : spoken (stmt :: stmts) = stmt.kind :: spoken stmts := by
        simp [spoken, hsilent]
      rw [hspoken, List.foldlM_cons]
      cases kindNext s stmt.kind with
      | none => rfl
      | some s' => exact ih s'

lemma isGTID_of_mem_stmtOperations {stmt : StmtNode} {op : MysqlOperation}
    (h : op ∈ BinlogExtract.stmtOperations e eh stmt) : op.isGTID = false := by
  cases stmt with
  | renameTable l | dropTable l =>
    obtain ⟨tab, -, rfl⟩ := List.mem_map.mp h
    rfl
  | commit | other => simp [BinlogExtract.stmtOperations] at h
  | _ =>
    rw [List.mem_singleton.mp h]
    rfl

end

lemma silent_notMem_spoken (stmts : List StmtNode) : StmtKind.silent ∉ spoken stmts := by
  simp [spoken]

/-- After a table or database statement only table statements go on. -/
lemma foldlM_kindNext_ddl {ks : List StmtKind} (hks : StmtKind.silent ∉ ks) {s : State} :
    ks.foldlM kindNext .ddl = some s ↔ s = .ddl ∧ ∀ k ∈ ks, k = .table := by
  induction ks with
  | nil => simp [eq_comm]
  | cons k ks ih =>
    have hks' : StmtKind.silent ∉ ks := fun h => hks (List.mem_cons_of_mem _ h)
    rw [List.foldlM_cons]
    cases k with
    | silent => exact absurd List.mem_cons_self hks
    | table => simpa [kindNext] using ih hks'
    | database | user | begin => simp [kindNext]

lemma foldlM_kindNext_dcl {ks : List StmtKind} (hks : StmtKind.silent ∉ ks) {s : State} :
    ks.foldlM kindNext .dcl = some s ↔ s = .dcl ∧ ∀ k ∈ ks, k = .user := by
  induction ks with
  | nil => simp [eq_comm]
  | cons k ks ih =>
    have hks' : StmtKind.silent ∉ ks := fun h => hks (List.mem_cons_of_mem _ h)
    rw [List.foldlM_cons]
    cases k with
    | silent => exact absurd List.mem_cons_self hks
    | user => simpa [kindNext] using ih hks'
    | database | table | begin => simp [kindNext]

/-- After a `BEGIN` no statement goes on. -/
lemma foldlM_kindNext_begin {ks : List StmtKind} (hks : StmtKind.silent ∉ ks) {s : State} :
    ks.foldlM kindNext .begin = some s ↔ s = .begin ∧ ks = [] := by
  cases ks with
  | nil => simp [eq_comm]
  | cons k ks =>
    cases k with
    | silent => exact absurd List.mem_cons_self hks
    | user | database | table | begin => simp [kindNext]

/-- The statements that bring the table from a GTID back to rest. -/
lemma closesGroup_iff {ks : List StmtKind} (hks : StmtKind.silent ∉ ks) :
    (∃ s ∈ resting, ks.foldlM kindNext .gtid = some s) ↔ ClosesGroup ks := by
  cases ks with
  | nil => simp [resting, ClosesGroup]
  | cons k ks =>
    have hks' : StmtKind.silent ∉ ks := fun h => hks (List.mem_cons_of_mem _ h)
    rw [List.foldlM_cons, ClosesGroup]
    cases k with
    | silent => exact absurd List.mem_cons_self hks
    | table | database => simp [kindNext, foldlM_kindNext_ddl hks', resting]
    | user => simp [kindNext, foldlM_kindNext_dcl hks', resting]
    | begin => simp [kindNext, foldlM_kindNext_begin hks', resting]

/-! ### Rows -/

/-- What the row events of a transaction send. -/
def MysqlOperation.inRows : MysqlOperation → Bool
  | .binLogPos _ | .dmlInsert _ | .dmlDelete _ | .dmlUpdate _ => true
  | _ => false

section

variable {table : TableMapEvent} {eh : EventHeader} {op : MysqlOperation}
  {ops : List MysqlOperation}

lemma isGTID_of_inRows (h : op.inRows = true) : op.isGTID = false := by
  cases op <;> simp_all [MysqlOperation.inRows, MysqlOperation.isGTID]

/-- Row changes keep the table inside the transaction. -/
lemma tableAfter_inRows (hops : ∀ op ∈ ops, op.inRows = true) {s : State}
    (hs : s ∈ [State.begin, .dml]) :
    ∃ s' ∈ [State.begin, .dml], tableAfter s ops = some s' := by
  induction ops generalizing s with
  | nil => exact ⟨s, hs, rfl⟩
  | cons op ops ih =>
    have hop := hops op List.mem_cons_self
    have hnext : ∃ s₁ ∈ [State.begin, .dml], tableNext s op = some s₁ := by
      cases op with
      | binLogPos o => exact ⟨s, hs, tableNext_binLogPos s o⟩
      | dmlInsert o | dmlDelete o | dmlUpdate o => exact ⟨.dml, by simp, if_pos hs⟩
      | _ => simp [MysqlOperation.inRows] at hop
    obtain ⟨s₁, hs₁, hnext⟩ := hnext
    obtain ⟨s', hs', hrest⟩ := ih (fun op hop => hops op (List.mem_cons_of_mem _ hop)) hs₁
    refine ⟨s', hs', ?_⟩
    rw [tableAfter_cons, hnext, Option.bind_some, hrest]

lemma forall_mem_of_mapM {α : Type} {g : α → Option MysqlOperation} {P : MysqlOperation → Prop}
    (hg : ∀ a op, g a = some op → P op) {as : List α} (h : as.mapM g = some ops) :
    ∀ op ∈ ops, P op := by
  induction as generalizing ops with
  | nil =>
    cases h
    simp
  | cons a as ih =>
    rw [List.mapM_cons] at h
    obtain ⟨op, hop, h⟩ := Option.bind_eq_some_iff.mp h
    obtain ⟨ops', hops', h⟩ := Option.bind_eq_some_iff.mp h
    cases h
    exact List.forall_mem_cons.mpr ⟨hg a op hop, ih hops'⟩

lemma inRows_updateOperations {rows : List (List Value)}
    (h : BinlogExtract.updateOperations table eh rows = some ops) :
    ∀ op ∈ ops, op.inRows = true := by
  induction rows using BinlogExtract.updateOperations.induct generalizing ops with
  | case1 =>
    cases h
    simp
  | case2 row => simp [BinlogExtract.updateOperations] at h
  | case3 before after rows ih =>
    rw [BinlogExtract.updateOperations] at h
    obtain ⟨op, hop, h⟩ := Option.bind_eq_some_iff.mp h
    obtain ⟨ops', hops', rfl⟩ := Option.map_eq_some_iff.mp h
    obtain ⟨beforeColumns, -, hop⟩ := Option.bind_eq_some_iff.mp hop
    obtain ⟨afterColumns, -, rfl⟩ := Option.map_eq_some_iff.mp hop
    exact List.forall_mem_cons.mpr ⟨rfl, ih hops'⟩

lemma inRows_rowsOperations {type : RowsEventType} {e : RowsEvent}
    (h : BinlogExtract.rowsOperations type e eh = some ops) : ∀ op ∈ ops, op.inRows = true := by
  cases type with
  | write =>
    refine forall_mem_of_mapM (fun row op hop => ?_) h
    obtain ⟨columns, -, rfl⟩ := Option.map_eq_some_iff.mp hop
    rfl
  | update => exact inRows_updateOperations h
  | delete =>
    refine forall_mem_of_mapM (fun row op hop => ?_) h
    obtain ⟨columns, -, rfl⟩ := Option.map_eq_some_iff.mp hop
    rfl
  | other =>
    cases h
    simp

end

/-! ### Whole transactions -/

namespace BinlogTransaction

/-- The transactions whose operations bring the applier back to rest. -/
def Closes (parse : String → Option (List StmtNode)) : BinlogTransaction → Prop
  | .statement _ _ _ query => ∃ stmts, parse query.query = some stmts ∧ ClosesGroup (spoken stmts)
  | .rows _ _ _ _ _ (.xid _) => True
  | .rows _ _ _ _ _ (.commit _ _) => False

end BinlogTransaction

section

open BinlogExtract

variable {parse : String → Option (List StmtNode)} {file : String} {ops : List MysqlOperation}

lemma sentByAll_cons_eq_some {α : Type} {g : α → Option (List MysqlOperation)} {a : α}
    {as : List α} (h : sentByAll g (a :: as) = some ops) :
    ∃ ops₁ ops₂, g a = some ops₁ ∧ sentByAll g as = some ops₂ ∧ ops = ops₁ ++ ops₂ := by
  rw [sentByAll] at h
  obtain ⟨ops₁, h₁, h⟩ := Option.bind_eq_some_iff.mp h
  obtain ⟨ops₂, h₂, rfl⟩ := Option.map_eq_some_iff.mp h
  exact ⟨ops₁, ops₂, h₁, h₂, rfl⟩

lemma sentByAll_concat_eq_some {α : Type} {g : α → Option (List MysqlOperation)} {a : α}
    {as : List α} (h : sentByAll g (as ++ [a]) = some ops) :
    ∃ ops₁ ops₂, sentByAll g as = some ops₁ ∧ g a = some ops₂ ∧ ops = ops₁ ++ ops₂ := by
  induction as generalizing ops with
  | nil =>
    obtain ⟨ops₁, ops₂, h₁, h₂, rfl⟩ := sentByAll_cons_eq_some h
    cases h₂
    exact ⟨[], ops₁, rfl, h₁, by simp⟩
  | cons b as ih =>
    obtain ⟨ops₁, ops₂, h₁, h₂, rfl⟩ := sentByAll_cons_eq_some h
    obtain ⟨ops₃, ops₄, h₃, h₄, rfl⟩ := ih h₂
    refine ⟨ops₁ ++ ops₃, ops₄, ?_, h₄, by simp⟩
    rw [sentByAll, h₁, Option.bind_some, h₃, Option.map_some]

/-- Every transaction sends its GTID first. -/
lemma eventOperations_gtid {gh : EventHeader} {g : GTIDEvent}
    (h : eventOperations parse file ⟨gh, .gtid g⟩ = some ops) :
    ∃ p o, ops = [.binLogPos p, .gtid o] := by
  obtain ⟨op, hop, rfl⟩ := Option.map_eq_some_iff.mp h
  rw [gtidOperation] at hop
  split at hop
  · obtain ⟨xid, -, rfl⟩ := Option.map_eq_some_iff.mp hop
    exact ⟨_, _, rfl⟩
  · simp at hop

lemma inRows_of_changes {changes : List (EventHeader × RowsEventType × RowsEvent)}
    (h : sentByAll (eventOperations parse file) (changes.map rowsEvent) = some ops) :
    ∀ op ∈ ops, op.inRows = true := by
  induction changes generalizing ops with
  | nil =>
    cases h
    simp
  | cons change changes ih =>
    obtain ⟨ops₁, ops₂, h₁, h₂, rfl⟩ := sentByAll_cons_eq_some h
    obtain ⟨ops', hops', rfl⟩ := Option.map_eq_some_iff.mp h₁
    intro op hop
    rcases List.mem_append.mp hop with hop | hop
    · rcases List.mem_cons.mp hop with rfl | hop
      · rfl
      · exact inRows_rowsOperations hops' op hop
    · exact ih h₂ op hop

/-- A statement transaction is agreed on exactly when its statements close the group. -/
lemma agreed_statement {gh h : EventHeader} {g : GTIDEvent} {query : QueryEvent}
    (hops : sentByAll (eventOperations parse file)
      (BinlogTransaction.statement gh g h query).events = some ops) :
    Agreed ops ↔ (BinlogTransaction.statement gh g h query).Closes parse := by
  obtain ⟨ops₁, ops₂, h₁, h₂, rfl⟩ := sentByAll_cons_eq_some hops
  obtain ⟨p, o, rfl⟩ := eventOperations_gtid h₁
  obtain ⟨ops₃, ops₄, h₃, h₄, rfl⟩ := sentByAll_cons_eq_some h₂
  cases h₄
  obtain ⟨stmts, hstmts, rfl⟩ := Option.map_eq_some_iff.mp h₃
  have hgtid : ∀ op ∈ moblp file h :: stmts.flatMap (stmtOperations query h),
      op.isGTID = false := by
    intro op hop
    rcases List.mem_cons.mp hop with rfl | hop
    · rfl
    · obtain ⟨stmt, -, hop⟩ := List.mem_flatMap.mp hop
      exact isGTID_of_mem_stmtOperations query h hop
  rw [List.append_nil]
  refine (agreed_iff_tableAfter hgtid).trans ?_
  rw [moblp, tableAfter_cons, tableNext_binLogPos, Option.bind_some, tableAfter_stmts,
    closesGroup_iff (silent_notMem_spoken stmts)]
  constructor
  · intro hclose
    exact ⟨stmts, hstmts, hclose⟩
  · rintro ⟨stmts', hstmts', hclose⟩
    cases hstmts.symm.trans hstmts'
    exact hclose

lemma eventOperations_query {h : EventHeader} {query : QueryEvent} {stmts : List StmtNode}
    (hstmts : parse query.query = some stmts)
    (hops : eventOperations parse file ⟨h, .query query⟩ = some ops) :
    ops = moblp file h :: stmts.flatMap (stmtOperations query h) := by
  simp only [eventOperations, hstmts, Option.map_some, Option.some.injEq] at hops
  exact hops.symm

/-- A transaction with rows reaches its terminator inside the transaction. -/
lemma tableAfter_rows {gh bh : EventHeader} {g : GTIDEvent} {beginQuery : QueryEvent}
    {changes : List (EventHeader × RowsEventType × RowsEvent)} {terminator : Terminator}
    (hbegin : parse beginQuery.query = some [.begin])
    (hops : sentByAll (eventOperations parse file)
      (BinlogTransaction.rows gh g bh beginQuery changes terminator).events = some ops) :
    ∃ p o body last, ops = .binLogPos p :: .gtid o :: (body ++ last) ∧
      (∀ op ∈ body, op.isGTID = false) ∧
      eventOperations parse file terminator.event = some last ∧
      ∃ s ∈ [State.begin, .dml], tableAfter .gtid body = some s := by
  obtain ⟨ops₁, ops₂, h₁, h₂, rfl⟩ := sentByAll_cons_eq_some hops
  obtain ⟨p, o, rfl⟩ := eventOperations_gtid h₁
  obtain ⟨ops₃, ops₄, h₃, h₄, rfl⟩ := sentByAll_cons_eq_some h₂
  obtain rfl := eventOperations_query hbegin h₃
  obtain ⟨rows, last, hrows, hlast, rfl⟩ := sentByAll_concat_eq_some h₄
  have hin := inRows_of_changes hrows
  obtain ⟨s, hs, htable⟩ := tableAfter_inRows hin (s := .begin) (by simp)
  refine ⟨p, o, [moblp file bh, .begin ⟨0, bh.timestamp⟩] ++ rows, last, rfl, ?_, hlast, s, hs, ?_⟩
  · intro op hop
    rcases List.mem_append.mp hop with hop | hop
    · simp only [List.mem_cons, List.not_mem_nil, or_false] at hop
      rcases hop with rfl | rfl
      · rfl
      · rfl
    · exact isGTID_of_inRows (hin op hop)
  · rw [tableAfter_append]
    exact htable

/-- A transaction with rows is agreed on exactly when an XID event ends it. -/
lemma agreed_rows {gh bh : EventHeader} {g : GTIDEvent} {beginQuery : QueryEvent}
    {changes : List (EventHeader × RowsEventType × RowsEvent)} {terminator : Terminator}
    (hwf : (BinlogTransaction.rows gh g bh beginQuery changes terminator).WellFormed parse)
    (hops : sentByAll (eventOperations parse file)
      (BinlogTransaction.rows gh g bh beginQuery changes terminator).events = some ops) :
    Agreed ops ↔
      (BinlogTransaction.rows gh g bh beginQuery changes terminator).Closes parse := by
  cases terminator with
  | xid header =>
    obtain ⟨p, o, body, last, rfl, hbody, hlast, s, hs, htable⟩ := tableAfter_rows hwf hops
    cases hlast
    have hxid : tableAfter s [moblp file header, .xid ⟨header.timestamp⟩] = some .xid := by
      rw [moblp, tableAfter_cons, tableNext_binLogPos]
      simp only [List.mem_cons, List.not_mem_nil, or_false] at hs
      rcases hs with rfl | rfl
      · rfl
      · rfl
    have hgtid : ∀ op ∈ body ++ [moblp file header, .xid ⟨header.timestamp⟩],
        op.isGTID = false := by
      intro op hop
      rcases List.mem_append.mp hop with hop | hop
      · exact hbody op hop
      · simp only [List.mem_cons, List.not_mem_nil, or_false] at hop
        rcases hop with rfl | rfl
        · rfl
        · rfl
    refine iff_of_true ?_ trivial
    refine (agreed_iff_tableAfter hgtid).mpr ⟨.xid, by simp [resting], ?_⟩
    rw [tableAfter_append, htable]
    exact hxid
  | commit header query =>
    obtain ⟨p, o, body, last, rfl, hbody, hlast, s, hs, htable⟩ := tableAfter_rows hwf.1 hops
    obtain rfl := eventOperations_query hwf.2 hlast
    have hgtid : ∀ op ∈ body ++ (moblp file header :: [StmtNode.commit].flatMap
        (stmtOperations query header)), op.isGTID = false := by
      intro op hop
      rcases List.mem_append.mp hop with hop | hop
      · exact hbody op hop
      · rw [List.mem_singleton.mp hop]
        rfl
    refine iff_of_false (fun hagreed => ?_) id
    obtain ⟨s', hs', htable'⟩ := (agreed_iff_tableAfter hgtid).mp hagreed
    -- the `COMMIT` sends nothing, so the table stays where the rows left it
    have hstay : tableAfter .gtid (body ++ [moblp file header]) = some s := by
      rw [tableAfter_concat, htable]
      exact tableNext_binLogPos s _
    cases hstay.symm.trans htable'
    simp only [List.mem_cons, List.not_mem_nil, or_false] at hs
    rcases hs with rfl | rfl
    · simp [resting] at hs'
    · simp [resting] at hs'

end

lemma BinlogTransaction.isRotate_of_mem_events {tx : BinlogTransaction} {ev : BinlogEvent}
    (h : ev ∈ tx.events) : ev.isRotate = false := by
  cases tx with
  | statement gh g h' query =>
    simp only [BinlogTransaction.events, List.mem_cons, List.not_mem_nil, or_false] at h
    rcases h with rfl | rfl
    · rfl
    · rfl
  | rows gh g bh beginQuery changes terminator =>
    simp only [BinlogTransaction.events, List.mem_cons, List.mem_append, List.mem_map,
      List.not_mem_nil, or_false] at h
    rcases h with rfl | rfl | ⟨change, -, rfl⟩ | rfl
    · rfl
    · rfl
    · rfl
    · cases terminator <;> rfl

/-- The extractor and the applier agree on a transaction exactly when it closes its group: rows
ended by an XID event, or statements that send something and fit together. -/
theorem agreed_iff_closes {parse : String → Option (List StmtNode)} {tx : BinlogTransaction}
    (hwf : tx.WellFormed parse) {bext : BinlogExtract} {opers : List MysqlOperation}
    (hrun : BinlogExtract.run parse tx.events bext = (.ok (), bext.send opers)) :
    Agreed opers ↔ tx.Closes parse := by
  obtain ⟨ops, hops, hsend⟩ := BinlogExtract.run_eq_ok
    (fun ev hev => BinlogTransaction.isRotate_of_mem_events hev) hrun
  obtain rfl : opers = ops :=
    List.append_cancel_left (congrArg BinlogExtract.moCh hsend)
  cases tx with
  | statement gh g h query => exact agreed_statement hops
  | rows gh g bh beginQuery changes terminator => exact agreed_rows hwf hops

/-- A parser of three statements. -/
def parseThree (query : String) : Option (List StmtNode) :=
  if query = "BEGIN" then some [.begin]
  else if query = "COMMIT" then some [.commit]
  else if query = "ALTER TABLE t ADD c INT" then some [.alterTable ⟨"", "t"⟩ []]
  else none

/-- A table changed in a transaction of its own. -/
def alterTransaction : BinlogTransaction :=
  .statement ⟨7, "GTIDEvent", 1, 100⟩ ⟨3, some "u:5"⟩ ⟨7, "QueryEvent", 1, 200⟩
    ⟨"db", "ALTER TABLE t ADD c INT"⟩

theorem agreed_alterTable :
    Agreed [.binLogPos ⟨1, "GTIDEvent", "bin.1", 100, 7⟩, .gtid ⟨3, 1, 7, "u", 5⟩,
      .binLogPos ⟨1, "QueryEvent", "bin.1", 200, 7⟩,
      .ddlTable ⟨"db", "db", "t", "ALTER TABLE t ADD c INT", 7⟩] := by
  have hwf : alterTransaction.WellFormed parseThree := trivial
  have hcloses : alterTransaction.Closes parseThree :=
    ⟨[.alterTable ⟨"", "t"⟩ []], by decide, by decide⟩
  have hrun : BinlogExtract.run parseThree alterTransaction.events ⟨"bin.1", []⟩ =
      (.ok (), BinlogExtract.send ⟨"bin.1", []⟩
        [.binLogPos ⟨1, "GTIDEvent", "bin.1", 100, 7⟩, .gtid ⟨3, 1, 7, "u", 5⟩,
          .binLogPos ⟨1, "QueryEvent", "bin.1", 200, 7⟩,
          .ddlTable ⟨"db", "db", "t", "ALTER TABLE t ADD c INT", 7⟩]) := by decide
  exact (agreed_iff_closes hwf hrun).mpr hcloses

/-- One row inserted into a table without transactions: the transaction ends with a `COMMIT`
query, of which the applier is told nothing. -/
def commitTransaction : BinlogTransaction :=
  .rows ⟨7, "GTIDEvent", 1, 100⟩ ⟨3, some "u:5"⟩ ⟨7, "QueryEvent", 1, 200⟩ ⟨"db", "BEGIN"⟩
    [(⟨7, "WriteRowsEventV2", 1, 300⟩, .write, ⟨⟨"db", "t", 1, [3], ["id"], [0]⟩, [[.int32 1]]⟩)]
    (.commit ⟨7, "QueryEvent", 1, 400⟩ ⟨"db", "COMMIT"⟩)

theorem not_agreed_commitTransaction :
    ¬ ∀ (parse : String → Option (List StmtNode)) (tx : BinlogTransaction), tx.WellFormed parse →
      ∀ (bext : BinlogExtract) (opers : List MysqlOperation),
        BinlogExtract.run parse tx.events bext = (.ok (), bext.send opers) → Agreed opers := by
  intro hall
  have hagreed := hall parseThree commitTransaction ⟨by decide, by decide⟩ ⟨"bin.1", []⟩
    [.binLogPos ⟨1, "GTIDEvent", "bin.1", 100, 7⟩, .gtid ⟨3, 1, 7, "u", 5⟩,
      .binLogPos ⟨1, "QueryEvent", "bin.1", 200, 7⟩, .begin ⟨0, 7⟩,
      .binLogPos ⟨1, "WriteRowsEventV2", "bin.1", 300, 7⟩,
      .dmlInsert ⟨"db", "t", [⟨"id", 3, .int32 1, false⟩], [0], 7⟩,
      .binLogPos ⟨1, "QueryEvent", "bin.1", 400, 7⟩] (by decide)
  rw [agreed_iff_tableAfter (by decide)] at hagreed
  revert hagreed
  decide

end MysqlSync
