import MysqlSync.Extract.Grammar

/-!
# The stream of a binlog

A binlog is read as a list of items: transactions, and heartbeats and rotations between them.
Events the extractor has no case for may stand anywhere. What the extractor sends for such a
binlog, whether it gets to its end or stops in the middle, is punctual: wherever an operation
stands that can make the applier write a checkpoint, other than a GTID, the stream has come to the
end of a transaction, and the last position sent is the end of the last event of that transaction
(`punctual_extracted`).
-/

namespace MysqlSync

open BinlogExtract

/-! ### Binlogs -/

inductive BinlogItem where
  | transaction (t : BinlogTransaction)
  | heartbeat (header : EventHeader) (now : UInt32)
  | rotate (header : EventHeader) (isRotate : Bool) (nextLogName : String)
  deriving DecidableEq, Repr

def BinlogItem.events : BinlogItem → List BinlogEvent
  | .transaction t => t.events
  | .heartbeat header now => [⟨header, .heartbeat now⟩]
  | .rotate header isRotate nextLogName => [⟨header, .rotate isRotate nextLogName⟩]

/-- The events the extractor has no case for. -/
def BinlogEvent.isOther (ev : BinlogEvent) : Bool := ev.event = .other

namespace BinlogTransaction

/-- The operation of the GTID event, if its GTID can be read. -/
def gtid : BinlogTransaction → Option MysqlOperationGTID
  | .statement gtidHeader gtid _ _ | .rows gtidHeader gtid _ _ _ _ =>
    match gtidOperation gtid gtidHeader with
    | some (.gtid o) => some o
    | _ => none

/-- The header of the last event. -/
def endHeader : BinlogTransaction → EventHeader
  | .statement _ _ header _ => header
  | .rows _ _ _ _ _ terminator => terminator.event.header

end BinlogTransaction

/-- A transaction with the binlog file it is in. -/
structure Placed where
  file : String
  transaction : BinlogTransaction
  deriving DecidableEq, Repr

namespace Placed

def gtid (p : Placed) : Option MysqlOperationGTID := p.transaction.gtid

/-- The end of the last event. -/
def endPosition (p : Placed) : String × UInt32 := (p.file, p.transaction.endHeader.logPos)

end Placed

/-- The binlog file after an item. -/
def nextFile (file : String) : BinlogItem → String
  | .rotate _ true nextLogName => nextLogName
  | _ => file

def BinlogItem.placed (file : String) : BinlogItem → List Placed
  | .transaction t => [⟨file, t⟩]
  | _ => []

/-- The transactions of a binlog that begins in `file`. -/
def transactionsFrom (file : String) : List BinlogItem → List Placed
  | [] => []
  | item :: items => item.placed file ++ transactionsFrom (nextFile file item) items

/-- A binlog that begins in `file`: its events are those of the items, the queries around rows are
what they should be, and every server numbers its transactions in increasing order. -/
structure WellFormedBinlog (parse : String → Option (List StmtNode)) (file : String)
    (events : List BinlogEvent) (items : List BinlogItem) : Prop where
  events : events.filter (!·.isOther) = items.flatMap BinlogItem.events
  wellFormed : ∀ t, .transaction t ∈ items → t.WellFormed parse
  ascending : (transactionsFrom file items).Pairwise fun p q => ∀ o o',
    p.gtid = some o → q.gtid = some o' → o.serverUUID = o'.serverUUID → o.number < o'.number

/-! ### Reading a stream -/

/-- The operations other than GTIDs at which a checkpoint may be written. -/
def MysqlOperation.settles : MysqlOperation → Bool
  | .heartbeat _ => true
  | op => op.isNonDML

/-- The operations that tell where in the binlog the stream is. -/
def MysqlOperation.marks : MysqlOperation → Bool
  | .gtid _ | .binLogPos _ => true
  | _ => false

def readPosition (position : Option (String × UInt32)) :
    MysqlOperation → Option (String × UInt32)
  | .gtid _ => none
  | .binLogPos o => some (o.file, o.pos)
  | _ => position

/-- The last position sent since the last GTID. -/
def positionOf (opers : List MysqlOperation) : Option (String × UInt32) :=
  opers.foldl readPosition none

/-- The stream has come to the end of a transaction of `ts`. -/
def Stands (ts : List Placed) (as : List MysqlOperation) : Prop :=
  ∃ earlier p, earlier ++ [p] <+: ts ∧ positionOf as = some p.endPosition ∧
    (gtidsOf as).map some = (earlier ++ [p]).map Placed.gtid

/-- Wherever a checkpoint may be written, the stream has not reached a transaction yet, or it has
come to the end of one. -/
def Punctual (ts : List Placed) (opers : List MysqlOperation) : Prop :=
  ∀ as op, as ++ [op] <+: opers → op.settles = true → gtidsOf as = [] ∨ Stands ts as

section

variable {ts : List Placed} {as l : List MysqlOperation} {op : MysqlOperation}

lemma readPosition_of_not_marks (h : op.marks = false) (q : Option (String × UInt32)) :
    readPosition q op = q := by
  cases op <;> simp_all [MysqlOperation.marks, readPosition]

lemma isGTID_of_not_marks (h : op.marks = false) : op.isGTID = false := by
  cases op <;> simp_all [MysqlOperation.marks, MysqlOperation.isGTID]

lemma positionOf_append_of_not_marks (h : ∀ op ∈ l, op.marks = false) :
    positionOf (as ++ l) = positionOf as := by
  induction l using List.reverseRecOn with
  | nil => simp
  | append_singleton l op ih =>
    have hop := h op (by simp)
    rw [← List.append_assoc, positionOf, List.foldl_append, ← positionOf,
      ih fun op' hop' => h op' (List.mem_append_left _ hop')]
    exact readPosition_of_not_marks hop _

/-- The operations of an event follow its position. -/
lemma positionOf_append_moblp (file : String) (eh : EventHeader)
    (h : ∀ op ∈ l, op.marks = false) :
    positionOf (as ++ moblp file eh :: l) = some (file, eh.logPos) := by
  have hcons : as ++ moblp file eh :: l = (as ++ [moblp file eh]) ++ l := by simp
  rw [hcons, positionOf_append_of_not_marks h, positionOf, List.foldl_append]
  rfl

lemma gtidsOf_eq_nil (h : ∀ op ∈ l, op.isGTID = false) : gtidsOf l = [] := by
  induction l with
  | nil => rfl
  | cons op l ih =>
    rw [← List.singleton_append, gtidsOf_append, gtidsOf_singleton_of_not (h op List.mem_cons_self),
      ih fun op' hop' => h op' (List.mem_cons_of_mem _ hop')]
    rfl

lemma Punctual.append (h : Punctual ts as)
    (hl : ∀ bs op, bs ++ [op] <+: l → op.settles = true →
      gtidsOf (as ++ bs) = [] ∨ Stands ts (as ++ bs)) : Punctual ts (as ++ l) := by
  intro bs op hbs hop
  rcases Prog.concat_isPrefix_append hbs with hbs | ⟨cs, rfl, hcs⟩
  · exact h bs op hbs hop
  · exact hl cs op hcs hop

lemma mem_of_concat_isPrefix {bs : List MysqlOperation} (h : bs ++ [op] <+: l) : op ∈ l :=
  h.subset (by simp)

lemma Punctual.append_of_not_settles (h : Punctual ts as) (hl : ∀ op ∈ l, op.settles = false) :
    Punctual ts (as ++ l) := by
  refine h.append fun bs op hbs hop => ?_
  simp [hl op (mem_of_concat_isPrefix hbs)] at hop

end

/-! ### What the events send -/

section

variable {parse : String → Option (List StmtNode)} {file : String} {ops : List MysqlOperation}
  {bext bext' : BinlogExtract}

/-- The operations of queries tell nothing about where the stream is. -/
lemma marks_of_mem_stmts {e : QueryEvent} {eh : EventHeader} {stmts : List StmtNode} :
    ∀ op ∈ stmts.flatMap (stmtOperations e eh), op.marks = false := by
  intro op hop
  obtain ⟨stmt, -, hop⟩ := List.mem_flatMap.mp hop
  cases stmt with
  | renameTable l | dropTable l =>
    obtain ⟨tab, -, rfl⟩ := List.mem_map.mp hop
    rfl
  | commit | other => simp [stmtOperations] at hop
  | _ =>
    rw [List.mem_singleton.mp hop]
    rfl

lemma settles_of_isDML {op : MysqlOperation} (h : op.isDML = true) : op.settles = false := by
  cases op <;> simp_all [MysqlOperation.isDML, MysqlOperation.settles, MysqlOperation.isNonDML]

lemma settles_of_inRows {op : MysqlOperation} (h : op.inRows = true) : op.settles = false := by
  cases op <;> simp_all [MysqlOperation.inRows, MysqlOperation.settles, MysqlOperation.isNonDML]

/-- An event that stops the extractor has sent nothing at which a checkpoint may be written. -/
lemma not_settles_of_start_error {ev : BinlogEvent} {e : ExtractStop}
    (h : BinlogExtract.start parse ev bext = (.error e, bext')) :
    ∃ l, bext'.moCh = bext.moCh ++ l ∧ ∀ op ∈ l, op.settles = false := by
  obtain ⟨eh, body⟩ := ev
  -- apart from queries and heartbeats no event ever sends such an operation
  have hend {x : Extraction Unit} (hx : SendsOnly (·.settles = false) x)
      (hrun : x bext = (.error e, bext')) :
      ∃ l, bext'.moCh = bext.moCh ++ l ∧ ∀ op ∈ l, op.settles = false := by
    have hl := hx bext
    rwa [hrun] at hl
  have hbp : SendsOnly (·.settles = false) (toMoCh (moblp bext.binlogFile eh)) :=
    sendsOnly_toMoCh rfl
  cases body with
  | rows type rows =>
    exact hend (hbp.bind fun _ =>
      sendsOnly_handleEventRows _ (fun _ hop => settles_of_isDML hop.isDML) _ _) h
  | gtid g => exact hend (hbp.bind fun _ => sendsOnly_handleEventGtid (fun _ => rfl) _ _) h
  | query q =>
    cases hparse : parse q.query with
    | none =>
      have hquery : SendsOnly (·.settles = false) (handleQueryEvent q eh parse) := by
        rw [handleQueryEvent, hparse]
        exact sendsOnly_of_moCh fun _ => rfl
      exact hend (hbp.bind fun _ => hquery) h
    | some stmts =>
      have hsends := (sends_toMoCh (moblp bext.binlogFile eh)).andThen
        (sends_handleQueryEvent parse eh q)
      rw [hparse] at hsends
      have hok := hsends bext
      exact absurd (h.symm.trans hok) (by simp)
  | xid => exact absurd (congrArg Prod.fst h) (by simp [BinlogExtract.start, Prog.bind_apply, toMoCh])
  | rotate isRotate nextLogName =>
    refine absurd (congrArg Prod.fst h) ?_
    cases isRotate <;> simp [BinlogExtract.start, Prog.bind_apply]
  | heartbeat now => exact absurd (congrArg Prod.fst h) (by simp [BinlogExtract.start, Prog.bind_apply, toMoCh])
  | other => exact absurd (congrArg Prod.fst h) (by simp [BinlogExtract.start, Prog.bind_apply])

/-! ### Transactions -/

lemma mem_of_sentByAll {α : Type} {g : α → Option (List MysqlOperation)} {as : List α}
    (h : sentByAll g as = some ops) {op : MysqlOperation} (hop : op ∈ ops) :
    ∃ a ∈ as, ∃ l, g a = some l ∧ op ∈ l := by
  induction as generalizing ops with
  | nil =>
    cases h
    simp at hop
  | cons a as ih =>
    obtain ⟨ops₁, ops₂, h₁, h₂, rfl⟩ := sentByAll_cons_eq_some h
    rcases List.mem_append.mp hop with hop | hop
    · exact ⟨a, List.mem_cons_self, ops₁, h₁, hop⟩
    · obtain ⟨b, hb, hrest⟩ := ih h₂ hop
      exact ⟨b, List.mem_cons_of_mem a hb, hrest⟩

lemma gtid_of_eventOperations {gh : EventHeader} {g : GTIDEvent}
    (h : eventOperations parse file ⟨gh, .gtid g⟩ = some ops) :
    ∃ o, ops = [moblp file gh, .gtid o] ∧ gtidOperation g gh = some (.gtid o) := by
  obtain ⟨p, o, hops⟩ := eventOperations_gtid h
  obtain ⟨op, hop, rfl⟩ := Option.map_eq_some_iff.mp h
  obtain rfl : op = .gtid o := (List.cons.inj (List.cons.inj hops).2).1
  exact ⟨o, rfl, hop⟩

lemma eventOperations_begin {eh : EventHeader} {e : QueryEvent}
    (hparse : parse e.query = some [.begin])
    (h : eventOperations parse file ⟨eh, .query e⟩ = some ops) :
    ops = [moblp file eh, .begin ⟨0, eh.timestamp⟩] := by
  obtain ⟨stmts, hstmts, rfl⟩ := Option.map_eq_some_iff.mp h
  rw [hparse] at hstmts
  cases hstmts
  rfl

namespace BinlogTransaction

lemma WellFormed.begin {gh bh : EventHeader} {g : GTIDEvent} {bq : QueryEvent}
    {changes : List (EventHeader × RowsEventType × RowsEvent)} {terminator : Terminator}
    (h : (BinlogTransaction.rows gh g bh bq changes terminator).WellFormed parse) :
    parse bq.query = some [.begin] := by
  cases terminator with
  | xid header => exact h
  | commit header query => exact h.1

/-- Only the last event of a transaction sends operations at which a checkpoint may be written. -/
lemma not_settles_of_mem_dropLast {t : BinlogTransaction} (hwf : t.WellFormed parse)
    {ev : BinlogEvent} (hev : ev ∈ t.events.dropLast)
    (hops : eventOperations parse file ev = some ops) : ∀ op ∈ ops, op.settles = false := by
  have hgtid {gh : EventHeader} {g : GTIDEvent}
      (h : eventOperations parse file ⟨gh, .gtid g⟩ = some ops) :
      ∀ op ∈ ops, op.settles = false := by
    obtain ⟨o, rfl, -⟩ := gtid_of_eventOperations h
    simp [moblp, MysqlOperation.settles, MysqlOperation.isNonDML]
  cases t with
  | statement gh g eh e =>
    obtain rfl : ev = ⟨gh, .gtid g⟩ := by simpa [events] using hev
    exact hgtid hops
  | rows gh g bh bq changes terminator =>
    have hmem : ev = ⟨gh, .gtid g⟩ ∨ ev = ⟨bh, .query bq⟩ ∨ ev ∈ changes.map rowsEvent := by
      rw [events, ← List.cons_append, ← List.cons_append, List.dropLast_concat] at hev
      simpa using hev
    rcases hmem with rfl | rfl | hmem
    · exact hgtid hops
    · rw [eventOperations_begin hwf.begin hops]
      simp [moblp, MysqlOperation.settles, MysqlOperation.isNonDML]
    · obtain ⟨change, -, rfl⟩ := List.mem_map.mp hmem
      obtain ⟨l, hl, rfl⟩ := Option.map_eq_some_iff.mp hops
      intro op hop
      rcases List.mem_cons.mp hop with rfl | hop
      · rfl
      · exact settles_of_inRows (inRows_rowsOperations hl op hop)

/-- What a transaction sends: its GTID, then what its events but the last send, then what the last
one sends. -/
structure Sent (file : String) (t : BinlogTransaction) (ops : List MysqlOperation)
    (o : MysqlOperationGTID) (front back : List MysqlOperation) : Prop where
  gtid : t.gtid = some o
  eq : ops = front ++ moblp file t.endHeader :: back
  gtids : gtidsOf front = [o]
  front : ∀ op ∈ front, op.settles = false
  back : ∀ op ∈ back, op.marks = false

/-- The first event of a transaction sends its GTID. -/
lemma gtid_of_sentByAll {t : BinlogTransaction} {ev : BinlogEvent} {evs : List BinlogEvent}
    (hevents : t.events = ev :: evs) (h : eventOperations parse file ev = some ops) :
    ∃ o, t.gtid = some o ∧ ops = [moblp file ev.header, .gtid o] := by
  cases t with
  | statement gh g eh e | rows gh g bh bq changes terminator =>
    obtain ⟨rfl, -⟩ := List.cons.inj hevents
    obtain ⟨o, rfl, hgtid⟩ := gtid_of_eventOperations h
    exact ⟨o, by simp [gtid, hgtid], rfl⟩

lemma exists_sent {t : BinlogTransaction} (hwf : t.WellFormed parse)
    (h : sentByAll (eventOperations parse file) t.events = some ops) :
    ∃ o front back, Sent file t ops o front back := by
  cases t with
  | statement gh g eh e =>
    obtain ⟨ops₁, ops₂, h₁, h₂, rfl⟩ := sentByAll_cons_eq_some h
    obtain ⟨o, hgtid, rfl⟩ := gtid_of_sentByAll (t := .statement gh g eh e) rfl h₁
    obtain ⟨ops₃, ops₄, h₃, h₄, rfl⟩ := sentByAll_cons_eq_some h₂
    cases h₄
    obtain ⟨stmts, -, rfl⟩ := Option.map_eq_some_iff.mp h₃
    refine ⟨o, [moblp file gh, .gtid o], stmts.flatMap (stmtOperations e eh), hgtid, ?_, rfl, ?_,
      marks_of_mem_stmts⟩
    · simp [endHeader]
    · simp [moblp, MysqlOperation.settles, MysqlOperation.isNonDML]
  | rows gh g bh bq changes terminator =>
    obtain ⟨ops₁, ops₂, h₁, h₂, rfl⟩ := sentByAll_cons_eq_some h
    obtain ⟨o, hgtid, rfl⟩ :=
      gtid_of_sentByAll (t := .rows gh g bh bq changes terminator) rfl h₁
    obtain ⟨ops₃, ops₄, h₃, h₄, rfl⟩ := sentByAll_cons_eq_some h₂
    obtain rfl := eventOperations_begin hwf.begin h₃
    obtain ⟨ops₅, ops₆, h₅, h₆, rfl⟩ := sentByAll_concat_eq_some h₄
    have hrows := inRows_of_changes h₅
    -- an XID event sends the commit, a `COMMIT` query nothing
    obtain ⟨back, rfl, hback⟩ : ∃ back, ops₆ = moblp file terminator.event.header :: back ∧
        ∀ op ∈ back, op.marks = false := by
      cases terminator with
      | xid header =>
        cases h₆
        exact ⟨[.xid ⟨header.timestamp⟩], rfl, by simp [MysqlOperation.marks]⟩
      | commit header query =>
        obtain ⟨stmts, -, rfl⟩ := Option.map_eq_some_iff.mp h₆
        exact ⟨_, rfl, marks_of_mem_stmts⟩
    refine ⟨o, [moblp file gh, .gtid o, moblp file bh, .begin ⟨0, bh.timestamp⟩] ++ ops₅, back,
      hgtid, ?_, ?_, ?_, hback⟩
    · simp [endHeader]
    · rw [gtidsOf_append, gtidsOf_eq_nil fun op hop => isGTID_of_inRows (hrows op hop)]
      rfl
    · intro op hop
      rcases List.mem_append.mp hop with hop | hop
      · simp only [List.mem_cons, List.not_mem_nil, or_false] at hop
        rcases hop with rfl | rfl | rfl | rfl <;> rfl
      · exact settles_of_inRows (hrows op hop)

end BinlogTransaction

/-! ### Whole binlogs -/

lemma transactionsFrom_append (file : String) (as bs : List BinlogItem) :
    transactionsFrom file (as ++ bs) =
      transactionsFrom file as ++ transactionsFrom (as.foldl nextFile file) bs := by
  induction as generalizing file with
  | nil => rfl
  | cons item as ih => simp [transactionsFrom, ih]

lemma transactionsFrom_concat (file : String) (items : List BinlogItem) (item : BinlogItem) :
    transactionsFrom file (items ++ [item]) =
      transactionsFrom file items ++ item.placed (items.foldl nextFile file) := by
  simp [transactionsFrom_append, transactionsFrom]

lemma transactionsFrom_isPrefix (file : String) {as bs : List BinlogItem} (h : as <+: bs) :
    transactionsFrom file as <+: transactionsFrom file bs := by
  obtain ⟨rest, rfl⟩ := h
  rw [transactionsFrom_append]
  exact List.prefix_append ..

/-- The extractor has got through the items `done`. -/
structure Streamed (file : String) (done : List BinlogItem) (bext : BinlogExtract) : Prop where
  binlogFile : bext.binlogFile = done.foldl nextFile file
  gtids : (gtidsOf bext.moCh).map some = (transactionsFrom file done).map Placed.gtid
  position : ∀ p, (transactionsFrom file done).getLast? = some p →
    positionOf bext.moCh = some p.endPosition

variable {ts : List Placed} {done : List BinlogItem}

/-- Between two items the stream has not reached a transaction yet or stands at the end of one. -/
lemma Streamed.stands (h : Streamed file done bext) (hts : transactionsFrom file done <+: ts) :
    gtidsOf bext.moCh = [] ∨ Stands ts bext.moCh := by
  rcases List.eq_nil_or_concat (transactionsFrom file done) with hnil | ⟨earlier, p, hconcat⟩
  · have hgtids := h.gtids
    rw [hnil] at hgtids
    exact .inl (by simpa using hgtids)
  · rw [List.concat_eq_append] at hconcat
    refine .inr ⟨earlier, p, hconcat ▸ hts, h.position p (by simp [hconcat]), ?_⟩
    rw [← hconcat]
    exact h.gtids

/-- An item without a transaction. -/
lemma Streamed.pass (h : Streamed file done bext) {item : BinlogItem}
    (hitem : ∀ file, item.placed file = []) {l : List MysqlOperation}
    (hl : ∀ op ∈ l, op.marks = false) :
    Streamed file (done ++ [item]) ⟨nextFile bext.binlogFile item, bext.moCh ++ l⟩ where
  binlogFile := by
    rw [List.foldl_append, ← h.binlogFile]
    rfl
  gtids := by
    rw [transactionsFrom_concat, hitem, List.append_nil, ← h.gtids, gtidsOf_append,
      gtidsOf_eq_nil fun op hop => isGTID_of_not_marks (hl op hop), List.append_nil]
  position := by
    rw [transactionsFrom_concat, hitem, List.append_nil, positionOf_append_of_not_marks hl]
    exact h.position

lemma Streamed.transaction (h : Streamed file done bext) {t : BinlogTransaction}
    {o : MysqlOperationGTID} {front back : List MysqlOperation}
    (hsent : t.Sent bext.binlogFile ops o front back) :
    Streamed file (done ++ [.transaction t]) (bext.send ops) where
  binlogFile := by
    rw [List.foldl_append]
    exact h.binlogFile
  gtids := by
    rw [transactionsFrom_concat, List.map_append, ← h.gtids, send, gtidsOf_append, hsent.eq,
      gtidsOf_append, hsent.gtids, List.map_append]
    have hback : gtidsOf (moblp bext.binlogFile t.endHeader :: back) = [] := by
      refine gtidsOf_eq_nil fun op hop => ?_
      rcases List.mem_cons.mp hop with rfl | hop
      · rfl
      · exact isGTID_of_not_marks (hsent.back op hop)
    rw [hback]
    simp [BinlogItem.placed, Placed.gtid, hsent.gtid]
  position := by
    intro p hp
    rw [transactionsFrom_concat, BinlogItem.placed, List.getLast?_concat, ← h.binlogFile] at hp
    cases hp
    rw [send, hsent.eq, ← List.append_assoc, positionOf_append_moblp _ _ hsent.back]
    rfl

lemma punctual_transaction (h : Streamed file done bext) {t : BinlogTransaction}
    {o : MysqlOperationGTID} {front back : List MysqlOperation}
    (hts : transactionsFrom file (done ++ [.transaction t]) <+: ts)
    (hp : Punctual ts bext.moCh) (hsent : t.Sent bext.binlogFile ops o front back) :
    Punctual ts (bext.moCh ++ ops) := by
  rw [hsent.eq]
  refine hp.append fun bs op hbs hop => .inr ?_
  have hsplit : front ++ moblp bext.binlogFile t.endHeader :: back =
      (front ++ [moblp bext.binlogFile t.endHeader]) ++ back := by simp
  rw [hsplit] at hbs
  rcases Prog.concat_isPrefix_append hbs with hbs | ⟨cs, rfl, hcs⟩
  · rcases List.mem_append.mp (mem_of_concat_isPrefix hbs) with hmem | hmem
    · simp [hsent.front op hmem] at hop
    · rw [List.mem_singleton.mp hmem] at hop
      simp [moblp, MysqlOperation.settles, MysqlOperation.isNonDML] at hop
  -- the operation is one of the last event, whose position is then the last one sent
  have hmarks : ∀ op ∈ cs, op.marks = false := fun op hop =>
    hsent.back op (((List.prefix_append cs _).trans hcs).subset hop)
  have hpart : t.Sent bext.binlogFile (front ++ moblp bext.binlogFile t.endHeader :: cs) o front cs :=
    ⟨hsent.gtid, rfl, hsent.gtids, hsent.front, hmarks⟩
  rcases (h.transaction hpart).stands hts with hnil | hstands
  · exact absurd hnil (by simp [send, gtidsOf_append, hsent.gtids])
  · rw [send] at hstands
    simpa using hstands

/-- The events of one transaction, whether they stop the extractor or not. -/
lemma Streamed.run_transaction (h : Streamed file done bext) {t : BinlogTransaction}
    (hwf : t.WellFormed parse) (hts : transactionsFrom file (done ++ [.transaction t]) <+: ts)
    (hp : Punctual ts bext.moCh) :
    Punctual ts (BinlogExtract.run parse t.events bext).2.moCh ∧
      ((BinlogExtract.run parse t.events bext).1 = .ok () →
        Streamed file (done ++ [.transaction t]) (BinlogExtract.run parse t.events bext).2) := by
  rcases hrun : BinlogExtract.run parse t.events bext with ⟨e | ⟨⟩, bext'⟩
  · refine ⟨?_, by simp⟩
    obtain ⟨evs, ev, bext₁, hpre, hevs, hev⟩ := Prog.exists_of_forEach_error hrun
    have hfront : evs <+: t.events.dropLast := by
      obtain ⟨rest, hrest⟩ := hpre
      rw [← hrest, List.append_assoc, List.dropLast_append_of_ne_nil (by simp)]
      exact List.prefix_append evs _
    have hevents : evs ⊆ t.events := ((List.prefix_append evs _).trans hpre).subset
    obtain ⟨ops₁, hops₁, rfl⟩ := run_eq_ok
      (fun ev hev => BinlogTransaction.isRotate_of_mem_events (hevents hev)) hevs
    obtain ⟨l, hl, hsettles⟩ := not_settles_of_start_error hev
    rw [hl]
    refine Punctual.append_of_not_settles (Punctual.append_of_not_settles hp fun op hop => ?_) hsettles
    obtain ⟨ev', hev', l', hl', hop'⟩ := mem_of_sentByAll hops₁ hop
    exact BinlogTransaction.not_settles_of_mem_dropLast hwf (hfront.subset hev') hl' op hop'
  · obtain ⟨ops, hops, rfl⟩ := run_eq_ok
      (fun ev hev => BinlogTransaction.isRotate_of_mem_events hev) hrun
    obtain ⟨o, front, back, hsent⟩ := BinlogTransaction.exists_sent hwf hops
    exact ⟨punctual_transaction h hts hp hsent, fun _ => h.transaction hsent⟩

lemma Streamed.run_item (h : Streamed file done bext) {item : BinlogItem}
    (hwf : ∀ t, item = .transaction t → t.WellFormed parse)
    (hts : transactionsFrom file (done ++ [item]) <+: ts) (hp : Punctual ts bext.moCh) :
    Punctual ts (BinlogExtract.run parse item.events bext).2.moCh ∧
      ((BinlogExtract.run parse item.events bext).1 = .ok () →
        Streamed file (done ++ [item]) (BinlogExtract.run parse item.events bext).2) := by
  cases item with
  | transaction t => exact h.run_transaction (hwf t rfl) hts hp
  | heartbeat header now =>
    have hdone : transactionsFrom file done <+: ts := by
      rw [transactionsFrom_concat] at hts
      exact (List.prefix_append ..).trans hts
    refine ⟨hp.append fun bs op hbs _ => ?_, fun _ => h.pass (fun _ => rfl) ?_⟩
    · obtain rfl : bs = [] := by
        have hlen := hbs.length_le
        exact List.length_eq_zero_iff.mp (by simpa using hlen)
      rw [List.append_nil]
      exact h.stands hdone
    · simp [MysqlOperation.marks]
  | rotate header isRotate nextLogName =>
    have hpass : Streamed file (done ++ [.rotate header isRotate nextLogName])
        ⟨nextFile bext.binlogFile (.rotate header isRotate nextLogName), bext.moCh ++ []⟩ :=
      h.pass (fun _ => rfl) (by simp)
    rw [List.append_nil] at hpass
    cases isRotate with
    | false => exact ⟨hp, fun _ => hpass⟩
    | true => exact ⟨hp, fun _ => hpass⟩

end

/-- Events without a case make no difference. -/
lemma run_filter_isOther (parse : String → Option (List StmtNode)) (events : List BinlogEvent)
    (bext : BinlogExtract) :
    BinlogExtract.run parse (events.filter (!·.isOther)) bext =
      BinlogExtract.run parse events bext := by
  induction events generalizing bext with
  | nil => rfl
  | cons ev events ih =>
    cases hother : ev.isOther with
    | false =>
      rw [List.filter_cons_of_pos (by simp [hother]), BinlogExtract.run, Prog.forEach_cons,
        BinlogExtract.run, Prog.forEach_cons, Prog.bind_apply, Prog.bind_apply]
      rcases BinlogExtract.start parse ev bext with ⟨_ | _, bext'⟩
      · rfl
      · exact ih bext'
    | true =>
      have hev : ev.event = .other := of_decide_eq_true hother
      have hstart : BinlogExtract.start parse ev bext = (.ok (), bext) := by
        simp [BinlogExtract.start, Prog.bind_apply, hev]
      have hrun : BinlogExtract.run parse (ev :: events) bext =
          BinlogExtract.run parse events bext := Prog.bind_of_ok hstart
      rw [List.filter_cons_of_neg (by simp [hother]), ih, hrun]

/-- What the extractor sends for a well-formed binlog is punctual. -/
theorem punctual_extracted {parse : String → Option (List StmtNode)} {file : String}
    {events : List BinlogEvent} {items : List BinlogItem}
    (h : WellFormedBinlog parse file events items) :
    Punctual (transactionsFrom file items) (BinlogExtract.run parse events ⟨file, []⟩).2.moCh := by
  rw [← run_filter_isOther, h.events, BinlogExtract.run, Prog.forEach_flatMap]
  have hall := Prog.forEach_induction (s := (⟨file, []⟩ : BinlogExtract))
    (f := fun item : BinlogItem => BinlogExtract.run parse item.events)
    (P := fun done r bext => done <+: items →
      Punctual (transactionsFrom file items) bext.moCh ∧ (r = .ok () → Streamed file done bext))
    ?_ ?_ ?_ items (List.prefix_refl items)
  · exact hall.1
  · intro _
    refine ⟨fun as op has => ?_, fun _ => ⟨rfl, rfl, by simp [transactionsFrom]⟩⟩
    simpa using has.length_le
  · intro done item bext _ ih hdone
    obtain ⟨hp, hstreamed⟩ := ih ((List.prefix_append done [item]).trans hdone)
    refine (hstreamed rfl).run_item (fun t ht => ?_) ?_ hp
    · subst ht
      exact h.wellFormed t (hdone.subset (by simp))
    · exact transactionsFrom_isPrefix file hdone
  · intro done item e bext _ ih hdone
    exact ⟨(ih ((List.prefix_append done [item]).trans hdone)).1, by simp⟩

end MysqlSync
