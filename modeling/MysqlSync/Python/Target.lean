import MysqlSync.Lib.Trace
import MysqlSync.Python.Basic

/-!
# What the target holds

`Target` is what is left behind after a log: the statements committed, those executed in the open
transaction, and the GTID set last written to disk. `Tracks conf G as n s` is the invariant of the
client: the statements executed are those of the operations `as`, the client's view of its
transaction is the right one, and the property `G` has held at every point of the log. Only a
commit or a write to disk can break `G`; that a commit after `as` does not is `Commits conf G as`,
which the specifications of the client's operations ask for where they commit.
-/

namespace MysqlSync.Python

open Prog

/-! ### The observer -/

/-- A statement executed, with the position in the stream of the operation it was built for. -/
structure Entry (ν : Type) where
  pos : ℕ
  statement : Statement ν
  deriving DecidableEq

structure Target (ν : Type) where
  received : ℕ
  committed : List (Entry ν)
  /-- The statements executed in the open transaction, if there is one. -/
  tx : Option (List (Entry ν))
  gtidset : Option Gtidset
  deriving DecidableEq

variable {ν : Type}

namespace Target

def initial (ν : Type) : Target ν where
  received := 0
  committed := []
  tx := none
  gtidset := none

def opened (w : Target ν) : List (Entry ν) := w.tx.getD []

def executed (w : Target ν) : List (Entry ν) := w.committed ++ w.opened

/-- Make the open transaction permanent. -/
def commit (w : Target ν) : Target ν :=
  { w with committed := w.executed, tx := none }

/-- The effect of one event; calls that are refused have none. A statement other than a row change
is committed at once, with what was open. -/
def after (w : Target ν) : Event ν → Target ν
  | .receive _ => { w with received := w.received + 1 }
  | .call .startTransaction true => { w.commit with tx := some [] }
  | .call (.execute (.dml sqlText params)) true =>
    { w with tx := some (w.opened ++ [⟨w.received - 1, .dml sqlText params⟩]) }
  | .call (.execute (.nonDML sqlText)) true =>
    { w with committed := w.executed ++ [⟨w.received - 1, .nonDML sqlText⟩], tx := none }
  | .call .commit true => w.commit
  | .call .rollback true => { w with tx := none }
  | .call (.persistCheckpointGtidset gtidset) true => { w with gtidset := some gtidset }
  | .call _ _ => w

def replay (log : List (Event ν)) : Target ν := log.foldl after (initial ν)

@[simp] lemma after_refused (w : Target ν) (c : Call ν) : w.after (.call c false) = w := by
  cases c with
  | execute statement => cases statement <;> rfl
  | _ => rfl

end Target

abbrev Sync.target (s : Sync ν) : Target ν := Target.replay s.log

/-- `G` holds at every point of the log. -/
def Throughout (G : Target ν → Prop) (log : List (Event ν)) : Prop :=
  Trace.Always Target.after G (Target.initial ν) log

lemma throughout_concat {G : Target ν → Prop} {log : List (Event ν)} {e : Event ν} :
    Throughout G (log ++ [e]) ↔ Throughout G log ∧ G ((Target.replay log).after e) := by
  rw [Throughout, Trace.always_append]
  constructor
  · rintro ⟨h, -, he⟩
    exact ⟨h, he⟩
  · rintro ⟨h, he⟩
    exact ⟨h, h.last, he⟩

lemma replay_concat (log : List (Event ν)) (e : Event ν) :
    Target.replay (log ++ [e]) = (Target.replay log).after e :=
  List.foldl_append

/-! ### The statements of a stream -/

namespace Operation

variable (conf : Settings)

/-- The operations that are to be executed on the target. -/
def carries : Operation ν → Bool
  | .nonDML _ => true
  | .dml operation => !(Operation.dml operation).isExcluded conf
  | _ => false

def statement : Operation ν → Option (Statement ν)
  | .nonDML operation => some (.nonDML operation.query)
  | .dml operation =>
    if (Operation.dml operation).isExcluded conf then none
    else (dmlOperation2Sql operation).map fun (sqlText, params) => .dml sqlText params
  | _ => none

lemma statement_eq_none {operation : Operation ν} (h : operation.carries conf = false) :
    operation.statement conf = none := by
  cases operation <;> simp_all [carries, statement]

end Operation

def carriesAt (conf : Settings) (items : List (Item ν)) (j : ℕ) : Bool :=
  items[j]?.any fun item => item.operation.carries conf

def statementAt (conf : Settings) (items : List (Item ν)) (j : ℕ) : Option (Statement ν) :=
  items[j]?.bind fun item => item.operation.statement conf

/-- The statements executed are those of `as`, all of them and no others. -/
structure Executed (conf : Settings) (as : List (Item ν)) (w : Target ν) : Prop where
  all : ∀ i item, as[i]? = some item → item.operation.carries conf = true →
    ∃ st, item.operation.statement conf = some st ∧ ⟨i, st⟩ ∈ w.executed
  only : ∀ e ∈ w.executed, ∃ item, as[e.pos]? = some item ∧
    item.operation.statement conf = some e.statement

section

variable {conf : Settings} {as bs items : List (Item ν)} {item : Item ν} {w w' : Target ν}

lemma Executed.congr (h : Executed conf as w) (heq : w'.executed = w.executed) :
    Executed conf as w' where
  all := by rw [heq]; exact h.all
  only := by rw [heq]; exact h.only

lemma Executed.pos_lt (h : Executed conf as w) {e : Entry ν} (he : e ∈ w.executed) :
    e.pos < as.length := by
  obtain ⟨item, hitem, -⟩ := h.only e he
  exact (List.getElem?_eq_some_iff.mp hitem).1

/-- The operations of a stream that has been executed up to some position. -/
lemma Executed.statementAt (h : Executed conf as w) (hitems : items = as ++ bs) {j : ℕ}
    (hj : j < as.length) (hcarries : carriesAt conf items j = true) :
    ∃ st ∈ statementAt conf items j, ⟨j, st⟩ ∈ w.executed := by
  have hget : items[j]? = some as[j] := by
    rw [hitems, List.getElem?_append_left hj, List.getElem?_eq_getElem hj]
  rw [carriesAt, hget] at hcarries
  obtain ⟨st, hst, hmem⟩ := h.all j as[j] (List.getElem?_eq_getElem hj) hcarries
  refine ⟨st, ?_, hmem⟩
  rw [Python.statementAt, hget]
  exact hst

lemma Executed.carriesAt (h : Executed conf as w) (hitems : items = as ++ bs) {e : Entry ν}
    (he : e ∈ w.executed) : carriesAt conf items e.pos = true := by
  obtain ⟨item, hitem, hst⟩ := h.only e he
  rw [Python.carriesAt, hitems, List.getElem?_append_left (h.pos_lt he), hitem]
  by_contra hcarries
  rw [Operation.statement_eq_none conf (Bool.eq_false_iff.mpr hcarries)] at hst
  cases hst

/-- One more operation, with its statement if it has one. -/
lemma Executed.concat (h : Executed conf as w)
    (heq : w'.executed =
      w.executed ++ ((item.operation.statement conf).map (Entry.mk as.length)).toList)
    (hst : item.operation.carries conf = true → (item.operation.statement conf).isSome = true) :
    Executed conf (as ++ [item]) w' where
  all := by
    intro i item' hi hcarries
    rw [heq]
    rcases Nat.lt_or_ge i as.length with hlt | hge
    · rw [List.getElem?_append_left hlt] at hi
      obtain ⟨st, hst', hmem⟩ := h.all i item' hi hcarries
      exact ⟨st, hst', List.mem_append_left _ hmem⟩
    · have hlt := (List.getElem?_eq_some_iff.mp hi).1
      rw [List.length_append, List.length_singleton] at hlt
      obtain rfl : i = as.length := Nat.le_antisymm (Nat.le_of_lt_succ hlt) hge
      obtain rfl : item = item' := by simpa using hi
      obtain ⟨st, hst'⟩ := Option.isSome_iff_exists.mp (hst hcarries)
      exact ⟨st, hst', by simp [hst']⟩
  only := by
    intro e he
    rw [heq] at he
    rcases List.mem_append.mp he with he | he
    · obtain ⟨item', hitem', hst'⟩ := h.only e he
      refine ⟨item', ?_, hst'⟩
      rw [List.getElem?_append_left (h.pos_lt he)]
      exact hitem'
    · obtain ⟨st, hst', rfl⟩ : ∃ st, item.operation.statement conf = some st ∧ ⟨as.length, st⟩ = e := by
        simpa [Option.mem_toList, Option.map_eq_some_iff] using he
      exact ⟨item, by simp, hst'⟩

end

/-! ### The invariant -/

/-- The property is about what is committed and what is written to disk only. -/
def Stable (G : Target ν → Prop) : Prop :=
  ∀ w w' : Target ν, w'.committed = w.committed → w'.gtidset = w.gtidset → G w → G w'

/-- The property is kept when everything executed for the operations `as` is committed. -/
def Commits (conf : Settings) (G : Target ν → Prop) (as : List (Item ν)) : Prop :=
  ∀ w w' : Target ν, G w → Executed conf as w' → w'.opened = [] →
    w.committed ⊆ w'.committed → w'.gtidset = w.gtidset → G w'

/-- After `n` operations received and the statements of `as` executed. -/
structure Tracks (conf : Settings) (G : Target ν → Prop) (as : List (Item ν)) (n : ℕ)
    (s : Sync ν) : Prop where
  always : Throughout G s.log
  received : s.target.received = n
  executed : Executed conf as s.target
  inTransaction : s.inTransaction = s.target.tx.isSome
  dmlCnt : s.dmlCnt = s.target.opened.length

/-- The fields the client does not touch. -/
def Sync.rest (s : Sync ν) : Sync ν := { s with inTransaction := false, dmlCnt := 0, log := [] }

section

variable {conf : Settings} {env : Env ν} {G : Target ν → Prop} {as : List (Item ν)} {n : ℕ}
  {s s' : Sync ν} {item : Item ν}

/-- Only the fields of the client and the log enter into the invariant. -/
lemma Tracks.congr (h : Tracks conf G as n s) (htx : s'.inTransaction = s.inTransaction)
    (hcnt : s'.dmlCnt = s.dmlCnt) (hlog : s'.log = s.log) : Tracks conf G as n s' where
  always := by rw [hlog]; exact h.always
  received := by rw [Sync.target, hlog]; exact h.received
  executed := by rw [Sync.target, hlog]; exact h.executed
  inTransaction := by rw [Sync.target, hlog, htx]; exact h.inTransaction
  dmlCnt := by rw [Sync.target, hlog, hcnt]; exact h.dmlCnt

lemma Tracks.holds (h : Tracks conf G as n s) : G s.target := h.always.last

/-- One more event of the log; what the client then knows is what the target then holds. -/
lemma Tracks.append {bs : List (Item ν)} {m : ℕ} {e : Event ν} (h : Tracks conf G as n s)
    (hlog : s'.log = s.log ++ [e]) (hG : G (s.target.after e))
    (hreceived : (s.target.after e).received = m) (hexecuted : Executed conf bs (s.target.after e))
    (htx : s'.inTransaction = (s.target.after e).tx.isSome)
    (hcnt : s'.dmlCnt = (s.target.after e).opened.length) : Tracks conf G bs m s' := by
  have htarget : s'.target = s.target.after e := by rw [Sync.target, hlog, replay_concat]
  constructor
  · rw [hlog]
    exact throughout_concat.mpr ⟨h.always, hG⟩
  · rw [htarget, hreceived]
  · rw [htarget]
    exact hexecuted
  · rw [htarget, htx]
  · rw [htarget, hcnt]

lemma Tracks.opened_of_not_inTransaction (h : Tracks conf G as n s)
    (htx : ¬ s.inTransaction = true) : s.target.opened = [] := by
  rw [h.inTransaction, Option.not_isSome_iff_eq_none] at htx
  rw [Target.opened, htx]
  rfl

lemma Tracks.dmlCnt_of_not_inTransaction (h : Tracks conf G as n s)
    (htx : ¬ s.inTransaction = true) : s.dmlCnt = 0 := by
  rw [h.dmlCnt, h.opened_of_not_inTransaction htx]
  rfl

lemma Tracks.opened_of_dmlCnt (h : Tracks conf G as n s) (hcnt : s.dmlCnt = 0) :
    s.target.opened = [] :=
  List.length_eq_zero_iff.mp (h.dmlCnt.symm.trans hcnt)

/-- An operation that has nothing to execute. -/
lemma Tracks.skip (h : Tracks conf G as n s) (hitem : item.operation.carries conf = false) :
    Tracks conf G (as ++ [item]) n s :=
  { h with
    executed := by
      refine h.executed.concat ?_ (fun hcarries => absurd hcarries (by simp [hitem]))
      rw [Operation.statement_eq_none conf hitem]
      exact (List.append_nil _).symm }

lemma Tracks.receive (h : Tracks conf G as n s) (hG : Stable G) (item : Item ν) :
    Tracks conf G as (n + 1) { s with log := s.log ++ [.receive item] } := by
  refine h.append rfl (hG s.target _ rfl rfl h.holds) ?_ (h.executed.congr rfl) h.inTransaction h.dmlCnt
  rw [Target.after, h.received]

/-! ### The client -/

lemma wp_call {c : Call ν} {Q : Unit → Sync ν → Prop} {E : Exception ν → Sync ν → Prop} :
    wp (MysqlClient.call env c) Q E s ↔
      if env s.log c then Q () { s with log := s.log ++ [.call c true] }
      else E (.refused c) { s with log := s.log ++ [.call c false] } := by
  cases h : env s.log c <;> simp [MysqlClient.call, emit, h]

/-- A call that is refused changes nothing. -/
lemma Tracks.refused (h : Tracks conf G as n s) (c : Call ν) :
    Tracks conf G as n { s with log := s.log ++ [.call c false] } := by
  have hafter : s.target.after (.call c false) = s.target := Target.after_refused _ _
  apply h.append rfl
  · rw [hafter]
    exact h.holds
  · rw [hafter, h.received]
  · rw [hafter]
    exact h.executed
  · rw [hafter]
    exact h.inTransaction
  · rw [hafter]
    exact h.dmlCnt

lemma Target.executed_of_opened {w : Target ν} (h : w.opened = []) : w.executed = w.committed := by
  rw [Target.executed, h, List.append_nil]

lemma Target.executed_commit (w : Target ν) : w.commit.executed = w.executed :=
  List.append_nil _

lemma Tracks.commit (h : Tracks conf G as n s) (hc : Commits conf G as) :
    Tracks conf G as n { s with
      inTransaction := false, dmlCnt := 0, log := s.log ++ [.call .commit true] } := by
  have hexecuted : Executed conf as s.target.commit :=
    h.executed.congr (Target.executed_commit _)
  refine h.append rfl ?_ h.received hexecuted rfl rfl
  exact hc _ _ h.holds hexecuted rfl (List.subset_append_left _ _) rfl

/-- A rollback with a count of zero loses nothing. -/
lemma Tracks.rollback (h : Tracks conf G as n s) (hG : Stable G) (hcnt : s.dmlCnt = 0) :
    Tracks conf G as n { s with
      inTransaction := false, dmlCnt := 0, log := s.log ++ [.call .rollback true] } := by
  refine h.append rfl (hG s.target _ rfl rfl h.holds) h.received (h.executed.congr ?_) rfl rfl
  rw [Target.executed_of_opened (h.opened_of_dmlCnt hcnt)]
  exact List.append_nil _

/-- Everything executed is committed then. -/
lemma Tracks.pushCommit (h : Tracks conf G as n s) (hG : Stable G) (hc : Commits conf G as) :
    wp (MysqlClient.pushCommit env)
      (fun _ s' => Tracks conf G as n s' ∧ s'.rest = s.rest ∧ s'.inTransaction = false)
      (fun _ s' => Tracks conf G as n s' ∧ s'.rest = s.rest) s := by
  simp only [MysqlClient.pushCommit, wp_bind, wp_get, wp_ite, wp_call, wp_modify]
  by_cases htx : s.inTransaction = true
  · rw [if_pos htx]
    split_ifs with hcnt henv henv
    · exact ⟨h.commit hc, rfl, trivial⟩
    · exact ⟨h.refused .commit, rfl⟩
    · exact ⟨h.rollback hG (by omega), rfl, trivial⟩
    · exact ⟨h.refused .rollback, rfl⟩
  · rw [if_neg htx]
    have hcnt := h.dmlCnt_of_not_inTransaction htx
    exact ⟨h.congr rfl hcnt.symm rfl, rfl, Bool.eq_false_iff.mpr htx⟩

/-- `START TRANSACTION` would commit what is open, but it is not sent then. -/
lemma Tracks.pushBegin (h : Tracks conf G as n s) (hG : Stable G) :
    wp (MysqlClient.pushBegin env)
      (fun _ s' => Tracks conf G as n s' ∧ s'.rest = s.rest ∧ s'.dmlCnt = s.dmlCnt)
      (fun _ s' => Tracks conf G as n s' ∧ s'.rest = s.rest) s := by
  simp only [MysqlClient.pushBegin, wp_bind, wp_get, wp_ite, wp_call, wp_modify, wp_pure]
  split_ifs with htx henv
  · exact ⟨h, trivial, trivial⟩
  · have hopened := h.opened_of_not_inTransaction htx
    have hcommitted := Target.executed_of_opened hopened
    refine ⟨?_, rfl, trivial⟩
    refine h.append rfl (hG _ _ hcommitted rfl h.holds) h.received (h.executed.congr ?_) rfl ?_
    · exact List.append_nil _
    · rw [h.dmlCnt, hopened]
      rfl
  · exact ⟨h.refused .startTransaction, rfl⟩

/-- A row statement that is executed. -/
lemma Tracks.pushDml (h : Tracks conf G as (as.length + 1) s) (hG : Stable G) {sqlText : String}
    {params : List ν} (hst : item.operation.statement conf = some (.dml sqlText params)) :
    wp (MysqlClient.pushDml env sqlText params)
      (fun _ s' => Tracks conf G (as ++ [item]) (as.length + 1) s' ∧ s'.rest = s.rest)
      (fun _ s' => Tracks conf G as (as.length + 1) s' ∧ s'.rest = s.rest) s := by
  simp only [MysqlClient.pushDml, wp_bind, wp_call, wp_modify]
  split_ifs with henv
  · refine ⟨h.append rfl (hG s.target _ rfl rfl h.holds) h.received (h.executed.concat ?_ ?_) rfl ?_, rfl⟩
    · rw [hst]
      show s.target.committed ++ (s.target.opened ++ [⟨s.target.received - 1, _⟩]) = _
      rw [h.received, ← List.append_assoc]
      rfl
    · rw [hst]
      exact fun _ => rfl
    · show s.dmlCnt + 1 = (s.target.opened ++ [_]).length
      rw [h.dmlCnt, List.length_append]
      rfl
  · exact ⟨h.refused _, rfl⟩

/-- Any other statement that is executed, when nothing is open. -/
lemma Tracks.nonDML (h : Tracks conf G as (as.length + 1) s) (htx : s.inTransaction = false)
    {sqlText : String} (hst : item.operation.statement conf = some (.nonDML sqlText))
    (hc : Commits conf G (as ++ [item])) :
    Tracks conf G (as ++ [item]) (as.length + 1) { s with
      log := s.log ++ [.call (.execute (.nonDML sqlText)) true] } := by
  have hopened := h.opened_of_not_inTransaction (Bool.eq_false_iff.mp htx)
  have hexecuted : Executed conf (as ++ [item])
      (s.target.after (.call (.execute (.nonDML sqlText)) true)) := by
    refine h.executed.concat ?_ (fun _ => by rw [hst]; rfl)
    rw [hst]
    show (s.target.executed ++ [⟨s.target.received - 1, _⟩]) ++ [] = _
    rw [h.received, List.append_nil]
    rfl
  refine h.append rfl ?_ h.received hexecuted htx ?_
  · refine hc _ _ h.holds hexecuted rfl ?_ rfl
    exact List.Subset.trans (List.subset_append_left _ _) (List.subset_append_left _ _)
  · rw [h.dmlCnt, hopened]
    rfl

end

end MysqlSync.Python
