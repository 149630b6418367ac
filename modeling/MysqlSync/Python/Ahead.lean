import Mathlib.Data.List.AList
import MysqlSync.Python.Loop

/-!
# Checkpoints and the target

`latest_gtidset` takes a transaction in at its GTID, before anything of it is executed. A set that
is written to disk later is true of the target only if, at the end of that turn, the transaction
under way has nothing left to execute and nothing is open (`Turn.Safe`). Where every checkpoint is
such, no set on disk is ever ahead of the target.
-/

namespace MysqlSync.Python

variable {ν : Type}

/-! ### Streams -/

inductive Phase where
  | between
  | started
  | inside
  deriving DecidableEq, Repr

/-- A transaction is a GTID with `BEGIN`, row changes and `COMMIT`, or with one other statement;
heartbeats come between transactions. -/
def Phase.next : Phase → Operation ν → Option Phase
  | .between, .heartbeat => some .between
  | .between, .gtid _ => some .started
  | .started, .begin => some .inside
  | .started, .nonDML _ => some .between
  | .inside, .dml _ => some .inside
  | .inside, .commit => some .between
  | _, _ => none

/-- A stream of such transactions, which may end in the middle of one. -/
def WellFormed (items : List (Item ν)) : Bool :=
  (items.foldlM (fun phase item => Phase.next phase item.operation) Phase.between).isSome

/-- The transaction the operation at position `j` belongs to, by the last GTID before it. -/
def transactionOf (items : List (Item ν)) (j : ℕ) : Option OperationGtid :=
  (items.take j).foldl (fun gtid item =>
    match item.operation with
    | .gtid operation => some operation
    | _ => gtid) none

def Gtidset.covers (gtidset : Gtidset) (operation : OperationGtid) : Bool :=
  match gtidset.lookup operation.serverUUID with
  | some xid => operation.xid ≤ xid
  | none => false

section

variable (conf : Settings)

/-- The positions of the operations to be executed for the transactions a set covers. -/
def covered (items : List (Item ν)) (gtidset : Gtidset) : List ℕ :=
  (List.range items.length).filter fun j =>
    carriesAt conf items j && (transactionOf items j).any gtidset.covers

/-- Every operation that the set on disk covers is committed. -/
def NeverAhead (items : List (Item ν)) (w : Target ν) : Prop :=
  ∀ gtidset ∈ w.gtidset, ∀ j ∈ covered conf items gtidset,
    ∃ st ∈ statementAt conf items j, ⟨j, st⟩ ∈ w.committed

/-- If a checkpoint is written in this turn, everything received is committed by then, and what is
still to come belongs to no transaction that is covered. -/
def Turn.Safe (env : Env ν) (items : List (Item ν)) (t : Turn ν) : Prop :=
  t.isDue conf = true → t.state.settles conf env t.item.operation = true ∧
    ∀ j ∈ covered conf items (t.state.gtidsetAfter t.item.operation), j ≤ t.pos

end

section

variable {conf : Settings} {env : Env ν} {items as bs : List (Item ν)} {item : Item ν}

lemma stable_neverAhead : Stable (NeverAhead conf items) := by
  intro w w' hcommitted hgtidset h gtidset hmem j hj
  rw [hgtidset] at hmem
  rw [hcommitted]
  exact h gtidset hmem j hj

/-- What is committed stays so, and commits write nothing to disk. -/
lemma commits_neverAhead : Commits conf (NeverAhead conf items) as := by
  intro w w' h _ _ hsubset hgtidset gtidset hmem j hj
  rw [hgtidset] at hmem
  obtain ⟨st, hst, hcommitted⟩ := h gtidset hmem j hj
  exact ⟨st, hst, hsubset hcommitted⟩

/-- A set whose operations are all among those executed, with nothing open. -/
lemma neverAhead_of_executed {w : Target ν} {gtidset : Gtidset}
    (hitems : items = as ++ bs) (h : Executed conf as w) (hopened : w.opened = [])
    (hcovered : ∀ j ∈ covered conf items gtidset, j < as.length) :
    NeverAhead conf items { w with gtidset := some gtidset } := by
  rintro _ ⟨⟩ j hj
  have hcarries : carriesAt conf items j = true := by
    have hj' := (List.mem_filter.mp hj).2
    rw [Bool.and_eq_true] at hj'
    exact hj'.1
  obtain ⟨st, hst, hmem⟩ := h.statementAt hitems (hcovered j hj) hcarries
  rw [Target.executed_of_opened hopened] at hmem
  exact ⟨st, hst, hmem⟩

lemma keeps_neverAhead {ts : List (Turn ν)} (h : ∀ t ∈ ts, t.Safe conf env items) :
    Keeps conf env items ts (NeverAhead conf items) where
  initial := nofun
  stable := stable_neverAhead
  flush _ _ _ _ _ := commits_neverAhead
  nonDML _ _ _ _ _ := commits_neverAhead
  finish := commits_neverAhead
  raised _ _ _ _ _ _ _ _ _ := commits_neverAhead
  checkpoint := by
    intro t ht as bs hitems hpos hdue w _ hsettled
    obtain ⟨hsettles, hcovered⟩ := h t ht hdue
    obtain ⟨hexecuted, hopened⟩ := hsettled hsettles
    have hitems' : items = (as ++ [t.item]) ++ bs := by
      rw [hitems, List.append_assoc, List.singleton_append]
    refine neverAhead_of_executed hitems' hexecuted hopened fun j hj => ?_
    have hle := hcovered j hj
    rw [List.length_append, List.length_singleton, hpos]
    omega

end

/-- If every checkpoint of a run is written when the transactions it covers are executed and
nothing is open, the set on disk is never ahead of the target, wherever the run is cut off. -/
theorem neverAhead_of_safe (conf : Settings) (env : Env ν) (items : List (Item ν)) (now : ℚ)
    (h : ∀ t ∈ Sync.turns conf env 0 items (newSync ν now), t.Safe conf env items) :
    ∀ log, log <+: (Sync.run conf env items (newSync ν now)).2.log →
      NeverAhead conf items (Target.replay log) :=
  Trace.always_iff_forall_isPrefix.mp (throughout_run (keeps_neverAhead h))

/-- An insert into `db.t`. -/
def insertRow (id : ℤ) : Operation ℤ :=
  .dml (.insert "db" "t" (AList.singleton "id" id) (.name "id"))

/-- Two transactions of one row each, with an interval of ten between the clock readings of the
first and of the second. -/
def twoTransactions (between : List (Item ℤ)) : List (Item ℤ) :=
  [⟨"bin.000001", 4, .gtid ⟨"u", 1, 1⟩, 0⟩, ⟨"bin.000001", 100, .begin, 0⟩,
    ⟨"bin.000001", 200, insertRow 1, 0⟩, ⟨"bin.000001", 300, .commit, 0⟩] ++ between ++
  [⟨"bin.000001", 400, .gtid ⟨"u", 2, 2⟩, 10⟩, ⟨"bin.000001", 500, .begin, 10⟩,
    ⟨"bin.000001", 600, insertRow 2, 10⟩, ⟨"bin.000001", 700, .commit, 10⟩]

def twoHeartbeats : List (Item ℤ) :=
  [⟨"bin.000001", 400, .heartbeat, 5⟩, ⟨"bin.000001", 400, .heartbeat, 10⟩]

def merging : Settings := ⟨true, 10, ∅⟩

instance {ν : Type} [DecidableEq ν] (conf : Settings) (items : List (Item ν)) (w : Target ν) :
    Decidable (NeverAhead conf items w) :=
  inferInstanceAs (Decidable (∀ gtidset ∈ w.gtidset, ∀ j ∈ covered conf items gtidset,
    ∃ st ∈ statementAt conf items j, ⟨j, st⟩ ∈ w.committed))

instance {ν : Type} (conf : Settings) (env : Env ν) (items : List (Item ν)) (t : Turn ν) :
    Decidable (t.Safe conf env items) :=
  inferInstanceAs (Decidable (t.isDue conf = true → _ ∧ ∀ j ∈ covered conf items _, j ≤ t.pos))

/-- Two heartbeats between the transactions flush the first, and the checkpoint that is due then
covers what is committed. -/
theorem neverAhead_twoHeartbeats :
    (Target.replay (Sync.run merging (fun _ _ => true) (twoTransactions twoHeartbeats)
      (newSync ℤ 0)).2.log).gtidset = some (Finmap.insert "u" 1 ∅) ∧
    ∀ log, log <+: (Sync.run merging (fun _ _ => true) (twoTransactions twoHeartbeats)
      (newSync ℤ 0)).2.log →
      NeverAhead merging (twoTransactions twoHeartbeats) (Target.replay log) :=
  ⟨by decide +kernel, neverAhead_of_safe _ _ _ _ (by decide +kernel)⟩

/-- Without them the GTID of the second transaction flushes the first, and the checkpoint that is
due in the same turn covers the second, of which nothing has been executed. -/
theorem not_neverAhead_twoTransactions :
    WellFormed (twoTransactions []) = true ∧
    ∃ log, log <+: (Sync.run merging (fun _ _ => true) (twoTransactions []) (newSync ℤ 0)).2.log ∧
      ¬ NeverAhead merging (twoTransactions []) (Target.replay log) := by
  refine ⟨by decide +kernel, (Sync.run merging (fun _ _ => true) (twoTransactions [])
    (newSync ℤ 0)).2.log.take 11, List.take_prefix _ _, by decide +kernel⟩

end MysqlSync.Python
