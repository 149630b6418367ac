import MysqlSync.Lib.Trace
import MysqlSync.Applier.Basic

/-!
# What a log has brought about

`World` is what an outside observer holds after a log: how many operations were received, which
statements the destination has committed, which it holds in an open transaction, and what was last
written to Consul. It is a function of the log alone, so it also says what is left after a crash
at any point of the log.
-/

namespace MysqlSync

/-- A data statement sent to the destination: the position in the stream of the operation it was
built for, and the reply it got. -/
structure Entry where
  pos : ℕ
  statement : Statement
  reply : Reply
  deriving DecidableEq

structure World where
  received : ℕ
  committed : List Entry
  /-- The statements executed in the open transaction, if there is one. -/
  tx : Option (List Entry)
  gtidsets : Option GtidSetsMap
  binlogpos : Option (String × UInt32)
  deriving DecidableEq

namespace World

def initial : World where
  received := 0
  committed := []
  tx := none
  gtidsets := none
  binlogpos := none

/-- The effect of one event. Calls that fail leave the destination and Consul as they are; a
statement that fails is still recorded with its reply in the open transaction. -/
def after (w : World) : Event → World
  | .receive _ => { w with received := w.received + 1 }
  | .call .begin .ok => { w with tx := some [] }
  | .call (.exec st) r =>
    if st.isData then { w with tx := w.tx.map (· ++ [⟨w.received - 1, st, r⟩]) } else w
  | .call .commit .ok => { w with committed := w.committed ++ w.tx.getD [], tx := none }
  | .call .rollback .ok => { w with tx := none }
  | .call (.putGtidsets m) .ok => { w with gtidsets := some m }
  | .call (.putBinlogpos f p) .ok => { w with binlogpos := some (f, p) }
  | _ => w

/-- The statements executed in the open transaction. -/
def opened (w : World) : List Entry := w.tx.getD []

/-- The statements committed, followed by those executed in the open transaction. -/
def executed (w : World) : List Entry := w.committed ++ w.opened

def replay (log : List Event) : World := log.foldl after initial

lemma replay_append (l₁ l₂ : List Event) : replay (l₁ ++ l₂) = l₂.foldl after (replay l₁) :=
  List.foldl_append ..

variable (w : World)

@[simp] lemma after_receive (oper : MysqlOperation) :
    w.after (.receive oper) = { w with received := w.received + 1 } := rfl

@[simp] lemma after_begin : w.after (.call .begin .ok) = { w with tx := some [] } := rfl

@[simp] lemma after_begin_of_ne {r : Reply} (hr : r ≠ .ok) : w.after (.call .begin r) = w := by
  cases r <;> first | exact absurd rfl hr | rfl

@[simp] lemma after_setSession (n v : String) (r : Reply) :
    w.after (.call (.exec (.setSession n v)) r) = w := by
  simp [after, Statement.isData]

@[simp] lemma after_use (s : String) (r : Reply) : w.after (.call (.exec (.use s)) r) = w := by
  simp [after, Statement.isData]

@[simp] lemma after_dml (q : Query) (r : Reply) :
    w.after (.call (.exec (.dml q)) r) =
      { w with tx := w.tx.map (· ++ [⟨w.received - 1, .dml q, r⟩]) } := by
  simp [after, Statement.isData]

@[simp] lemma after_nonDML (q : String) (r : Reply) :
    w.after (.call (.exec (.nonDML q)) r) =
      { w with tx := w.tx.map (· ++ [⟨w.received - 1, .nonDML q, r⟩]) } := by
  simp [after, Statement.isData]

@[simp] lemma after_commit :
    w.after (.call .commit .ok) =
      { w with committed := w.committed ++ w.tx.getD [], tx := none } := rfl

@[simp] lemma after_commit_of_ne {r : Reply} (hr : r ≠ .ok) : w.after (.call .commit r) = w := by
  cases r <;> first | exact absurd rfl hr | rfl

/-- A rollback ends the transaction or, if it fails, does nothing. -/
lemma after_rollback (r : Reply) :
    w.after (.call .rollback r) = { w with tx := if r = .ok then none else w.tx } := by
  cases r <;> rfl

lemma after_putGtidsets (m : GtidSetsMap) (r : Reply) :
    w.after (.call (.putGtidsets m) r) =
      { w with gtidsets := if r = .ok then some m else w.gtidsets } := by
  cases r <;> rfl

lemma after_putBinlogpos (f : String) (p : UInt32) (r : Reply) :
    w.after (.call (.putBinlogpos f p) r) =
      { w with binlogpos := if r = .ok then some (f, p) else w.binlogpos } := by
  cases r <;> rfl

end World

/-- What the log of the applier has brought about. -/
abbrev MysqlApplier.world (ma : MysqlApplier) : World := World.replay ma.log

lemma MysqlApplier.world_emit (ma : MysqlApplier) (l : List Event) :
    (ma.emit l).world = l.foldl World.after ma.world :=
  World.replay_append ..

/-- `G` holds after every prefix of the log: however the run is cut. -/
def Throughout (G : World → Prop) (log : List Event) : Prop :=
  Trace.Always World.after G World.initial log

section

variable {G : World → Prop} {log events : List Event}

lemma throughout_append : Throughout G (log ++ events) ↔
    Throughout G log ∧ Trace.Always World.after G (World.replay log) events :=
  Trace.always_append

/-- One more event. -/
lemma throughout_concat {e : Event} :
    Throughout G (log ++ [e]) ↔ Throughout G log ∧ G (World.replay (log ++ [e])) := by
  rw [throughout_append, World.replay_append]
  constructor
  · rintro ⟨h, -, he⟩
    exact ⟨h, he⟩
  · rintro ⟨h, he⟩
    exact ⟨h, h.last, he⟩

lemma throughout_iff_forall_isPrefix :
    Throughout G log ↔ ∀ p, p <+: log → G (World.replay p) :=
  Trace.always_iff_forall_isPrefix

end

end MysqlSync
