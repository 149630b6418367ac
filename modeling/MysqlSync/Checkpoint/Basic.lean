import Mathlib.Data.Finmap
import Mathlib.Tactic.Common

/-!
# Checkpoints

The GTID map of a destination, the checkpoint it is part of, and the merge of several
destinations' maps into the point the extractor starts from.

A map of the source is a finite map. Where the code ranges over one, the model takes the map as
an association list without repeated keys: the entries in the order the iteration happens to
visit them.
-/

namespace MysqlSync

/-- The last transaction number of each server UUID. -/
abbrev GtidSetsMap : Type := Finmap fun _ : String => UInt64

/-- A GTID map together with an order in which its entries are visited. -/
abbrev GtidSetsEntries : Type := AList fun _ : String => UInt64

structure Checkpoint where
  gtidSetsMap : GtidSetsMap
  binLogFile : String
  binLogPos : UInt32
  deriving DecidableEq

namespace Checkpoint

/-- A missing UUID is reported as `none`, the source's second result `false`. -/
def getTrxIdOfServerUUID (ckpt : Checkpoint) (serverUUID : String) : Option UInt64 :=
  ckpt.gtidSetsMap.lookup serverUUID

def setTrxIdOfServerUUID (ckpt : Checkpoint) (serverUUID : String) (trxID : UInt64) :
    Checkpoint :=
  { ckpt with gtidSetsMap := ckpt.gtidSetsMap.insert serverUUID trxID }

def setBinlogPos (ckpt : Checkpoint) (binlogfile : String) (binlogpos : UInt32) : Checkpoint :=
  { ckpt with binLogFile := binlogfile, binLogPos := binlogpos }

@[simp] lemma setTrxIdOfServerUUID_gtidSetsMap (ckpt : Checkpoint) (u : String) (n : UInt64) :
    (ckpt.setTrxIdOfServerUUID u n).gtidSetsMap = ckpt.gtidSetsMap.insert u n := rfl

end Checkpoint

/-- Whether the set of transactions a map stands for contains number `n` of server `u`. -/
def GtidSetsMap.Covers (m : GtidSetsMap) (u : String) (n : UInt64) : Prop :=
  ∃ last, m.lookup u = some last ∧ n ≤ last

instance (m : GtidSetsMap) (u : String) (n : UInt64) : Decidable (m.Covers u n) :=
  match h : m.lookup u with
  | none => .isFalse fun ⟨last, h', _⟩ => Option.some_ne_none last (h'.symm.trans h)
  | some last =>
    decidable_of_iff (n ≤ last)
      ⟨fun hle => ⟨last, h, hle⟩, fun ⟨_, h', hle⟩ => Option.some.inj (h.symm.trans h') ▸ hle⟩

/-- The last number a map holds for a UUID, as a natural number; nothing applied is `0`. -/
def GtidSetsMap.last (m : GtidSetsMap) (u : String) : ℕ :=
  (m.lookup u).elim 0 UInt64.toNat

/-! ### The common start point -/

/-- One entry of the inner loop of `mergeGtidSetss`. -/
def mergeEntry (gssout : GtidSetsMap) (entry : Σ _ : String, UInt64) : GtidSetsMap :=
  match gssout.lookup entry.1 with
  | some currentTrx => if entry.2 < currentTrx then gssout.insert entry.1 entry.2 else gssout
  | none => gssout.insert entry.1 entry.2

/-- The outer loop of `mergeGtidSetss`, with `gssout` merged so far. -/
def mergeGtidSetssFrom (gssout : GtidSetsMap) : List GtidSetsEntries → GtidSetsMap
  | [] => gssout
  | gss :: gsss =>
    -- the early return: an empty map discards everything merged so far
    if gss.entries.length = 0 then ∅
    else mergeGtidSetssFrom (gss.entries.foldl mergeEntry gssout) gsss

def mergeGtidSetss (gsss : List GtidSetsEntries) : GtidSetsMap :=
  mergeGtidSetssFrom ∅ gsss

end MysqlSync
