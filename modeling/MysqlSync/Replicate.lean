import MysqlSync.Lib.Strings

/-!
# The replicate filter

Which databases and tables a destination applies, from the four comma-separated lists of its
configuration.
-/

namespace MysqlSync

open Strings

/-- The `replicate` section of a destination's configuration. -/
structure DestinationReplicateConfig where
  doDB : String
  ignoreDB : String
  doTable : String
  ignoreTable : String
  deriving DecidableEq, Repr

structure Replicate where
  doDBs : List String
  ignoreDBs : List String
  doTabs : List String
  ignoreTabs : List String
  deriving DecidableEq, Repr

def splitAndClean (s : String) : List String :=
  ((split s ',').map trimSpace).filter (· != "")

def contains (value : String) (list : List String) : Bool :=
  list.any fun v => trimSpace v == value

/-- The `mysql` system database is always ignored. -/
def newReplicateFilter (config : DestinationReplicateConfig) : Replicate where
  doDBs := splitAndClean config.doDB
  ignoreDBs := splitAndClean config.ignoreDB ++ ["mysql"]
  doTabs := splitAndClean config.doTable
  ignoreTabs := splitAndClean config.ignoreTable

def Replicate.filter (rf : Replicate) (db tab : String) : Bool :=
  let dbTabName := db ++ "." ++ tab
  if rf.ignoreTabs.length > 0 && contains dbTabName rf.ignoreTabs then false
  else if rf.ignoreDBs.length > 0 && contains db rf.ignoreDBs then false
  else if rf.doDBs.length > 0 && !contains db rf.doDBs then false
  else if rf.doTabs.length > 0 && !contains dbTabName rf.doTabs then false
  else true

@[simp] lemma contains_nil (value : String) : contains value [] = false := rfl

/-- Ignore lists come before do lists, and an empty do list admits everything. -/
lemma Replicate.filter_eq_true_iff (rf : Replicate) (db tab : String) :
    rf.filter db tab = true ↔
      contains (db ++ "." ++ tab) rf.ignoreTabs = false ∧ contains db rf.ignoreDBs = false ∧
      (rf.doDBs = [] ∨ contains db rf.doDBs = true) ∧
      (rf.doTabs = [] ∨ contains (db ++ "." ++ tab) rf.doTabs = true) := by
  simp only [Replicate.filter]
  rcases rf with ⟨_ | ⟨d, ds⟩, _ | ⟨i, is⟩, _ | ⟨t, ts⟩, _ | ⟨j, js⟩⟩ <;> simp

/-- The cleaned entries of a configured list never match the empty name. -/
lemma contains_empty_splitAndClean (s : String) : contains "" (splitAndClean s) = false := by
  simp only [contains, splitAndClean, List.any_eq_false, List.mem_filter, List.mem_map,
    bne_iff_ne, beq_iff_eq]
  rintro v ⟨⟨part, -, rfl⟩, hv⟩
  exact trimSpace_trimSpace_ne_empty hv

end MysqlSync
