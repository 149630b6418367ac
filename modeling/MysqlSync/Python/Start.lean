import MysqlSync.Python.Basic
import MysqlSync.Python.Dump

/-!
# The start of the synchroniser

A process starts from the configured set of transactions, raised to what `ckpt.json` has for each
server, and asks the source for what is not in it. While it runs it writes `ckpt.gtidset.json`, and
no process reads that file: whatever earlier processes did, the next one asks for what the first
one asked for, from the first transaction of each server to the last number written for it in the
configuration (`requested_of_lives`).
-/

namespace MysqlSync.Python

open Checked

/-! ### Integers -/

/-- The code points of the zeros, each of which is followed by the digits up to nine. -/
def zeros : List ℕ :=
  [0x30, 0x660, 0x6f0, 0x7c0, 0x966, 0x9e6, 0xa66, 0xae6, 0xb66, 0xbe6, 0xc66, 0xce6, 0xd66, 0xde6,
    0xe50, 0xed0, 0xf20, 0x1040, 0x1090, 0x17e0, 0x1810, 0x1946, 0x19d0, 0x1a80, 0x1a90, 0x1b50,
    0x1bb0, 0x1c40, 0x1c50, 0xa620, 0xa8d0, 0xa900, 0xa9d0, 0xa9f0, 0xaa50, 0xabf0, 0xff10,
    0x104a0, 0x10d30, 0x11066, 0x110f0, 0x11136, 0x111d0, 0x112f0, 0x11450, 0x114d0, 0x11650,
    0x116c0, 0x11730, 0x118e0, 0x11950, 0x11c50, 0x11d50, 0x11da0, 0x16a60, 0x16ac0, 0x16b50,
    0x1d7ce, 0x1d7d8, 0x1d7e2, 0x1d7ec, 0x1d7f6, 0x1e140, 0x1e2f0, 0x1e950, 0x1fbf0]

def digitValue (c : Char) : Option ℕ :=
  (zeros.find? fun z => z ≤ c.toNat ∧ c.toNat < z + 10).map (c.toNat - ·)

/-- Digits, with at most one underscore between two of them, after the number `n`. -/
def digits (n : ℕ) (afterDigit : Bool) : List Char → Option ℕ
  | [] => if afterDigit then some n else none
  | c :: cs =>
    if c = '_' ∧ afterDigit then digits n false cs
    else (digitValue c).bind fun d => digits (10 * n + d) true cs

/-- The conversion of a text to an integer, between white space. -/
def int (text : String) : Option ℤ :=
  match (Strings.trimSpace text).toList with
  | '-' :: cs => (digits 0 false cs).map fun n => -Int.ofNat n
  | '+' :: cs => (digits 0 false cs).map Int.ofNat
  | cs => (digits 0 false cs).map Int.ofNat

example : int " 1_0\n" = some 10 ∧ int "+7" = some 7 ∧ int "1__0" = none ∧ int "" = none := by
  decide

/-! ### The configured set -/

/-- An entry with the value of its key set. -/
def putValue {ν : Type} (key : String) (value : ν) (entry : Σ _ : String, ν) : Σ _ : String, ν :=
  if entry.1 = key then ⟨key, value⟩ else entry

lemma fst_putValue {ν : Type} (key : String) (value : ν) (entry : Σ _ : String, ν) :
    (putValue key value entry).1 = entry.1 := by
  rw [putValue]
  split_ifs with h
  · exact h.symm
  · rfl

/-- Set the value of a key; a new key comes last. -/
def Dict.setItem {ν : Type} (d : Dict ν) (key : String) (value : ν) : Dict ν :=
  if h : key ∈ d then ⟨d.entries.map (putValue key value), by
    have hkeys : Sigma.fst ∘ putValue key value = Sigma.fst := funext (fst_putValue key value)
    rw [List.NodupKeys, List.keys, List.map_map, hkeys]
    exact d.nodupKeys⟩
  else ⟨d.entries ++ [⟨key, value⟩], by
    rw [List.nodupKeys_middle, List.append_nil, List.nodupKeys_cons]
    exact ⟨h, d.nodupKeys⟩⟩

/-- What stops a process before it asks for the binlog. -/
inductive StartError where
  | valueError (literal : String)
  | wire (error : WireError)
  deriving DecidableEq, Repr

namespace Checkpoint

/-- The last number of the text of one server. -/
def lastNumber (last : String) : String :=
  if '-' ∈ last.toList then (Strings.split last '-').getLastD "" else last

/-- An integer, or the exception of a text that is none. -/
def toInt (literal : String) : Except StartError ℤ :=
  (int literal).elim (.error (.valueError literal)) .ok

def setEntry (gtidset : Dict ℤ) (part : String) : Except StartError (Dict ℤ) :=
  let gtidsetf := Strings.split part ':'
  (toInt (lastNumber (gtidsetf.getLastD ""))).map (gtidset.setItem (gtidsetf.headD ""))

def formatGtidset (gtidsets : String) : Except StartError (Dict ℤ) :=
  (Strings.split gtidsets ',').foldlM setEntry ∅

def raiseTo (start : Dict ℤ) (entry : Σ _ : String, ℤ) : Dict ℤ :=
  match start.lookup entry.1 with
  | some xid => start.setItem entry.1 (max xid entry.2)
  | none => start.setItem entry.1 entry.2

def rangeText (entry : Σ _ : String, ℤ) : String := entry.1 ++ ":1-" ++ entry.2.repr

def startText (start : Dict ℤ) : String := Strings.join (start.entries.map rangeText) ", "

/-- The configured set, raised to what the file `ckpt.json` has if there is one. -/
def raised (ckptJson : Option (Dict ℤ)) (start : Dict ℤ) : Dict ℤ :=
  match ckptJson with
  | some gtidset => gtidset.entries.foldl raiseTo start
  | none => start

def getCheckpointGtidset (ckptJson : Option (Dict ℤ)) (gtidset : String) :
    Except StartError String :=
  (formatGtidset gtidset).map fun start => startText (raised ckptJson start)

end Checkpoint

/-! ### The files -/

/-- The files of the working directory that the program reads or writes: `ckpt.json`,
`ckpt.gtidset.json` and `ckpt.logposition.txt`. -/
structure Directory where
  ckptJson : Option (Dict ℤ)
  ckptGtidsetJson : Option Gtidset
  ckptLogpositionTxt : Option (String × ℕ)

variable {ν : Type}

/-- What an event leaves in the files. -/
def Directory.after (dir : Directory) : Event ν → Directory
  | .call (.persistCheckpointGtidset gtidset) true => { dir with ckptGtidsetJson := some gtidset }
  | .call (.persistCheckpointPosition logFile logPos) true =>
    { dir with ckptLogpositionTxt := some (logFile, logPos) }
  | _ => dir

/-- A process that is stopped after some events of its run. -/
structure Life (ν : Type) where
  conf : Settings
  env : Env ν
  items : List (Item ν)
  now : ℚ
  events : ℕ

def Life.log (life : Life ν) : List (Event ν) :=
  (Sync.run life.conf life.env life.items (newSync ν life.now)).2.log.take life.events

def Directory.afterLives (dir : Directory) (lives : List (Life ν)) : Directory :=
  lives.foldl (fun dir life => life.log.foldl Directory.after dir) dir

/-- What a process that starts in the directory sends to the source. -/
def Directory.request (dir : Directory) (blocking : Bool) (serverId : ℤ) (gtidset : String) :
    Except StartError (List UInt8) := do
  let autoPosition ← Checkpoint.getCheckpointGtidset dir.ckptJson gtidset
  (dumpGtid blocking serverId autoPosition).mapError .wire

/-- No process writes the file that it reads at the start. -/
lemma ckptJson_afterLives (dir : Directory) (lives : List (Life ν)) :
    (dir.afterLives lives).ckptJson = dir.ckptJson := by
  have hafter (dir : Directory) (e : Event ν) : (dir.after e).ckptJson = dir.ckptJson := by
    unfold Directory.after
    split <;> rfl
  have hlog (dir : Directory) (log : List (Event ν)) :
      (log.foldl Directory.after dir).ckptJson = dir.ckptJson := by
    induction log generalizing dir with
    | nil => rfl
    | cons e log ih => rw [List.foldl_cons, ih, hafter]
  induction lives generalizing dir with
  | nil => rfl
  | cons life lives ih =>
    rw [Directory.afterLives, List.foldl_cons]
    exact (ih _).trans (hlog dir life.log)

/-! ### The entries of the set -/

namespace Checkpoint

/-- A text without the spaces and newlines before it. -/
def lstrip (text : String) : String :=
  String.ofList (text.toList.dropWhile (· ∈ [' ', '\n']))

/-- A key that can stand in a list of ranges, with a number from zero on. -/
def Plain (entry : Σ _ : String, ℤ) : Prop := MysqlSync.Separable entry.1 ∧ 0 ≤ entry.2

section

variable {d start gtidset : Dict ℤ} {key text part : String} {value : ℤ}

lemma mem_entries_setItem {entry : Σ _ : String, ℤ} :
    entry ∈ (d.setItem key value).entries ↔
      entry = ⟨key, value⟩ ∨ entry ∈ d.entries ∧ entry.1 ≠ key := by
  rw [Dict.setItem]
  split_ifs with hmem
  · simp only [List.mem_map, putValue]
    constructor
    · rintro ⟨old, hold, rfl⟩
      split_ifs with hkey
      · exact Or.inl rfl
      · exact Or.inr ⟨hold, hkey⟩
    · rintro (rfl | ⟨hentry, hkey⟩)
      · obtain ⟨old, hold, hkey⟩ := List.mem_map.mp hmem
        exact ⟨old, hold, if_pos hkey⟩
      · exact ⟨entry, hentry, if_neg hkey⟩
  · rw [List.mem_append, List.mem_singleton, or_comm]
    refine or_congr_right ⟨fun hentry => ⟨hentry, ?_⟩, And.left⟩
    rintro rfl
    exact hmem (List.mem_map_of_mem hentry)

/-- A text without a hyphen is no negative number. -/
lemma int_nonneg (hnot : '-' ∉ text.toList) (h : int text = some value) : 0 ≤ value := by
  rw [int] at h
  split at h
  · rename_i cs htrim
    have hmem : '-' ∈ (Strings.trimSpace text).toList := by
      rw [htrim]
      exact List.mem_cons_self
    exact absurd (Strings.mem_of_mem_trimBy hmem) hnot
  · obtain ⟨n, -, rfl⟩ := Option.map_eq_some_iff.mp h
    exact Int.natCast_nonneg _
  · obtain ⟨n, -, rfl⟩ := Option.map_eq_some_iff.mp h
    exact Int.natCast_nonneg _

lemma int_of_toInt (h : toInt text = .ok value) : int text = some value := by
  rw [toInt] at h
  cases hint : int text with
  | none => simp [hint] at h
  | some n => simpa [hint] using h

lemma notMem_lastNumber (last : String) : '-' ∉ (lastNumber last).toList := by
  rw [lastNumber]
  split_ifs with hmem
  · have hne : Strings.split last '-' ≠ [] := by
      obtain ⟨first, second, rest, hsplit⟩ := Strings.exists_split_of_mem hmem
      rw [hsplit]
      exact List.cons_ne_nil _ _
    rw [List.getLastD_eq_getLast?, List.getLast?_eq_some_getLast hne, Option.getD_some]
    exact (Strings.notMem_and_subset_of_mem_split (List.getLast_mem hne)).1
  · exact hmem

/-- A part without a comma sets one value. -/
lemma exists_of_setEntry (hpart : ',' ∉ part.toList) (h : setEntry d part = .ok start) :
    ∃ key value, start = d.setItem key value ∧ Plain ⟨key, value⟩ := by
  have hkey : MysqlSync.Separable ((Strings.split part ':').headD "") := by
    cases hsplit : Strings.split part ':' with
    | nil => exact ⟨by simp, by simp⟩
    | cons first rest =>
      have hfirst : first ∈ Strings.split part ':' := by
        rw [hsplit]
        exact List.mem_cons_self
      obtain ⟨hcolon, hsub⟩ := Strings.notMem_and_subset_of_mem_split hfirst
      exact ⟨hcolon, fun hcomma => hpart (hsub hcomma)⟩
  simp only [setEntry, map_eq_ok_iff] at h
  obtain ⟨value, hvalue, rfl⟩ := h
  refine ⟨_, value, rfl, hkey, ?_⟩
  exact int_nonneg (notMem_lastNumber _) (int_of_toInt hvalue)

lemma plain_of_setEntry (hd : ∀ entry ∈ d.entries, Plain entry) (hpart : ',' ∉ part.toList)
    (h : setEntry d part = .ok start) :
    start.entries ≠ [] ∧ ∀ entry ∈ start.entries, Plain entry := by
  obtain ⟨key, value, rfl, hplain⟩ := exists_of_setEntry hpart h
  refine ⟨List.ne_nil_of_mem (mem_entries_setItem.mpr (Or.inl rfl)), fun entry hentry => ?_⟩
  rcases mem_entries_setItem.mp hentry with rfl | ⟨hentry, -⟩
  · exact hplain
  · exact hd entry hentry

lemma plain_of_formatGtidset (h : formatGtidset text = .ok start) :
    start.entries ≠ [] ∧ ∀ entry ∈ start.entries, Plain entry := by
  have hparts : ∀ part ∈ Strings.split text ',', ',' ∉ part.toList := fun part hpart =>
    (Strings.notMem_and_subset_of_mem_split hpart).1
  rw [formatGtidset] at h
  cases hsplit : Strings.split text ',' with
  | nil => exact absurd (List.map_eq_nil_iff.mp hsplit) (List.splitOn_ne_nil _ _)
  | cons first rest =>
    rw [hsplit] at h hparts
    obtain ⟨hfirst, hrest⟩ := List.forall_mem_cons.mp hparts
    obtain ⟨d, hd, h⟩ := foldlM_cons_eq_ok_iff.mp h
    refine invariant_of_foldlM
      (I := fun d : Dict ℤ => d.entries ≠ [] ∧ ∀ entry ∈ d.entries, Plain entry)
      (fun d hd part hpart _ => plain_of_setEntry hd.2 (hrest part hpart)) ?_ h
    exact plain_of_setEntry (by simp) hfirst hd

/-- The transactions up to the number of an entry. -/
def upTo (entry : Σ _ : String, ℤ) : Set (String × ℤ) :=
  {t | toLower (lstrip entry.1) = t.1 ∧ 1 ≤ t.2 ∧ t.2 ≤ entry.2}

def allUpTo (d : Dict ℤ) : Set (String × ℤ) := ⋃ entry ∈ d.entries, upTo entry

lemma allUpTo_setItem (h : ∀ value', ⟨key, value'⟩ ∈ d.entries → value' ≤ value) :
    allUpTo (d.setItem key value) = allUpTo d ∪ upTo ⟨key, value⟩ := by
  ext t
  simp only [allUpTo, Set.mem_iUnion, exists_prop, Set.mem_union]
  constructor
  · rintro ⟨entry, hentry, ht⟩
    rcases mem_entries_setItem.mp hentry with rfl | ⟨hentry, -⟩
    · exact Or.inr ht
    · exact Or.inl ⟨entry, hentry, ht⟩
  · rintro (⟨entry, hentry, ht⟩ | ht)
    · by_cases hkey : entry.1 = key
      · -- its number is raised
        obtain ⟨key', value'⟩ := entry
        obtain rfl : key' = key := hkey
        exact ⟨⟨key', value⟩, mem_entries_setItem.mpr (Or.inl rfl), ht.1, ht.2.1,
          ht.2.2.trans (h value' hentry)⟩
      · exact ⟨entry, mem_entries_setItem.mpr (Or.inr ⟨hentry, hkey⟩), ht⟩
    · exact ⟨_, mem_entries_setItem.mpr (Or.inl rfl), ht⟩

lemma upTo_max (key : String) (a b : ℤ) : upTo ⟨key, max a b⟩ = upTo ⟨key, a⟩ ∪ upTo ⟨key, b⟩ := by
  ext t
  simp only [upTo, Set.mem_ofPred_eq, Set.mem_union, le_max_iff]
  tauto

/-- Raising a set adds what is asked for, and nothing else. -/
lemma raiseTo_spec (hd : ∀ entry ∈ d.entries, Plain entry) {entry : Σ _ : String, ℤ}
    (hentry : Plain entry) :
    (∀ e ∈ (raiseTo d entry).entries, Plain e) ∧
      allUpTo (raiseTo d entry) = allUpTo d ∪ upTo entry := by
  obtain ⟨key, xid⟩ := entry
  have hset {value : ℤ} (hvalue : Plain ⟨key, value⟩) :
      ∀ e ∈ (d.setItem key value).entries, Plain e := by
    intro e he
    rcases mem_entries_setItem.mp he with rfl | ⟨he, -⟩
    · exact hvalue
    · exact hd e he
  rw [raiseTo]
  cases hlookup : d.lookup key with
  | none =>
    refine ⟨hset hentry, allUpTo_setItem fun value' hmem => ?_⟩
    rw [AList.mem_lookup_iff.mpr hmem] at hlookup
    cases hlookup
  | some xid' =>
    have hmem : (⟨key, xid'⟩ : Σ _ : String, ℤ) ∈ d.entries := AList.mem_lookup_iff.mp hlookup
    refine ⟨hset ⟨hentry.1, le_max_of_le_right hentry.2⟩, ?_⟩
    rw [allUpTo_setItem, upTo_max, ← Set.union_assoc]
    · congr 1
      refine Set.union_eq_left.mpr fun t ht => ?_
      exact Set.mem_biUnion hmem ht
    · intro value' hmem'
      rw [AList.mem_lookup_iff.mpr hmem'] at hlookup
      rw [Option.some.inj hlookup]
      exact le_max_left _ _

lemma raiseTo_ne_nil (d : Dict ℤ) (entry : Σ _ : String, ℤ) : (raiseTo d entry).entries ≠ [] := by
  rw [raiseTo]
  cases d.lookup entry.1 with
  | none => exact List.ne_nil_of_mem (mem_entries_setItem.mpr (Or.inl rfl))
  | some xid => exact List.ne_nil_of_mem (mem_entries_setItem.mpr (Or.inl rfl))

lemma foldl_raiseTo_spec {entries : List (Σ _ : String, ℤ)} (hentries : ∀ e ∈ entries, Plain e)
    (hne : d.entries ≠ []) (hd : ∀ e ∈ d.entries, Plain e) :
    (entries.foldl raiseTo d).entries ≠ [] ∧ (∀ e ∈ (entries.foldl raiseTo d).entries, Plain e) ∧
      allUpTo (entries.foldl raiseTo d) = allUpTo d ∪ ⋃ e ∈ entries, upTo e := by
  induction entries generalizing d with
  | nil => exact ⟨hne, hd, by simp⟩
  | cons entry entries ih =>
    obtain ⟨hentry, hentries⟩ := List.forall_mem_cons.mp hentries
    obtain ⟨hplain, hall⟩ := raiseTo_spec hd hentry
    obtain ⟨hne', hplain', hall'⟩ := ih hentries (raiseTo_ne_nil d entry) hplain
    refine ⟨hne', hplain', ?_⟩
    rw [List.foldl_cons, hall', hall, Set.union_assoc]
    congr 1
    ext t
    simp

/-! ### The text and the set -/

lemma toList_rangeText (entry : Σ _ : String, ℤ) : (rangeText entry).toList =
    entry.1.toList ++ ':' :: (['1', '-'] ++ entry.2.repr.toList) := by
  simp [rangeText]

/-- The object of one entry. -/
def rangeGtid (entry : Σ _ : String, ℤ) : Gtid := ⟨lstrip entry.1, [(1, entry.2 + 1)]⟩

section

variable {entry : Σ _ : String, ℤ} {s : GtidSet}

lemma isDigit_of_mem_repr {c : Char} (h : Plain entry) (hc : c ∈ entry.2.repr.toList) :
    c.isDigit = true := by
  obtain ⟨n, hn⟩ := Int.eq_ofNat_of_zero_le h.2
  rw [hn] at hc
  exact Strings.isDigit_of_mem_repr hc

lemma repr_ne_nil (h : Plain entry) : entry.2.repr.toList ≠ [] := by
  obtain ⟨n, hn⟩ := Int.eq_ofNat_of_zero_le h.2
  rw [hn, Ne, ← String.toList_empty, String.toList_inj]
  exact Strings.repr_ne_empty n

lemma strip_rangeText {pad : String} (hpad : ∀ c ∈ pad.toList, c ∈ [' ', '\n'])
    (h : Plain entry) : GtidSet.strip (pad ++ rangeText entry) =
      lstrip entry.1 ++ ":" ++ Strings.join [Gtid.pairText (1, entry.2)] ":" := by
  have hlast : (['1', '-'] ++ entry.2.repr.toList).rdropWhile (· ∈ [' ', '\n']) =
      ['1', '-'] ++ entry.2.repr.toList := by
    rw [List.rdropWhile_eq_self_iff]
    intro hne hspace
    rw [List.getLast_append_of_ne_nil _ (repr_ne_nil h), decide_eq_true_eq, List.mem_pair] at hspace
    have hdigit := isDigit_of_mem_repr h (List.getLast_mem (repr_ne_nil h))
    rcases hspace with hspace | hspace <;> rw [hspace] at hdigit <;> cases hdigit
  have htext : pad ++ rangeText entry = String.ofList ((pad.toList ++ entry.1.toList) ++
      ':' :: (['1', '-'] ++ entry.2.repr.toList)) := by
    rw [← String.toList_inj, String.toList_append, toList_rangeText, String.toList_ofList,
      List.append_assoc]
  rw [GtidSet.strip, htext, Strings.trimBy_append (by decide) hlast,
    List.dropWhile_append_of_pos fun c hc => by simpa using hpad c hc, ← String.toList_inj]
  simp [lstrip, Strings.join, Gtid.pairText]
  rfl

lemma notMem_lstrip {c : Char} {text : String} (h : c ∉ text.toList) :
    c ∉ (lstrip text).toList := by
  rw [lstrip, String.toList_ofList]
  exact fun hmem => h ((List.dropWhile_sublist _).subset hmem)

lemma denotes_rangeText (h : Plain entry) :
    Gtid.Denotes (Gtid.pairText (1, entry.2)) (1, entry.2 + 1) := by
  have hprintable : Gtid.Printable (1, entry.2 + 1) :=
    ⟨zero_le_one, le_add_of_nonneg_left h.2⟩
  simpa using Gtid.denotes_pairText hprintable

lemma withoutNewline_rangeText (h : Plain entry) :
    Gtid.withoutNewline (lstrip entry.1 ++ ":" ++ Strings.join [Gtid.pairText (1, entry.2)] ":") =
      lstrip entry.1 ++ ":" ++ Strings.join [Gtid.pairText (1, entry.2)] ":" := by
  have htext : (lstrip entry.1 ++ ":" ++
      Strings.join [Gtid.pairText (1, entry.2)] ":").toList =
        ((lstrip entry.1).toList ++ [':', '1', '-']) ++ entry.2.repr.toList := by
    simp [Strings.join, Gtid.pairText]
    rfl
  rw [Gtid.withoutNewline, if_neg]
  rw [htext, List.getLast?_append_of_ne_nil _ (repr_ne_nil h)]
  intro hnewline
  have hdigit := isDigit_of_mem_repr h (List.mem_of_getLast? hnewline)
  cases hdigit

lemma split_rangeText (h : Plain entry) :
    Strings.split (lstrip entry.1 ++ ":" ++ Strings.join [Gtid.pairText (1, entry.2)] ":") ':' =
      [lstrip entry.1, Gtid.pairText (1, entry.2)] := by
  rw [← Strings.join_cons (List.cons_ne_nil _ _), Strings.split_join rfl (List.cons_ne_nil _ _)]
  refine List.forall_mem_cons.mpr ⟨notMem_lstrip h.1.1, List.forall_mem_singleton.mpr ?_⟩
  exact Gtid.notMem_of_isIntervalText (denotes_rangeText h).isIntervalText rfl (by decide)

/-- The text of an entry is accepted exactly if its key is a UUID. -/
lemma new_rangeText_iff {g : Gtid} (h : Plain entry) :
    Gtid.new (lstrip entry.1 ++ ":" ++ Strings.join [Gtid.pairText (1, entry.2)] ":") = .ok g ↔
      IsUUID (lstrip entry.1) ∧ g = rangeGtid entry := by
  have haccepted (huuid : IsUUID (lstrip entry.1)) :
      Gtid.new (lstrip entry.1 ++ ":" ++ Strings.join [Gtid.pairText (1, entry.2)] ":") =
        .ok (rangeGtid entry) := by
    have hparse := Gtid.parse_text (l := [(1, entry.2 + 1)])
      (f := fun _ => Gtid.pairText (1, entry.2)) huuid (List.cons_ne_nil _ _)
      (List.forall_mem_singleton.mpr (denotes_rangeText h))
    refine Gtid.new_of_spaced hparse ⟨?_, List.pairwise_singleton _ _⟩
    exact List.forall_mem_singleton.mpr (by have := h.2; simpa using this)
  constructor
  · intro hnew
    obtain ⟨itvls, hparse, -⟩ := Gtid.new_eq_ok hnew
    obtain ⟨rest, hsplit⟩ := Gtid.exists_split_of_parse hparse
    rw [withoutNewline_rangeText h, split_rangeText h] at hsplit
    have huuid : IsUUID (lstrip entry.1) := by
      rw [(List.cons.inj hsplit).1]
      exact (Gtid.parse_eq_ok hparse).1
    exact ⟨huuid, Except.ok.inj (hnew.symm.trans (haccepted huuid))⟩
  · rintro ⟨huuid, rfl⟩
    exact haccepted huuid

lemma new_padded_iff {pad : String} (hpad : ∀ c ∈ pad.toList, c ∈ [' ', '\n']) (h : Plain entry)
    {g : Gtid} : Gtid.new (GtidSet.strip (pad ++ rangeText entry)) = .ok g ↔
      IsUUID (lstrip entry.1) ∧ g = rangeGtid entry := by
  rw [strip_rangeText hpad h, new_rangeText_iff h]

lemma mapM_padded_iff {entries : List (Σ _ : String, ℤ)} (h : ∀ e ∈ entries, Plain e)
    {gtids : List Gtid} :
    (entries.map fun e => " " ++ rangeText e).mapM (fun x => Gtid.new (GtidSet.strip x)) =
        .ok gtids ↔
      (∀ e ∈ entries, IsUUID (lstrip e.1)) ∧ gtids = entries.map rangeGtid := by
  have hspace : ∀ c ∈ (" " : String).toList, c ∈ [' ', '\n'] := by simp
  rw [mapM_eq_ok_iff]
  induction entries generalizing gtids with
  | nil => simp
  | cons entry entries ih =>
    obtain ⟨hentry, h⟩ := List.forall_mem_cons.mp h
    rw [List.map_cons, List.forall₂_cons_left_iff, List.forall_mem_cons, List.map_cons]
    simp only [new_padded_iff hspace hentry, ih h]
    constructor
    · rintro ⟨g, gs, ⟨huuid, rfl⟩, ⟨huuids, rfl⟩, rfl⟩
      exact ⟨⟨huuid, huuids⟩, rfl⟩
    · rintro ⟨⟨huuid, huuids⟩, rfl⟩
      exact ⟨_, _, ⟨huuid, rfl⟩, ⟨huuids, rfl⟩, rfl⟩

lemma notMem_rangeText (h : Plain entry) : ',' ∉ (rangeText entry).toList := by
  rw [toList_rangeText]
  intro hmem
  simp only [List.mem_append, List.mem_cons, List.not_mem_nil, or_false] at hmem
  rcases hmem with hmem | hmem | (hmem | hmem) | hmem
  · exact h.1.2 hmem
  · exact absurd hmem (by decide)
  · exact absurd hmem (by decide)
  · exact absurd hmem (by decide)
  · have hdigit := isDigit_of_mem_repr h hmem
    cases hdigit

/-- The text at the start is a set exactly if all its keys are UUIDs. -/
lemma new_startText_iff (hne : d.entries ≠ []) (h : ∀ e ∈ d.entries, Plain e) :
    GtidSet.new (startText d) = .ok s ↔
      (∀ e ∈ d.entries, IsUUID (lstrip e.1)) ∧ s = ⟨d.entries.map rangeGtid⟩ := by
  rw [startText]
  obtain ⟨entry, entries, hcons⟩ := List.exists_cons_of_ne_nil hne
  rw [hcons] at h ⊢
  obtain ⟨hentry, hentries⟩ := List.forall_mem_cons.mp h
  have hjoin : Strings.join ((entry :: entries).map rangeText) ", " =
      Strings.join (rangeText entry :: entries.map fun e => " " ++ rangeText e) "," := by
    rw [List.map_cons, show ", " = "," ++ " " from rfl, Strings.join_append, List.map_map]
    rfl
  have hsplit : Strings.split (Strings.join ((entry :: entries).map rangeText) ", ") ',' =
      rangeText entry :: entries.map fun e => " " ++ rangeText e := by
    rw [hjoin, Strings.split_join rfl (List.cons_ne_nil _ _)]
    refine List.forall_mem_cons.mpr ⟨notMem_rangeText hentry, ?_⟩
    rw [List.forall_mem_map]
    intro e he
    rw [String.toList_append, List.mem_append, not_or]
    exact ⟨by decide, notMem_rangeText (hentries e he)⟩
  have hempty : Strings.join ((entry :: entries).map rangeText) ", " ≠ "" := by
    intro hempty
    have hone : Strings.split "" ',' = [""] := by decide
    rw [hempty, hone] at hsplit
    have hlist := congrArg String.toList (List.cons.inj hsplit).1
    rw [toList_rangeText] at hlist
    simp at hlist
  have hhead {g : Gtid} : Gtid.new (GtidSet.strip (rangeText entry)) = .ok g ↔
      IsUUID (lstrip entry.1) ∧ g = rangeGtid entry := by
    have hpad : Gtid.new (GtidSet.strip ("" ++ rangeText entry)) = .ok g ↔
        IsUUID (lstrip entry.1) ∧ g = rangeGtid entry := new_padded_iff (by simp) hentry
    rwa [String.empty_append] at hpad
  rw [GtidSet.new, if_neg hempty, hsplit, map_eq_ok_iff, List.forall_mem_cons]
  simp only [List.mapM_cons, bind_eq_ok_iff, hhead, mapM_padded_iff hentries]
  constructor
  · rintro ⟨gtids, ⟨g, ⟨huuid, rfl⟩, gs, ⟨huuids, rfl⟩, hgtids⟩, rfl⟩
    rw [← Except.ok.inj hgtids]
    exact ⟨⟨huuid, huuids⟩, rfl⟩
  · rintro ⟨⟨huuid, huuids⟩, rfl⟩
    exact ⟨_, ⟨_, ⟨huuid, rfl⟩, _, ⟨huuids, rfl⟩, rfl⟩, rfl⟩

lemma transactions_rangeGtids (d : Dict ℤ) :
    (⟨d.entries.map rangeGtid⟩ : GtidSet).lower.transactions = allUpTo d := by
  ext t
  simp only [GtidSet.transactions, GtidSet.lower, List.map_map, List.mem_map, allUpTo,
    Set.mem_iUnion, exists_prop, Set.mem_ofPred_eq]
  constructor
  · rintro ⟨g, ⟨entry, hentry, rfl⟩, hsid, hk⟩
    obtain ⟨i, hi, hk⟩ := hk
    rw [List.mem_singleton.mp hi] at hk
    exact ⟨entry, hentry, hsid, hk.1, Int.lt_add_one_iff.mp hk.2⟩
  · rintro ⟨entry, hentry, hsid, hk, hle⟩
    refine ⟨_, ⟨entry, hentry, rfl⟩, hsid, ?_⟩
    exact ⟨(1, entry.2 + 1), List.mem_singleton_self _, hk, Int.lt_add_one_iff.mpr hle⟩

/-- What the file `ckpt.json` adds to the configured set. -/
def fileUpTo : Option (Dict ℤ) → Set (String × ℤ)
  | some gtidset => allUpTo gtidset
  | none => ∅

lemma raised_spec {ckptJson : Option (Dict ℤ)} (hfile : ∀ g ∈ ckptJson, ∀ e ∈ g.entries, Plain e)
    (hne : start.entries ≠ []) (hstart : ∀ e ∈ start.entries, Plain e) :
    (raised ckptJson start).entries ≠ [] ∧ (∀ e ∈ (raised ckptJson start).entries, Plain e) ∧
      allUpTo (raised ckptJson start) = allUpTo start ∪ fileUpTo ckptJson := by
  cases ckptJson with
  | none => exact ⟨hne, hstart, by simp [raised, fileUpTo]⟩
  | some gtidset => exact foldl_raiseTo_spec (hfile gtidset rfl) hne hstart

end

end

end Checkpoint

/-- Whatever processes ran before, what is asked for is what is not in the configured set, filled up
from the first transaction of each server, nor in the file that no process writes. -/
theorem requested_of_lives (dir : Directory) (lives : List (Life ν)) (blocking : Bool)
    (serverId : ℤ) (gtidset : String) (bytes : List UInt8)
    (hfile : ∀ g ∈ dir.ckptJson, ∀ e ∈ g.entries, Checkpoint.Plain e)
    (h : (dir.afterLives lives).request blocking serverId gtidset = .ok bytes) :
    dir.request blocking serverId gtidset = .ok bytes ∧
    ∃ start dump, Checkpoint.formatGtidset gtidset = .ok start ∧ readDump bytes = .ok dump ∧
      dump.gtidSet.transactions =
        Checkpoint.allUpTo start ∪ Checkpoint.fileUpTo dir.ckptJson := by
  have hsame : dir.request blocking serverId gtidset = .ok bytes := by
    rwa [Directory.request, ckptJson_afterLives] at h
  obtain ⟨text, htext, hdump⟩ := bind_eq_ok_iff.mp hsame
  obtain ⟨start, hstart, rfl⟩ := map_eq_ok_iff.mp htext
  obtain ⟨hne, hplain⟩ := Checkpoint.plain_of_formatGtidset hstart
  obtain ⟨hne, hplain, hall⟩ := Checkpoint.raised_spec hfile hne hplain
  obtain ⟨s, hnew, hread⟩ := readDump_of_dumpGtid (mapError_eq_ok_iff.mp hdump)
  obtain ⟨-, rfl⟩ := (Checkpoint.new_startText_iff hne hplain).mp hnew
  exact ⟨hsame, start, _, hstart, hread, (Checkpoint.transactions_rangeGtids _).trans hall⟩

/-- A process that commits transaction 11 and writes the checkpoint behind it. -/
def writesCheckpoint : Life ℤ where
  conf := ⟨true, 1, ∅⟩
  env := fun _ _ => true
  items :=
    [⟨"bin.000001", 4, .gtid ⟨"19d69c1e-ae97-4b8c-a1ef-9e12ba966457", 11, 0⟩, 0⟩,
     ⟨"bin.000001", 4, .begin, 0⟩,
     ⟨"bin.000001", 4, .dml (.insert "db" "t" (AList.singleton "id" 1) (.name "id")), 0⟩,
     ⟨"bin.000001", 4, .commit, 0⟩,
     ⟨"bin.000001", 4, .heartbeat, 1⟩,
     ⟨"bin.000001", 4, .heartbeat, 2⟩]
  now := 0
  events := 12

/-- The transactions 4 to 7 are not in the configured set, and the source is told that they are.
Transaction 11 is asked for by the next process too, although it is in the checkpoint. -/
theorem requested_of_lives_gap :
    (((⟨none, none, none⟩ : Directory).afterLives [writesCheckpoint]).ckptGtidsetJson.map
        fun gtidset => gtidset.lookup "19d69c1e-ae97-4b8c-a1ef-9e12ba966457") = some (some 11) ∧
    ∃ bytes dump, ((⟨none, none, none⟩ : Directory).afterLives [writesCheckpoint]).request true 1
        "19d69c1e-ae97-4b8c-a1ef-9e12ba966457:1-3:8-10" = .ok bytes ∧
      readDump bytes = .ok dump ∧
      ("19d69c1e-ae97-4b8c-a1ef-9e12ba966457", (5 : ℤ)) ∈ dump.gtidSet.transactions ∧
      ("19d69c1e-ae97-4b8c-a1ef-9e12ba966457", (11 : ℤ)) ∉ dump.gtidSet.transactions := by
  have hok : ((⟨none, none, none⟩ : Directory).request true 1
      "19d69c1e-ae97-4b8c-a1ef-9e12ba966457:1-3:8-10").isOk = true := by decide +kernel
  have hformat : (Checkpoint.formatGtidset "19d69c1e-ae97-4b8c-a1ef-9e12ba966457:1-3:8-10").map
      AList.entries = .ok [⟨"19d69c1e-ae97-4b8c-a1ef-9e12ba966457", 10⟩] := by decide +kernel
  have hkey : toLower (Checkpoint.lstrip "19d69c1e-ae97-4b8c-a1ef-9e12ba966457") =
      "19d69c1e-ae97-4b8c-a1ef-9e12ba966457" := by decide +kernel
  refine ⟨by decide +kernel, ?_⟩
  rw [Directory.request, ckptJson_afterLives, ← Directory.request]
  cases hrequest : (⟨none, none, none⟩ : Directory).request true 1
      "19d69c1e-ae97-4b8c-a1ef-9e12ba966457:1-3:8-10" with
  | error e =>
    rw [hrequest] at hok
    cases hok
  | ok bytes =>
    have hlife : ((⟨none, none, none⟩ : Directory).afterLives [writesCheckpoint]).request true 1
        "19d69c1e-ae97-4b8c-a1ef-9e12ba966457:1-3:8-10" = .ok bytes := by
      rw [Directory.request, ckptJson_afterLives]
      exact hrequest
    obtain ⟨-, start, dump, hstart, hdump, htransactions⟩ :=
      requested_of_lives _ _ _ _ _ _ (by simp) hlife
    rw [hstart] at hformat
    have hentries : start.entries = [⟨"19d69c1e-ae97-4b8c-a1ef-9e12ba966457", 10⟩] :=
      Except.ok.inj hformat
    refine ⟨bytes, dump, rfl, hdump, ?_⟩
    rw [htransactions, Checkpoint.allUpTo, hentries]
    refine ⟨Or.inl (Set.mem_biUnion (List.mem_singleton_self _) ⟨hkey, by decide, by decide⟩), ?_⟩
    have hnot : ("19d69c1e-ae97-4b8c-a1ef-9e12ba966457", (11 : ℤ)) ∉
        Checkpoint.upTo ⟨"19d69c1e-ae97-4b8c-a1ef-9e12ba966457", 10⟩ :=
      fun h => absurd h.2.2 (by decide)
    simpa [Checkpoint.fileUpTo] using hnot

end MysqlSync.Python
