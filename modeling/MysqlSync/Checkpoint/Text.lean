import MysqlSync.Checkpoint.Basic
import MysqlSync.Lib.Strings
import Mathlib.Data.Finset.Sort
import Mathlib.Data.String.Basic

/-!
# The GTID map as text

A GTID map is stored in Consul, sent to the server and configured as a range string, such as
`u:1-5,v:1-7`. The decoder undoes the encoder on the maps whose UUIDs hold neither a colon nor a
comma (`getGtidSetsMapFromGtidSetsRangeStr_range`), and it returns no other maps
(`separable_of_getGtidSetsMapFromGtidSetsRangeStr`). A process starts from the stored string or,
where that is absent or empty, from the configured one.
-/

namespace MysqlSync

open Strings

/-- The text of one entry; a missing key reads as zero. -/
def rangePart (gtidSetsMap : GtidSetsMap) (key : String) : String :=
  key ++ ":1-" ++ ((gtidSetsMap.lookup key).getD 0).toNat.repr

/-- The keys are sorted by their bytes, which orders valid text as the order of `String` does. -/
def getGtidSetsRangeStrFromGtidSetsMap (gtidSetsMap : GtidSetsMap) : String :=
  join (gtidSetsMap.keys.sort.map (rangePart gtidSetsMap)) ","

/-- One turn of the decoder's loop: the UUID and the number it sets. -/
def rangeEntry (part : String) : Except String (String × UInt64) :=
  match split part ':' with
  | [uuid, range] =>
    match split range '-' with
    | [_, last] =>
      match parseUint64 last with
      | some last => .ok (uuid, last)
      | none => .error ("invalid number in range: " ++ last)
    | _ => .error ("invalid range format, expected number-number but got " ++ range)
  | _ => .error ("invalid format, expected uuid:number-number but got " ++ part)

def setRange (result : GtidSetsMap) (part : String) : Except String GtidSetsMap :=
  (rangeEntry part).map fun entry => result.insert entry.1 entry.2

def getGtidSetsMapFromGtidSetsRangeStr (gtidSetsRangeStr : String) : Except String GtidSetsMap :=
  if gtidSetsRangeStr = "" then .ok ∅
  else (split gtidSetsRangeStr ',').foldlM setRange ∅

/-- Text without the separators of the range string. -/
def Separable (uuid : String) : Prop := ':' ∉ uuid.toList ∧ ',' ∉ uuid.toList

instance (uuid : String) : Decidable (Separable uuid) := inferInstanceAs (Decidable (_ ∧ _))

def GtidSetsMap.Separable (m : GtidSetsMap) : Prop := ∀ u ∈ m, MysqlSync.Separable u

/-! ### Decoding what was encoded -/

section

variable {m result : GtidSetsMap} {u : String}

lemma rangePart_eq (m : GtidSetsMap) (u : String) :
    rangePart m u = join [u, join ["1", ((m.lookup u).getD 0).toNat.repr] "-"] ":" := by
  rw [← String.toList_inj]
  simp [rangePart, join]

lemma notMem_toDigits {c : Char} (hc : c.isDigit = false) (n : ℕ) : c ∉ Nat.toDigits 10 n := by
  intro h
  rw [Nat.isDigit_of_mem_toDigits (by decide) (by decide) h] at hc
  cases hc

lemma rangeEntry_rangePart (hu : Separable u) :
    rangeEntry (rangePart m u) = .ok (u, (m.lookup u).getD 0) := by
  have hpair : split (rangePart m u) ':' =
      [u, join ["1", ((m.lookup u).getD 0).toNat.repr] "-"] := by
    rw [rangePart_eq]
    refine split_join rfl (by simp) ?_
    intro part hpart
    rcases List.mem_pair.mp hpart with rfl | rfl
    · exact hu.1
    · simp [join, notMem_toDigits (c := ':') rfl]
  have hrange : split (join ["1", ((m.lookup u).getD 0).toNat.repr] "-") '-' =
      ["1", ((m.lookup u).getD 0).toNat.repr] := by
    refine split_join rfl (by simp) ?_
    intro part hpart
    rcases List.mem_pair.mp hpart with rfl | rfl
    · decide
    · simp [notMem_toDigits (c := '-') rfl]
  rw [rangeEntry, hpair]
  simp only [hrange, parseUint64_repr]

lemma foldlM_setRange (us : List String) (hus : ∀ u ∈ us, Separable u) :
    (us.map (rangePart m)).foldlM setRange result =
      .ok (us.foldl (fun result u => result.insert u ((m.lookup u).getD 0)) result) := by
  induction us generalizing result with
  | nil => rfl
  | cons u us ih =>
    have hstep : setRange result (rangePart m u) =
        .ok (result.insert u ((m.lookup u).getD 0)) := by
      rw [setRange, rangeEntry_rangePart (hus u List.mem_cons_self)]
      rfl
    rw [List.map_cons, List.foldlM_cons, hstep]
    exact ih fun u' hu' => hus u' (List.mem_cons_of_mem u hu')

lemma lookup_foldl_insert (us : List String) (f : String → UInt64) (u : String) :
    (us.foldl (fun result u => result.insert u (f u)) result).lookup u =
      if u ∈ us then some (f u) else result.lookup u := by
  induction us generalizing result with
  | nil => simp
  | cons u' us ih =>
    rw [List.foldl_cons, ih]
    by_cases hmem : u ∈ us
    · simp [hmem]
    · by_cases hu : u = u'
      · subst hu
        simp [hmem]
      · simp [hmem, hu, Finmap.lookup_insert_of_ne _ hu]

lemma notMem_rangePart (hu : Separable u) : ',' ∉ (rangePart m u).toList := by
  simp [rangePart, hu.2, notMem_toDigits (c := ',') rfl]

lemma getGtidSetsRangeStrFromGtidSetsMap_ne_empty (hm : m.Separable) (hne : m ≠ ∅) :
    split (getGtidSetsRangeStrFromGtidSetsMap m) ',' = m.keys.sort.map (rangePart m) ∧
      getGtidSetsRangeStrFromGtidSetsMap m ≠ "" := by
  have hkeys : m.keys.sort ≠ [] := by
    intro hnil
    refine hne (Finmap.ext_lookup fun u => ?_)
    have hu : u ∉ m.keys := by
      rw [← Finset.mem_sort (· ≤ ·), hnil]
      exact List.not_mem_nil
    rw [Finmap.lookup_empty, Finmap.lookup_eq_none]
    exact fun h => hu (Finmap.mem_keys.mpr h)
  have hsplit : split (getGtidSetsRangeStrFromGtidSetsMap m) ',' =
      m.keys.sort.map (rangePart m) := by
    refine split_join rfl (by simpa using hkeys) ?_
    intro part hpart
    obtain ⟨u, hu, rfl⟩ := List.mem_map.mp hpart
    exact notMem_rangePart (hm u (Finmap.mem_keys.mp ((Finset.mem_sort (· ≤ ·)).mp hu)))
  refine ⟨hsplit, fun hempty => ?_⟩
  -- the empty text splits into one empty part, but a part holds at least `:1-`
  rw [hempty] at hsplit
  cases hk : m.keys.sort with
  | nil => exact hkeys hk
  | cons u us =>
    rw [hk, List.map_cons] at hsplit
    have hpart : rangePart m u = "" := (List.cons.inj hsplit).1.symm
    have htext := congrArg String.toList hpart
    simp [rangePart] at htext

/-- Decoding undoes encoding. -/
theorem getGtidSetsMapFromGtidSetsRangeStr_range (hm : m.Separable) :
    getGtidSetsMapFromGtidSetsRangeStr (getGtidSetsRangeStrFromGtidSetsMap m) = .ok m := by
  by_cases hne : m = ∅
  · subst hne
    simp [getGtidSetsRangeStrFromGtidSetsMap, getGtidSetsMapFromGtidSetsRangeStr, join]
  · obtain ⟨hsplit, htext⟩ := getGtidSetsRangeStrFromGtidSetsMap_ne_empty hm hne
    have hsep : ∀ u ∈ m.keys.sort, Separable u := fun u hu =>
      hm u (Finmap.mem_keys.mp ((Finset.mem_sort (· ≤ ·)).mp hu))
    rw [getGtidSetsMapFromGtidSetsRangeStr, if_neg htext, hsplit, foldlM_setRange _ hsep]
    refine congrArg Except.ok (Finmap.ext_lookup fun u => ?_)
    rw [lookup_foldl_insert]
    simp only [Finset.mem_sort, Finmap.mem_keys]
    split_ifs with hu
    · obtain ⟨n, hn⟩ := Finmap.mem_iff.mp hu
      simp [hn]
    · rw [Finmap.lookup_empty, Finmap.lookup_eq_none.mpr hu]

/-! ### What the decoder returns -/

lemma separable_of_rangeEntry {part : String} {entry : String × UInt64}
    (h : rangeEntry part = .ok entry) (hpart : ',' ∉ part.toList) : Separable entry.1 := by
  rw [rangeEntry] at h
  split at h
  · rename_i uuid range hsplit
    have hmem : uuid ∈ split part ':' := by simp [hsplit]
    obtain ⟨hcolon, hsub⟩ := notMem_and_subset_of_mem_split hmem
    have huuid : Separable uuid := ⟨hcolon, fun hc => hpart (hsub hc)⟩
    split at h
    · split at h
      · cases h
        exact huuid
      · cases h
    · cases h
  · cases h

lemma separable_of_foldlM {parts : List String} (hparts : ∀ part ∈ parts, ',' ∉ part.toList)
    (hresult : result.Separable) (h : parts.foldlM setRange result = .ok m) : m.Separable := by
  induction parts generalizing result with
  | nil =>
    cases h
    exact hresult
  | cons part parts ih =>
    rw [List.foldlM_cons] at h
    cases he : rangeEntry part with
    | error e => simp [setRange, he, Except.map, bind, Except.bind] at h
    | ok entry =>
      have hstep : setRange result part = .ok (result.insert entry.1 entry.2) := by
        rw [setRange, he]
        rfl
      rw [hstep] at h
      refine ih (fun part' hp => hparts part' (List.mem_cons_of_mem part hp)) ?_ h
      intro u hu
      rcases Finmap.mem_insert.mp hu with rfl | hu
      · exact separable_of_rangeEntry he (hparts part List.mem_cons_self)
      · exact hresult u hu

/-- The UUIDs of a decoded map hold neither a colon nor a comma. -/
theorem separable_of_getGtidSetsMapFromGtidSetsRangeStr {text : String}
    (h : getGtidSetsMapFromGtidSetsRangeStr text = .ok m) : m.Separable := by
  rw [getGtidSetsMapFromGtidSetsRangeStr] at h
  split_ifs at h
  · cases h
    intro u hu
    exact absurd hu Finmap.notMem_empty
  · refine separable_of_foldlM (fun part hpart => ?_) ?_ h
    · exact (notMem_and_subset_of_mem_split hpart).1
    · intro u hu
      exact absurd hu Finmap.notMem_empty

/-- A map comes back from its text exactly when its keys hold neither a colon nor a comma. They may
hold anything else, the hyphens of a UUID included, and the numbers may be any of 64 bits. -/
theorem range_roundTrip_iff (m : GtidSetsMap) :
    getGtidSetsMapFromGtidSetsRangeStr (getGtidSetsRangeStrFromGtidSetsMap m) = .ok m ↔
      m.Separable := by
  constructor
  · intro h
    exact separable_of_getGtidSetsMapFromGtidSetsRangeStr h
  · intro hm
    exact getGtidSetsMapFromGtidSetsRangeStr_range hm

end

/-! ### Starting from the stored map -/

namespace Checkpoint

def newCheckpoint : Checkpoint where
  gtidSetsMap := ∅
  binLogFile := ""
  binLogPos := 0

/-- The stored map; `p` is what reading the key returns, no value where it is absent. -/
def queryGtidSetsMapFromConsul (p : Except String (Option String)) : Except String GtidSetsMap :=
  match p with
  | .error err => .error err
  | .ok none => .ok ∅
  | .ok (some value) => getGtidSetsMapFromGtidSetsRangeStr value

/-- Take over the stored map, or the configured one where nothing is stored. -/
def initStartupGtidSetsMap (ckpt : Checkpoint) (p : Except String (Option String))
    (initGtidSetsRangeStr : String) : Except String Checkpoint :=
  match queryGtidSetsMapFromConsul p with
  | .error err => .error err
  | .ok stored =>
    if stored.keys.card = 0 then
      match getGtidSetsMapFromGtidSetsRangeStr initGtidSetsRangeStr with
      | .error err => .error err
      | .ok configured => .ok { ckpt with gtidSetsMap := configured ∪ ckpt.gtidSetsMap }
    else .ok { ckpt with gtidSetsMap := stored ∪ ckpt.gtidSetsMap }

section

variable {ckpt : Checkpoint} {p : Except String (Option String)} {init : String}

/-- A start takes over one map, which some text decodes to. It is the stored one unless that is
empty. -/
lemma exists_of_initStartupGtidSetsMap (h : newCheckpoint.initStartupGtidSetsMap p init = .ok ckpt) :
    (∃ text, getGtidSetsMapFromGtidSetsRangeStr text = .ok ckpt.gtidSetsMap) ∧
      ∀ value m, p = .ok (some value) → getGtidSetsMapFromGtidSetsRangeStr value = .ok m →
        m = ∅ ∨ ckpt.gtidSetsMap = m := by
  rw [initStartupGtidSetsMap] at h
  cases hq : queryGtidSetsMapFromConsul p with
  | error err =>
    rw [hq] at h
    cases h
  | ok stored =>
    simp only [hq] at h
    split_ifs at h with hcard
    · cases hinit : getGtidSetsMapFromGtidSetsRangeStr init with
      | error err =>
        rw [hinit] at h
        cases h
      | ok configured =>
        simp only [hinit, Except.ok.injEq] at h
        subst h
        refine ⟨⟨init, by simpa [newCheckpoint] using hinit⟩, ?_⟩
        rintro value m rfl hm
        obtain rfl : stored = m := by simpa [queryGtidSetsMapFromConsul, hm] using hq.symm
        refine .inl (Finmap.ext_lookup fun u => ?_)
        rw [Finmap.lookup_empty, Finmap.lookup_eq_none, ← Finmap.mem_keys,
          Finset.card_eq_zero.mp hcard]
        exact Finset.notMem_empty u
    · cases h
      rcases p with _ | _ | value
      · cases hq
      · cases hq
        exact absurd rfl hcard
      · have hvalue : getGtidSetsMapFromGtidSetsRangeStr value = .ok stored := hq
        refine ⟨⟨value, by simpa [newCheckpoint] using hvalue⟩, ?_⟩
        intro value' m hp hm
        cases hp
        have hsame : stored = m := Except.ok.inj (hvalue.symm.trans hm)
        exact .inr (by simpa [newCheckpoint] using hsame)

end

end Checkpoint

end MysqlSync
