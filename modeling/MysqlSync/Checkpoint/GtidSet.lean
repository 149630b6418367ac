import MysqlSync.Checkpoint.Text
import MysqlSync.Lib.Intervals

/-!
# GTID sets as an operator writes them

The start string of the configuration is often copied from `gtid_executed`, a text with a grammar
of its own: items of a UUID and its intervals, with white space around them and a UUID named as
often as one likes. `parseGtidSet` reads that grammar, and `denoted` is the set of GTIDs it stands
for. The decoder of range strings reads a smaller language, takes the number after the hyphen for
all of an item and keeps the last item of a UUID as it is spelled. What it returns is the set that
was written exactly when the items of each UUID fill the range from one to the end of the last of
them (`understood_iff`).
-/

namespace MysqlSync

open Strings

/-! ### The sets of the server -/

/-- A UUID in lower case with the intervals written after it. -/
structure GtidItem where
  uuid : String
  intervals : List (ℕ × ℕ)
  deriving DecidableEq, Repr

/-- The digits and hyphens of a UUID, in either case. -/
def uuidChars : List Char := "0123456789abcdefABCDEF-".toList

/-- The text form of a UUID. -/
def IsUUID (s : String) : Prop :=
  s.toList.all (· ∈ uuidChars) ∧ (split s '-').map String.length = [8, 4, 4, 4, 12]

instance (s : String) : Decidable (IsUUID s) := inferInstanceAs (Decidable (_ ∧ _))

def toLower (s : String) : String := String.ofList (s.toList.map Char.toLower)

def parseNumeral (s : String) : Option ℕ := if s = "" then none else digitsFrom 0 s.toList

/-- An interval `n` or `n-n`, which starts at one or later. It may be empty. -/
def parseInterval (s : String) : Option (ℕ × ℕ) :=
  match split s '-' with
  | [n] => (parseNumeral n).bind fun n => if 1 ≤ n then some (n, n) else none
  | [start, stop] => (parseNumeral start).bind fun start => (parseNumeral stop).bind fun stop =>
      if 1 ≤ start then some (start, stop) else none
  | _ => none

def parseItem (part : String) : Option GtidItem :=
  match split (trimSpace part) ':' with
  | uuid :: interval :: intervals =>
    if IsUUID uuid then
      ((interval :: intervals).mapM parseInterval).map fun intervals => ⟨toLower uuid, intervals⟩
    else none
  | _ => none

/-- The items of a GTID set. -/
def parseGtidSet (text : String) : Option (List GtidItem) :=
  if trimSpace text = "" then some [] else (split text ',').mapM parseItem

/-- The GTIDs of the items, those of one UUID united. -/
def denoted (items : List GtidItem) : Set (String × ℕ) :=
  {gtid | ∃ item ∈ items, item.uuid = gtid.1 ∧ Intervals.Covers item.intervals gtid.2}

/-- The GTIDs a map stands for. -/
def GtidSetsMap.gtids (m : GtidSetsMap) : Set (String × ℕ) :=
  {gtid | 1 ≤ gtid.2 ∧ gtid.2 ≤ m.last gtid.1}

/-- A result of the decoder does justice to the set: it is a map that stands for the same GTIDs, and
it is an error if no map does. -/
def Understood (items : List GtidItem) (result : Except String GtidSetsMap) : Prop :=
  (∀ m, result = .ok m → denoted items = m.gtids) ∧
    ((∀ m : GtidSetsMap, denoted items ≠ m.gtids) → ∃ err, result = .error err)

/-! ### What the decoder sees -/

/-- An item with one interval, as it is spelled. -/
structure Written where
  uuid : String
  start : ℕ
  stop : UInt64
  deriving DecidableEq, Repr

def writtenItem (part : String) : Option Written :=
  match split part ':' with
  | [uuid, range] =>
    match split range '-' with
    | [start, stop] => (parseNumeral start).bind fun start => (parseUint64 stop).map fun stop =>
        ⟨uuid, start, stop⟩
    | _ => none
  | _ => none

/-- The items of a text that consists of such items. -/
def written (text : String) : Option (List Written) :=
  if text = "" then some [] else (split text ',').mapM writtenItem

/-- A UUID in the spelling of the server: lower case, without white space before it. -/
def canonical (uuid : String) : String :=
  toLower (String.ofList (uuid.toList.dropWhile isSpace))

/-- The end of the last item with this spelling of the UUID. -/
def lastStop (l : List Written) (uuid : String) : ℕ :=
  ((l.filter fun w => w.uuid = uuid).getLast?.map fun w => w.stop.toNat).getD 0

/-- The intervals of all items of a UUID, however it is spelled. -/
def intervalsOf (l : List Written) (uuid : String) : List (ℕ × ℕ) :=
  (l.filter fun w => canonical w.uuid = uuid).map fun w => (w.start, w.stop.toNat)

/-- The items say what the decoder takes them to say: another spelling of a UUID ends at nothing,
and the intervals of a UUID fill the range from one to the end of its last item. -/
structure Plainly (l : List Written) : Prop where
  spelling : ∀ w ∈ l, canonical w.uuid ≠ w.uuid → lastStop l w.uuid = 0
  fills : ∀ w ∈ l, Intervals.Fills (intervalsOf l (canonical w.uuid)) (lastStop l (canonical w.uuid))

instance (l : List Written) : Decidable (Plainly l) :=
  decidable_of_iff ((∀ w ∈ l, canonical w.uuid ≠ w.uuid → lastStop l w.uuid = 0) ∧
      ∀ w ∈ l, Intervals.Fills (intervalsOf l (canonical w.uuid)) (lastStop l (canonical w.uuid)))
    ⟨fun h => ⟨h.1, h.2⟩, fun h => ⟨h.spelling, h.fills⟩⟩

/-! ### Reading one item -/

section

variable {part text : String} {w : Written} {item : GtidItem} {l : List Written}

lemma writtenItem_eq_some (h : writtenItem part = some w) :
    ∃ range start stop, split part ':' = [w.uuid, range] ∧ split range '-' = [start, stop] ∧
      parseNumeral start = some w.start ∧ parseUint64 stop = some w.stop := by
  rw [writtenItem] at h
  split at h
  · rename_i uuid range hpart
    split at h
    · rename_i start stop hrange
      obtain ⟨n, hn, hstop⟩ := Option.bind_eq_some_iff.mp h
      obtain ⟨e, he, rfl⟩ := Option.map_eq_some_iff.mp hstop
      exact ⟨range, start, stop, hpart, hrange, hn, he⟩
    · cases h
  · cases h

/-- The decoder takes the end of the item. -/
lemma rangeEntry_of_writtenItem (h : writtenItem part = some w) :
    rangeEntry part = .ok (w.uuid, w.stop) := by
  obtain ⟨range, start, stop, hpart, hrange, -, hstop⟩ := writtenItem_eq_some h
  simp only [rangeEntry, hpart, hrange, hstop]

lemma parseUint64_eq_some {s : String} {n : UInt64} (h : parseUint64 s = some n) :
    parseNumeral s = some n.toNat := by
  rw [parseUint64] at h
  rw [parseNumeral]
  split_ifs at h ⊢ with hs
  obtain ⟨k, hk, hlt⟩ := Option.bind_eq_some_iff.mp h
  split_ifs at hlt with hk64
  obtain rfl := Option.some.inj hlt
  rw [hk, UInt64.toNat_ofNat_of_lt' hk64]

/-- The server's reading of an item that the decoder can read: only white space before the item is
there to be trimmed. -/
lemma split_trimSpace {uuid range start stop : String} {n : UInt64}
    (hpart : split part ':' = [uuid, range]) (hrange : split range '-' = [start, stop])
    (hstop : parseUint64 stop = some n) :
    split (trimSpace part) ':' = [String.ofList (uuid.toList.dropWhile isSpace), range] := by
  have hnot : ':' ∉ uuid.toList ∧ ':' ∉ range.toList := by
    constructor
    · exact (notMem_and_subset_of_mem_split (hpart ▸ List.mem_cons_self)).1
    · exact (notMem_and_subset_of_mem_split
        (hpart ▸ List.mem_cons_of_mem _ (List.mem_singleton_self range))).1
  have htext : part = String.ofList (uuid.toList ++ ':' :: range.toList) := by
    rw [← toList_of_split_eq hpart, String.ofList_toList]
  -- the item ends in a digit
  have hend : range.toList.rdropWhile isSpace = range.toList := by
    have hnum := parseUint64_eq_some hstop
    rw [parseNumeral] at hnum
    split_ifs at hnum with hne
    have hne' : stop.toList ≠ [] := fun hnil => hne (String.toList_inj.mp (by simpa using hnil))
    rw [List.rdropWhile_eq_self_iff, toList_of_split_eq hrange]
    intro _
    rw [List.getLast_append_of_ne_nil _ (List.cons_ne_nil _ _), List.getLast_cons hne',
      isSpace_of_isDigit (isDigit_of_digitsFrom hnum _ (List.getLast_mem hne'))]
    exact Bool.false_ne_true
  rw [htext, trimSpace_append (by decide) hend, split_ofList ?_ hnot.2, String.ofList_toList]
  exact fun hmem => hnot.1 ((List.dropWhile_sublist isSpace).subset hmem)

lemma parseItem_eq_some {uuid range start stop : String} {n : UInt64}
    (hpart : split part ':' = [uuid, range]) (hrange : split range '-' = [start, stop])
    (hstop : parseUint64 stop = some n) (hitem : parseItem part = some item) :
    IsUUID (String.ofList (uuid.toList.dropWhile isSpace)) ∧ ∃ k, parseNumeral start = some k ∧
      1 ≤ k ∧ item = ⟨canonical uuid, [(k, n.toNat)]⟩ := by
  rw [parseItem, split_trimSpace hpart hrange hstop] at hitem
  simp only at hitem
  split_ifs at hitem with huuid
  refine ⟨huuid, ?_⟩
  obtain ⟨intervals, hintervals, rfl⟩ := Option.map_eq_some_iff.mp hitem
  have hinterval : parseInterval range = (parseNumeral start).bind fun start =>
      if 1 ≤ start then some (start, n.toNat) else none := by
    simp [parseInterval, hrange, parseUint64_eq_some hstop]
  cases hstart : parseNumeral start with
  | none => simp [hinterval, hstart] at hintervals
  | some k =>
    by_cases hk : 1 ≤ k
    · refine ⟨k, rfl, hk, ?_⟩
      have heq : [(k, n.toNat)] = intervals := by
        simpa [hinterval, hstart, hk] using hintervals
      rw [← heq]
      rfl
    · simp [hinterval, hstart, hk] at hintervals

/-! ### Reading the text -/

/-- What the server reads in an item. -/
def Written.toItem (w : Written) : GtidItem := ⟨canonical w.uuid, [(w.start, w.stop.toNat)]⟩

/-- The item is one of a GTID set. -/
def Written.Valid (w : Written) : Prop :=
  IsUUID (String.ofList (w.uuid.toList.dropWhile isSpace)) ∧ 1 ≤ w.start

/-- The map the decoder returns: later items take the place of earlier ones. -/
def mapOf (l : List Written) : GtidSetsMap :=
  l.foldl (fun m w => m.insert w.uuid w.stop) ∅

lemma toItem_of_writtenItem (hw : writtenItem part = some w) (hitem : parseItem part = some item) :
    item = w.toItem ∧ w.Valid := by
  obtain ⟨range, start, stop, hpart, hrange, hstart, hstop⟩ := writtenItem_eq_some hw
  obtain ⟨huuid, k, hk, hpos, rfl⟩ := parseItem_eq_some hpart hrange hstop hitem
  obtain rfl : w.start = k := Option.some.inj (hstart.symm.trans hk)
  exact ⟨rfl, huuid, hpos⟩

/-- A valid item that the decoder accepts has one interval. -/
lemma exists_writtenItem {entry : String × UInt64} (hentry : rangeEntry part = .ok entry)
    (hitem : parseItem part = some item) : ∃ w, writtenItem part = some w := by
  rw [rangeEntry] at hentry
  split at hentry
  · rename_i uuid range hpart
    split at hentry
    · rename_i start stop hrange
      split at hentry
      · rename_i n hstop
        obtain ⟨-, k, hk, -, -⟩ := parseItem_eq_some hpart hrange hstop hitem
        exact ⟨⟨uuid, k, n⟩, by simp [writtenItem, hpart, hrange, hk, hstop]⟩
      · cases hentry
    · cases hentry
  · cases hentry

lemma toItems_of_mapM {parts : List String} {items : List GtidItem}
    (hl : parts.mapM writtenItem = some l) (hitems : parts.mapM parseItem = some items) :
    items = l.map Written.toItem ∧ ∀ w ∈ l, w.Valid := by
  induction parts generalizing l items with
  | nil =>
    obtain rfl : [] = l := by simpa using hl
    obtain rfl : [] = items := by simpa using hitems
    simp
  | cons part parts ih =>
    simp only [List.mapM_cons, Option.bind_eq_bind, Option.bind_eq_some_iff] at hl hitems
    obtain ⟨w, hw, l', hl', heq⟩ := hl
    obtain rfl := Option.some.inj heq
    obtain ⟨item, hitem, items', hitems', heq'⟩ := hitems
    obtain rfl := Option.some.inj heq'
    obtain ⟨rfl, hvalid⟩ := toItem_of_writtenItem hw hitem
    obtain ⟨rfl, hvalids⟩ := ih hl' hitems'
    exact ⟨rfl, List.forall_mem_cons.mpr ⟨hvalid, hvalids⟩⟩

lemma foldlM_of_mapM {parts : List String} (hl : parts.mapM writtenItem = some l)
    (result : GtidSetsMap) :
    parts.foldlM setRange result = .ok (l.foldl (fun m w => m.insert w.uuid w.stop) result) := by
  induction parts generalizing l result with
  | nil =>
    obtain rfl : [] = l := by simpa using hl
    rfl
  | cons part parts ih =>
    simp only [List.mapM_cons, Option.bind_eq_bind, Option.bind_eq_some_iff] at hl
    obtain ⟨w, hw, l', hl', heq⟩ := hl
    obtain rfl := Option.some.inj heq
    have hstep : setRange result part = .ok (result.insert w.uuid w.stop) := by
      rw [setRange, rangeEntry_of_writtenItem hw]
      rfl
    rw [List.foldlM_cons, hstep]
    exact ih hl' _

/-- The decoder returns the map of the items it can read. -/
lemma getGtidSetsMapFromGtidSetsRangeStr_of_written (h : written text = some l) :
    getGtidSetsMapFromGtidSetsRangeStr text = .ok (mapOf l) := by
  rw [written] at h
  rw [getGtidSetsMapFromGtidSetsRangeStr]
  split_ifs at h ⊢ with htext
  · obtain rfl := Option.some.inj h
    rfl
  · exact foldlM_of_mapM h ∅

lemma isSome_mapM_of_foldlM {parts : List String} {items : List GtidItem} {m result : GtidSetsMap}
    (h : parts.foldlM setRange result = .ok m) (hitems : parts.mapM parseItem = some items) :
    ∃ l, parts.mapM writtenItem = some l := by
  induction parts generalizing result items with
  | nil => exact ⟨[], rfl⟩
  | cons part parts ih =>
    simp only [List.mapM_cons, Option.bind_eq_bind, Option.bind_eq_some_iff] at hitems
    obtain ⟨item, hitem, items', hitems', -⟩ := hitems
    rw [List.foldlM_cons] at h
    cases hentry : rangeEntry part with
    | error e => simp [setRange, hentry, Except.map, bind, Except.bind] at h
    | ok entry =>
      have hstep : setRange result part = .ok (result.insert entry.1 entry.2) := by
        rw [setRange, hentry]
        rfl
      rw [hstep] at h
      obtain ⟨w, hw⟩ := exists_writtenItem hentry hitem
      obtain ⟨l, hl⟩ := ih h hitems'
      exact ⟨w :: l, by rw [List.mapM_cons, hw, hl]; rfl⟩

/-- White space alone is an empty set for the server and an error for the decoder. -/
lemma ne_ok_of_blank {m : GtidSetsMap} (htext : text ≠ "") (hblank : trimSpace text = "") :
    getGtidSetsMapFromGtidSetsRangeStr text ≠ .ok m := by
  rw [getGtidSetsMapFromGtidSetsRangeStr, if_neg htext]
  intro h
  have hspace := (trimSpace_eq_empty_iff text).mp hblank
  cases hparts : split text ',' with
  | nil => simp [split] at hparts
  | cons part parts =>
    have hsub := (notMem_and_subset_of_mem_split (hparts ▸ List.mem_cons_self)).2
    rw [hparts, List.foldlM_cons] at h
    have hentry : ∃ err, rangeEntry part = .error err := by
      rw [rangeEntry]
      split
      · rename_i uuid range hpart
        have hcolon : ':' ∈ part.toList := by
          rw [toList_of_split_eq hpart]
          simp
        exact absurd (hspace _ (hsub hcolon)) (by decide)
      · exact ⟨_, rfl⟩
    obtain ⟨err, herr⟩ := hentry
    simp [setRange, herr, Except.map, bind, Except.bind] at h

/-- A valid text that is accepted consists of items with one interval. -/
lemma exists_written {items : List GtidItem} {m : GtidSetsMap}
    (hvalid : parseGtidSet text = some items)
    (h : getGtidSetsMapFromGtidSetsRangeStr text = .ok m) : ∃ l, written text = some l := by
  rw [written]
  split_ifs with htext
  · exact ⟨[], rfl⟩
  · rw [parseGtidSet] at hvalid
    split_ifs at hvalid with hblank
    · exact absurd h (ne_ok_of_blank htext hblank)
    · rw [getGtidSetsMapFromGtidSetsRangeStr, if_neg htext] at h
      exact isSome_mapM_of_foldlM h hvalid

lemma toItems_of_written {items : List GtidItem} (hvalid : parseGtidSet text = some items)
    (hl : written text = some l) : items = l.map Written.toItem ∧ ∀ w ∈ l, w.Valid := by
  rw [parseGtidSet] at hvalid
  by_cases hblank : trimSpace text = ""
  · rw [if_pos hblank] at hvalid
    obtain rfl := Option.some.inj hvalid
    by_cases htext : text = ""
    · rw [written, if_pos htext] at hl
      obtain rfl := Option.some.inj hl
      simp
    · exact absurd (getGtidSetsMapFromGtidSetsRangeStr_of_written hl) (ne_ok_of_blank htext hblank)
  · rw [if_neg hblank] at hvalid
    have htext : text ≠ "" := by
      rintro rfl
      exact hblank (by decide)
    rw [written, if_neg htext] at hl
    exact toItems_of_mapM hl hvalid

/-! ### The two sets -/

lemma last_mapOf (l : List Written) (uuid : String) : (mapOf l).last uuid = lastStop l uuid := by
  induction l using List.reverseRecOn with
  | nil => rfl
  | append_singleton l w ih =>
    rw [mapOf, List.foldl_append, List.foldl_cons, List.foldl_nil, ← mapOf]
    by_cases hw : w.uuid = uuid
    · subst hw
      simp [GtidSetsMap.last, lastStop]
    · have hne : uuid ≠ w.uuid := Ne.symm hw
      have hlast : lastStop (l ++ [w]) uuid = lastStop l uuid := by simp [lastStop, hw]
      rw [hlast, ← ih, GtidSetsMap.last, Finmap.lookup_insert_of_ne _ hne]
      rfl

lemma mem_denoted (l : List Written) (uuid : String) (k : ℕ) :
    (uuid, k) ∈ denoted (l.map Written.toItem) ↔ Intervals.Covers (intervalsOf l uuid) k := by
  simp only [denoted, Set.mem_ofPred_eq, List.mem_map, Intervals.Covers, intervalsOf,
    List.mem_filter, decide_eq_true_eq]
  constructor
  · rintro ⟨item, ⟨w, hw, rfl⟩, huuid, i, hi, hk⟩
    obtain rfl := List.mem_singleton.mp hi
    exact ⟨_, ⟨w, ⟨hw, huuid⟩, rfl⟩, hk⟩
  · rintro ⟨i, ⟨w, ⟨hw, huuid⟩, rfl⟩, hk⟩
    exact ⟨_, ⟨w, hw, rfl⟩, huuid, _, List.mem_singleton_self _, hk⟩

/-- A UUID in the spelling of the server stays as it is. -/
lemma Written.Valid.canonical_canonical (h : w.Valid) :
    canonical (canonical w.uuid) = canonical w.uuid := by
  have hchars : ∀ c ∈ w.uuid.toList.dropWhile isSpace, c ∈ uuidChars := by
    simpa using h.1.1
  have hall : uuidChars.all (fun c => isSpace c.toLower = false ∧ c.toLower.toLower = c.toLower) =
      true := by decide
  have hlower : ∀ c ∈ uuidChars, isSpace c.toLower = false ∧ c.toLower.toLower = c.toLower := by
    simpa using hall
  have hdrop : ((w.uuid.toList.dropWhile isSpace).map Char.toLower).dropWhile isSpace =
      (w.uuid.toList.dropWhile isSpace).map Char.toLower := by
    cases hl : w.uuid.toList.dropWhile isSpace with
    | nil => rfl
    | cons c cs =>
      rw [hl] at hchars
      rw [List.map_cons, List.dropWhile_cons_of_neg]
      rw [(hlower c (hchars c List.mem_cons_self)).1]
      exact Bool.false_ne_true
  have hmap : ((w.uuid.toList.dropWhile isSpace).map Char.toLower).map Char.toLower =
      (w.uuid.toList.dropWhile isSpace).map Char.toLower := by
    rw [List.map_map, List.map_inj_left]
    intro c hc
    exact (hlower c (hchars c hc)).2
  simp only [canonical, toLower, String.toList_ofList, hdrop, hmap]

lemma lastStop_eq_zero {uuid : String} (h : ∀ w ∈ l, w.uuid ≠ uuid) : lastStop l uuid = 0 := by
  have hnil : l.filter (fun w => w.uuid = uuid) = [] := by
    rw [List.filter_eq_nil_iff]
    intro w hw
    simpa using h w hw
  rw [lastStop, hnil]
  rfl

/-- The two sets agree exactly on items that say plainly what they say. -/
lemma denoted_eq_gtids_iff (hvalid : ∀ w ∈ l, w.Valid) :
    denoted (l.map Written.toItem) = (mapOf l).gtids ↔ Plainly l := by
  have hset : denoted (l.map Written.toItem) = (mapOf l).gtids ↔ ∀ uuid k,
      Intervals.Covers (intervalsOf l uuid) k ↔ 1 ≤ k ∧ k ≤ lastStop l uuid := by
    rw [Set.ext_iff, Prod.forall]
    refine forall_congr' fun uuid => forall_congr' fun k => ?_
    rw [mem_denoted, ← last_mapOf]
    rfl
  have hpos (uuid : String) : ∀ i ∈ intervalsOf l uuid, 1 ≤ i.1 := by
    intro i hi
    obtain ⟨w, hw, rfl⟩ := List.mem_map.mp hi
    exact (hvalid w (List.mem_of_mem_filter hw)).2
  rw [hset]
  constructor
  · intro h
    refine ⟨fun w hw hne => ?_, fun w _ => (Intervals.covers_iff_fills (hpos _)).mp (h _)⟩
    by_contra hzero
    obtain ⟨i, hi, -⟩ := (h w.uuid 1).mpr ⟨Nat.le_refl 1, Nat.one_le_iff_ne_zero.mpr hzero⟩
    obtain ⟨w', hw', -⟩ := List.mem_map.mp hi
    obtain ⟨hmem, huuid⟩ := List.mem_filter.mp hw'
    rw [decide_eq_true_eq] at huuid
    -- a UUID that the server would print is spelled as the server prints it
    exact hne (huuid ▸ (hvalid w' hmem).canonical_canonical)
  · intro h uuid k
    by_cases hex : ∃ w ∈ l, canonical w.uuid = uuid
    · obtain ⟨w, hw, rfl⟩ := hex
      exact (Intervals.covers_iff_fills (hpos _)).mpr (h.fills w hw) k
    · have hnone : ∀ w ∈ l, canonical w.uuid ≠ uuid := fun w hw heq => hex ⟨w, hw, heq⟩
      have hempty : intervalsOf l uuid = [] := by
        rw [intervalsOf, List.filter_eq_nil_iff.mpr (by simpa using hnone)]
        rfl
      have hzero : lastStop l uuid = 0 := by
        by_cases hspelled : ∃ w ∈ l, w.uuid = uuid
        · obtain ⟨w, hw, rfl⟩ := hspelled
          exact h.spelling w hw (hnone w hw)
        · exact lastStop_eq_zero fun w hw heq => hspelled ⟨w, hw, heq⟩
      rw [hempty, hzero]
      refine iff_of_false ?_ (by omega)
      rintro ⟨i, hi, -⟩
      exact absurd hi List.not_mem_nil

end

/-- A GTID set is understood exactly when it is rejected or its items, each of one interval, say
plainly what they say. -/
theorem understood_iff (text : String) (items : List GtidItem)
    (hvalid : parseGtidSet text = some items) :
    Understood items (getGtidSetsMapFromGtidSetsRangeStr text) ↔
      ∀ l, written text = some l → Plainly l := by
  cases hl : written text with
  | none =>
    refine iff_of_true ⟨fun m hm => ?_, fun _ => ?_⟩ (by simp)
    · obtain ⟨l, hl'⟩ := exists_written hvalid hm
      simp [hl] at hl'
    · cases hresult : getGtidSetsMapFromGtidSetsRangeStr text with
      | error err => exact ⟨err, rfl⟩
      | ok m =>
        obtain ⟨l, hl'⟩ := exists_written hvalid hresult
        simp [hl] at hl'
  | some l =>
    obtain ⟨rfl, hitems⟩ := toItems_of_written hvalid hl
    rw [getGtidSetsMapFromGtidSetsRangeStr_of_written hl]
    simp only [Option.some.injEq, forall_eq', ← denoted_eq_gtids_iff hitems]
    constructor
    · intro h
      exact h.1 _ rfl
    · intro h
      refine ⟨fun m hm => ?_, fun hnone => absurd h (hnone _)⟩
      obtain rfl := Except.ok.inj hm
      exact h

/-- Two intervals that follow on each other, in this order. -/
theorem understood_followingIntervals :
    Understood [⟨"3e11fa47-71ca-11e1-9e33-c80aa9429562", [(1, 3)]⟩,
        ⟨"3e11fa47-71ca-11e1-9e33-c80aa9429562", [(4, 5)]⟩]
      (getGtidSetsMapFromGtidSetsRangeStr ("3e11fa47-71ca-11e1-9e33-c80aa9429562:1-3," ++
        "3e11fa47-71ca-11e1-9e33-c80aa9429562:4-5")) := by
  refine (understood_iff _ _ (by decide +kernel)).mpr fun l hl => ?_
  obtain rfl : [⟨"3e11fa47-71ca-11e1-9e33-c80aa9429562", 1, 3⟩,
      ⟨"3e11fa47-71ca-11e1-9e33-c80aa9429562", 4, 5⟩] = l :=
    Option.some.inj ((by decide +kernel : some _ = _).trans hl)
  decide +kernel

/-- An interval that does not start at one: the decoder takes it for the numbers one to five. -/
theorem not_understood_lateStart :
    ¬ ∀ (text : String) (items : List GtidItem), parseGtidSet text = some items →
      Understood items (getGtidSetsMapFromGtidSetsRangeStr text) := by
  intro h
  have hl : written "3e11fa47-71ca-11e1-9e33-c80aa9429562:3-5" =
      some [⟨"3e11fa47-71ca-11e1-9e33-c80aa9429562", 3, 5⟩] := by decide +kernel
  have hvalid : parseGtidSet "3e11fa47-71ca-11e1-9e33-c80aa9429562:3-5" =
      some [⟨"3e11fa47-71ca-11e1-9e33-c80aa9429562", [(3, 5)]⟩] := by decide +kernel
  obtain ⟨hitems, hwritten⟩ := toItems_of_written hvalid hl
  have hsame := (h _ _ hvalid).1 _ (getGtidSetsMapFromGtidSetsRangeStr_of_written hl)
  rw [hitems, denoted_eq_gtids_iff hwritten] at hsame
  exact absurd hsame (by decide +kernel)

end MysqlSync
