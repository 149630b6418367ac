import MysqlSync.Lib.Bytes
import MysqlSync.Python.GtidText

/-!
# The bytes of a set of transactions

The form in which a set is sent to the source: the identifiers as bytes, each with its intervals as
pairs of numbers in 64 bits. A set built from a text can be put in this form exactly if its
numbers fit, it then has the announced length, and it is read back, with the identifiers in lower
case (`GtidSet.decode_encoded`).
-/

namespace MysqlSync.Python

open Spans Checked Bytes

/-- What packing and unpacking raises, besides what the objects do. -/
inductive WireError where
  | structError
  | binasciiError
  | gtid (error : GtidError)
  deriving DecidableEq, Repr

/-- An unsigned number in `w` bytes. -/
def pack (w : ℕ) (n : ℤ) : Except WireError (List UInt8) :=
  if 0 ≤ n ∧ n < 256 ^ w then .ok (littleEndian w n.toNat) else .error .structError

def unpack (w : ℕ) (bytes : List UInt8) : Except WireError ℕ :=
  if bytes.length = w then .ok (ofLittleEndian bytes) else .error .structError

namespace Gtid

def encodedLength (g : Gtid) : ℕ := 16 + 8 + 2 * 8 * g.intervals.length

def packInterval (interval : ℤ × ℤ) : Except WireError (List UInt8) := do
  let start ← pack 8 interval.1
  let stop ← pack 8 interval.2
  pure (start ++ stop)

/-- The identifier without its hyphens, as bytes. -/
def packSID (sid : String) : Except WireError (List UInt8) :=
  match unhexlify (sid.toList.filter (· ≠ '-')) with
  | some bytes => .ok bytes
  | none => .error .binasciiError

def encode (g : Gtid) : Except WireError (List UInt8) := do
  let sid ← packSID g.sid
  let count ← pack 8 g.intervals.length
  let intervals ← g.intervals.mapM packInterval
  pure (sid ++ count ++ intervals.flatten)

/-- The identifier in the bytes at the front, with hyphens. -/
def readSID (payload : List UInt8) : String :=
  String.ofList (hexlify (payload.take 4) ++ '-' :: (hexlify ((payload.drop 4).take 2) ++
    '-' :: (hexlify ((payload.drop 6).take 2) ++ '-' :: (hexlify ((payload.drop 8).take 2) ++
      '-' :: hexlify ((payload.drop 10).take 6)))))

/-- The given number of intervals, which are closed here, and the rest of the bytes. -/
def readIntervals : ℕ → List UInt8 → Except WireError (List (ℤ × ℤ) × List UInt8)
  | 0, payload => .ok ([], payload)
  | n + 1, payload => do
    let start ← unpack 8 (payload.take 8)
    let stop ← unpack 8 ((payload.drop 8).take 8)
    let (intervals, rest) ← readIntervals n (payload.drop 16)
    pure (((start : ℤ), (stop : ℤ) - 1) :: intervals, rest)

def pairText (interval : ℤ × ℤ) : String := interval.1.repr ++ "-" ++ interval.2.repr

def decode (payload : List UInt8) : Except WireError (Gtid × List UInt8) := do
  let count ← unpack 8 ((payload.drop 16).take 8)
  let (intervals, rest) ← readIntervals count (payload.drop 24)
  let g ← (new (readSID payload ++ ":" ++ Strings.join (intervals.map pairText) ":")).mapError .gtid
  pure (g, rest)

end Gtid

namespace GtidSet

def encodedLength (s : GtidSet) : ℕ := 8 + (s.gtids.map Gtid.encodedLength).sum

def encoded (s : GtidSet) : Except WireError (List UInt8) := do
  let count ← pack 8 s.gtids.length
  let gtids ← s.gtids.mapM Gtid.encode
  pure (count ++ gtids.flatten)

def readGtids : ℕ → List UInt8 → Except WireError (List Gtid × List UInt8)
  | 0, payload => .ok ([], payload)
  | n + 1, payload => do
    let (gtid, payload) ← Gtid.decode payload
    let (gtids, rest) ← readGtids n payload
    pure (gtid :: gtids, rest)

def decode (payload : List UInt8) : Except WireError (GtidSet × List UInt8) := do
  let count ← unpack 8 (payload.take 8)
  let (gtids, rest) ← readGtids count (payload.drop 8)
  pure (⟨gtids⟩, rest)

end GtidSet

/-! ### Numbers -/

section

variable {w : ℕ} {n : ℤ} {bytes rest : List UInt8}

lemma exists_pack_iff : (∃ bytes, pack w n = .ok bytes) ↔ 0 ≤ n ∧ n < 256 ^ w := by
  rw [pack]
  split_ifs with h
  · exact iff_of_true ⟨_, rfl⟩ h
  · simp [h]

lemma unpack_of_pack (h : pack w n = .ok bytes) :
    bytes.length = w ∧ unpack w bytes = .ok n.toNat ∧ (n.toNat : ℤ) = n := by
  rw [pack] at h
  split_ifs at h with hn
  obtain rfl := Except.ok.inj h
  have hlt : n.toNat < 256 ^ w := (Int.toNat_lt hn.1).mpr (by exact_mod_cast hn.2)
  refine ⟨length_littleEndian w _, ?_, Int.toNat_of_nonneg hn.1⟩
  rw [unpack, if_pos (length_littleEndian w _), ofLittleEndian_littleEndian hlt]

end

/-! ### Identifiers -/

namespace Gtid

section

variable {sid : String} {part : List Char} {rest : List UInt8}

/-- One of the texts between the hyphens of an identifier. -/
structure IsPart (n : ℕ) (part : List Char) : Prop where
  length_eq : part.length = 2 * n
  hex : ∀ c ∈ part, (hexValue c).isSome = true
  notMem : '-' ∉ part

lemma exists_parts (h : IsUUID sid) : ∃ a b c d e : List Char,
    sid.toList = a ++ '-' :: (b ++ '-' :: (c ++ '-' :: (d ++ '-' :: e))) ∧
      IsPart 4 a ∧ IsPart 2 b ∧ IsPart 2 c ∧ IsPart 2 d ∧ IsPart 6 e := by
  have hlengths : (sid.toList.splitOn '-').map List.length = [8, 4, 4, 4, 12] := by
    have h2 := h.2
    rw [Strings.split, List.map_map] at h2
    simpa [Function.comp_def] using h2
  have hchars : uuidChars.all (fun c => c = '-' || (hexValue c).isSome) = true := by decide
  have hpart (n : ℕ) (part : List Char) (hmem : part ∈ sid.toList.splitOn '-')
      (hlength : part.length = 2 * n) : IsPart n part := by
    obtain ⟨hnot, hsub⟩ := Strings.notMem_and_subset_of_mem_splitOn hmem
    refine ⟨hlength, fun c hc => ?_, hnot⟩
    have hc' : c ∈ uuidChars := by simpa using List.all_eq_true.mp h.1 c (hsub hc)
    rcases Bool.or_eq_true_iff.mp (List.all_eq_true.mp hchars c hc') with hhyphen | hhex
    · rw [decide_eq_true_eq.mp hhyphen] at hc
      exact absurd hc hnot
    · exact hhex
  have hjoin : ['-'].intercalate (sid.toList.splitOn '-') = sid.toList :=
    List.intercalate_splitOn '-'
  simp only [List.map_eq_cons_iff, List.map_eq_nil_iff] at hlengths
  obtain ⟨a, _, hsplit, ha, b, _, rfl, hb, c, _, rfl, hc, d, _, rfl, hd, e, _, rfl, he, rfl⟩ :=
    hlengths
  rw [hsplit] at hjoin hpart
  refine ⟨a, b, c, d, e, ?_, hpart 4 a (by simp) ha, hpart 2 b (by simp) hb,
    hpart 2 c (by simp) hc, hpart 2 d (by simp) hd, hpart 6 e (by simp) he⟩
  rw [← hjoin]
  simp [List.intercalate]

lemma IsPart.exists_bytes {n : ℕ} (h : IsPart n part) :
    part.filter (· ≠ '-') = part ∧ ∃ bytes, unhexlify part = some bytes ∧ bytes.length = n ∧
      hexlify bytes = part.map Char.toLower := by
  obtain ⟨bytes, hbytes, hlength⟩ := exists_unhexlify h.hex h.length_eq
  refine ⟨?_, bytes, hbytes, hlength, (hexlify_of_unhexlify hbytes).1⟩
  rw [List.filter_eq_self]
  intro c hc
  rw [decide_eq_true_eq]
  rintro rfl
  exact h.notMem hc

/-- An identifier is read back in lower case. -/
lemma exists_packSID (h : IsUUID sid) : ∃ bytes, packSID sid = .ok bytes ∧ bytes.length = 16 ∧
    ∀ rest, readSID (bytes ++ rest) = toLower sid := by
  obtain ⟨a, b, c, d, e, hsid, ha, hb, hc, hd, he⟩ := exists_parts h
  obtain ⟨hfa, as, hae, hal, hal'⟩ := ha.exists_bytes
  obtain ⟨hfb, bs, hbe, hbl, hbl'⟩ := hb.exists_bytes
  obtain ⟨hfc, cs, hce, hcl, hcl'⟩ := hc.exists_bytes
  obtain ⟨hfd, ds, hde, hdl, hdl'⟩ := hd.exists_bytes
  obtain ⟨hfe, es, hee, hel, hel'⟩ := he.exists_bytes
  refine ⟨as ++ (bs ++ (cs ++ (ds ++ es))), ?_, ?_, fun rest => ?_⟩
  · have hfilter : sid.toList.filter (· ≠ '-') = a ++ (b ++ (c ++ (d ++ e))) := by
      have hhyphen (l : List Char) : ('-' :: l).filter (· ≠ '-') = l.filter (· ≠ '-') :=
        List.filter_cons_of_neg (by decide)
      rw [hsid]
      simp only [List.filter_append, hhyphen, hfa, hfb, hfc, hfd, hfe]
    rw [packSID, hfilter, unhexlify_append hae, unhexlify_append hbe, unhexlify_append hce,
      unhexlify_append hde, hee]
    rfl
  · simp only [List.length_append, hal, hbl, hcl, hdl, hel]
  · simp only [List.append_assoc]
    have h4 : (as ++ (bs ++ (cs ++ (ds ++ (es ++ rest))))).drop 4 =
        bs ++ (cs ++ (ds ++ (es ++ rest))) := List.drop_left' hal
    have h6 : (as ++ (bs ++ (cs ++ (ds ++ (es ++ rest))))).drop 6 = cs ++ (ds ++ (es ++ rest)) := by
      rw [show 6 = 4 + 2 from rfl, ← List.drop_drop, h4, List.drop_left' hbl]
    have h8 : (as ++ (bs ++ (cs ++ (ds ++ (es ++ rest))))).drop 8 = ds ++ (es ++ rest) := by
      rw [show 8 = 6 + 2 from rfl, ← List.drop_drop, h6, List.drop_left' hcl]
    have h10 : (as ++ (bs ++ (cs ++ (ds ++ (es ++ rest))))).drop 10 = es ++ rest := by
      rw [show 10 = 8 + 2 from rfl, ← List.drop_drop, h8, List.drop_left' hdl]
    rw [readSID, h4, h6, h8, h10, List.take_left' hal, List.take_left' hbl, List.take_left' hcl,
      List.take_left' hdl, List.take_left' hel, hal', hbl', hcl', hdl', hel', toLower, hsid]
    simp

lemma IsPart.notMem_map_toLower {n : ℕ} (h : IsPart n part) : '-' ∉ part.map Char.toLower := by
  intro hmem
  obtain ⟨c, hc, hlower⟩ := List.mem_map.mp hmem
  have hhex := h.hex c hc
  rw [hexValue, hlower] at hhex
  exact absurd hhex (by decide)

lemma isUUID_toLower (h : IsUUID sid) : IsUUID (toLower sid) := by
  have hchars : uuidChars.all (fun c => c.toLower ∈ uuidChars) = true := by decide
  refine ⟨?_, ?_⟩
  · rw [List.all_eq_true]
    intro c hc
    rw [toLower, String.toList_ofList] at hc
    obtain ⟨c', hc', rfl⟩ := List.mem_map.mp hc
    exact List.all_eq_true.mp hchars c' (by simpa using List.all_eq_true.mp h.1 c' hc')
  · obtain ⟨a, b, c, d, e, hsid, ha, hb, hc, hd, he⟩ := exists_parts h
    have hjoin : toLower sid = Strings.join
        ([a, b, c, d, e].map fun part => String.ofList (part.map Char.toLower)) "-" := by
      rw [toLower, hsid, ← String.toList_inj]
      simp [Strings.join]
    rw [hjoin, Strings.split_join rfl (by simp)]
    · simp [ha.length_eq, hb.length_eq, hc.length_eq, hd.length_eq, he.length_eq]
    · simp only [List.forall_mem_map, List.forall_mem_cons, String.toList_ofList]
      exact ⟨ha.notMem_map_toLower, hb.notMem_map_toLower, hc.notMem_map_toLower,
        hd.notMem_map_toLower, he.notMem_map_toLower, by simp⟩

end

/-! ### Intervals -/

section

variable {l : List (ℤ × ℤ)} {x : ℤ × ℤ} {bytes rest : List UInt8} {g : Gtid}

lemma exists_packInterval_iff (hx : 0 ≤ x.1 ∧ x.1 ≤ x.2) :
    (∃ bytes, packInterval x = .ok bytes) ↔ x.2 < 256 ^ 8 := by
  have hstart := exists_pack_iff (w := 8) (n := x.1)
  have hstop := exists_pack_iff (w := 8) (n := x.2)
  simp only [packInterval, bind_eq_ok_iff]
  constructor
  · rintro ⟨-, start, -, stop, hstop', -⟩
    exact (hstop.mp ⟨stop, hstop'⟩).2
  · intro hlt
    obtain ⟨start, hs⟩ := hstart.mpr ⟨hx.1, hx.2.trans_lt hlt⟩
    obtain ⟨stop, ht⟩ := hstop.mpr ⟨hx.1.trans hx.2, hlt⟩
    exact ⟨start ++ stop, start, hs, stop, ht, rfl⟩

lemma readIntervals_of_mapM {blocks : List (List UInt8)} (h : l.mapM packInterval = .ok blocks) :
    blocks.flatten.length = 2 * 8 * l.length ∧
      ∀ rest, readIntervals l.length (blocks.flatten ++ rest) =
        .ok (l.map fun x => (x.1, x.2 - 1), rest) := by
  rw [mapM_eq_ok_iff] at h
  induction h with
  | nil => exact ⟨rfl, fun rest => rfl⟩
  | @cons x block l blocks hx _ ih =>
    obtain ⟨start, hstart, hx⟩ := bind_eq_ok_iff.mp hx
    obtain ⟨stop, hstop, hx⟩ := bind_eq_ok_iff.mp hx
    obtain rfl := Except.ok.inj hx
    obtain ⟨hlstart, hustart, hestart⟩ := unpack_of_pack hstart
    obtain ⟨hlstop, hustop, hestop⟩ := unpack_of_pack hstop
    refine ⟨?_, fun rest => ?_⟩
    · rw [List.flatten_cons, List.length_append, List.length_append, hlstart, hlstop, ih.1,
        List.length_cons]
      omega
    · rw [List.flatten_cons, List.append_assoc, List.append_assoc, List.length_cons, readIntervals]
      have hdrop : (start ++ (stop ++ (blocks.flatten ++ rest))).drop 16 =
          blocks.flatten ++ rest := by
        rw [show 16 = 8 + 8 from rfl, ← List.drop_drop, List.drop_left' hlstart,
          List.drop_left' hlstop]
      rw [hdrop, List.take_left' hlstart, List.drop_left' hlstart, List.take_left' hlstop, hustart,
        hustop, ih.2 rest]
      simp only [bind, Except.bind, pure, Except.pure, hestart, hestop, List.map_cons]

/-- The ends of the intervals bound their number. -/
lemma add_length_le (h : Spaced l) {b c : ℤ} (hbc : b ≤ c) (hl : ∀ x ∈ l, b ≤ x.2 ∧ x.2 < c) :
    b + l.length ≤ c := by
  induction l generalizing b with
  | nil => simpa using hbc
  | cons x l ih =>
    obtain ⟨-, hlt, hspaced⟩ := spaced_cons.mp h
    obtain ⟨hx, hl⟩ := List.forall_mem_cons.mp hl
    have hrest := ih (b := b + 1) hspaced (by omega) fun y hy => by
      have hy1 := hlt y hy
      have hy2 := hspaced.le y hy
      have hy3 := hl y hy
      omega
    rw [List.length_cons, Nat.cast_succ]
    omega

lemma Written.nonneg (h : Written g) (hx : x ∈ g.intervals) : 0 ≤ x.1 ∧ x.1 ≤ x.2 :=
  ⟨(h.printable x hx).1, h.spaced.le x hx⟩

lemma Written.exists_encode_iff (h : Written g) :
    (∃ bytes, g.encode = .ok bytes) ↔ ∀ x ∈ g.intervals, x.2 < 256 ^ 8 := by
  have hmapM : (∃ blocks, g.intervals.mapM packInterval = .ok blocks) ↔
      ∀ x ∈ g.intervals, x.2 < 256 ^ 8 := by
    rw [exists_mapM_iff]
    exact forall₂_congr fun x hx => exists_packInterval_iff (h.nonneg hx)
  obtain ⟨sid, hsid, -⟩ := exists_packSID h.isUUID
  simp only [encode, bind_eq_ok_iff]
  constructor
  · rintro ⟨-, -, -, -, -, blocks, hblocks, -⟩
    exact hmapM.mp ⟨blocks, hblocks⟩
  · intro hlt
    obtain ⟨blocks, hblocks⟩ := hmapM.mpr hlt
    have hlength := add_length_le h.spaced (b := 1) (c := 256 ^ 8) (by norm_num)
      fun x hx => ⟨(h.printable x hx).2, hlt x hx⟩
    obtain ⟨count, hcount⟩ := (exists_pack_iff (w := 8) (n := g.intervals.length)).mpr
      ⟨Int.natCast_nonneg _, by omega⟩
    exact ⟨_, sid, hsid, count, hcount, blocks, hblocks, rfl⟩

lemma denotes_pairText (hx : Printable x) : Denotes (pairText (x.1, x.2 - 1)) x := by
  obtain ⟨a, b⟩ := x
  obtain ⟨ha, hb⟩ := hx
  obtain ⟨m, rfl⟩ := Int.eq_ofNat_of_zero_le ha
  obtain ⟨n, hn⟩ := Int.eq_ofNat_of_zero_le (Int.sub_nonneg_of_le hb)
  obtain rfl := sub_eq_iff_eq_add.mp hn
  have hpair := denotes_pair m n
  simp only [pairText, add_sub_cancel_right]
  exact hpair

/-- The object with its identifier in lower case. -/
def lower (g : Gtid) : Gtid := { g with sid := toLower g.sid }

lemma Written.decode_of_encode (h : Written g) (hencode : g.encode = .ok bytes) :
    bytes.length = g.encodedLength ∧ ∀ rest, decode (bytes ++ rest) = .ok (g.lower, rest) := by
  obtain ⟨sid, hsid, hrest⟩ := bind_eq_ok_iff.mp hencode
  obtain ⟨count, hcount, hrest⟩ := bind_eq_ok_iff.mp hrest
  obtain ⟨blocks, hblocks, hbytes⟩ := bind_eq_ok_iff.mp hrest
  obtain rfl := Except.ok.inj hbytes
  obtain ⟨sid', hsid', hlsid, hread⟩ := exists_packSID h.isUUID
  obtain rfl := Except.ok.inj (hsid.symm.trans hsid')
  obtain ⟨hlcount, hucount, hecount⟩ := unpack_of_pack hcount
  obtain ⟨hlblocks, hintervals⟩ := readIntervals_of_mapM hblocks
  refine ⟨?_, fun rest => ?_⟩
  · rw [List.length_append, List.length_append, hlsid, hlcount, hlblocks, encodedLength]
  · have hpayload : sid ++ count ++ blocks.flatten ++ rest =
        sid ++ (count ++ (blocks.flatten ++ rest)) := by simp only [List.append_assoc]
    have hdrop : (sid ++ (count ++ (blocks.flatten ++ rest))).drop 24 = blocks.flatten ++ rest := by
      rw [show 24 = 16 + 8 from rfl, ← List.drop_drop, List.drop_left' hlsid,
        List.drop_left' hlcount]
    have htext : new (toLower g.sid ++ ":" ++
        Strings.join ((g.intervals.map fun x => (x.1, x.2 - 1)).map pairText) ":") =
          .ok g.lower := by
      rw [List.map_map]
      exact new_of_spaced (parse_text (isUUID_toLower h.isUUID) h.ne_nil
        fun x hx => denotes_pairText (h.printable x hx)) h.spaced
    rw [hpayload, decode, hdrop, List.drop_left' hlsid, List.take_left' hlcount, hucount, hread]
    simp only [bind, Except.bind, Int.toNat_natCast, hintervals rest, htext]
    rfl

end

end Gtid

/-! ### Sets -/

namespace GtidSet

def lower (s : GtidSet) : GtidSet := ⟨s.gtids.map Gtid.lower⟩

/-- The numbers of a set fit in 64 bits. -/
def Fits (s : GtidSet) : Prop :=
  s.gtids.length < 256 ^ 8 ∧ ∀ g ∈ s.gtids, ∀ x ∈ g.intervals, x.2 < 256 ^ 8

section

variable {s : GtidSet} {gtids : List Gtid} {bytes : List UInt8}

lemma readGtids_of_mapM {blocks : List (List UInt8)} (hwritten : ∀ g ∈ gtids, g.Written)
    (h : gtids.mapM Gtid.encode = .ok blocks) :
    blocks.flatten.length = (gtids.map Gtid.encodedLength).sum ∧
      ∀ rest, readGtids gtids.length (blocks.flatten ++ rest) =
        .ok (gtids.map Gtid.lower, rest) := by
  rw [mapM_eq_ok_iff] at h
  induction h with
  | nil => exact ⟨rfl, fun rest => rfl⟩
  | @cons g block gtids blocks hg _ ih =>
    obtain ⟨hgw, hwritten⟩ := List.forall_mem_cons.mp hwritten
    obtain ⟨hlength, hdecode⟩ := hgw.decode_of_encode hg
    obtain ⟨hlengths, hread⟩ := ih hwritten
    refine ⟨?_, fun rest => ?_⟩
    · rw [List.flatten_cons, List.length_append, hlength, hlengths, List.map_cons, List.sum_cons]
    · rw [List.flatten_cons, List.append_assoc, List.length_cons, readGtids, hdecode]
      simp only [bind, Except.bind, hread rest]
      rfl

lemma exists_encoded_iff (hwritten : ∀ g ∈ s.gtids, g.Written) :
    (∃ bytes, s.encoded = .ok bytes) ↔ s.Fits := by
  have hcount := exists_pack_iff (w := 8) (n := s.gtids.length)
  have hmapM : (∃ blocks, s.gtids.mapM Gtid.encode = .ok blocks) ↔
      ∀ g ∈ s.gtids, ∀ x ∈ g.intervals, x.2 < 256 ^ 8 := by
    rw [exists_mapM_iff]
    exact forall₂_congr fun g hg => (hwritten g hg).exists_encode_iff
  simp only [encoded, bind_eq_ok_iff]
  constructor
  · rintro ⟨-, count, hc, blocks, hblocks, -⟩
    exact ⟨by exact_mod_cast (hcount.mp ⟨count, hc⟩).2, hmapM.mp ⟨blocks, hblocks⟩⟩
  · rintro ⟨hlength, hends⟩
    obtain ⟨count, hc⟩ := hcount.mpr ⟨Int.natCast_nonneg _, by exact_mod_cast hlength⟩
    obtain ⟨blocks, hblocks⟩ := hmapM.mpr hends
    exact ⟨_, count, hc, blocks, hblocks, rfl⟩

lemma decode_of_encoded (hwritten : ∀ g ∈ s.gtids, g.Written) (h : s.encoded = .ok bytes) :
    bytes.length = s.encodedLength ∧ ∀ rest, decode (bytes ++ rest) = .ok (s.lower, rest) := by
  obtain ⟨count, hcount, hrest⟩ := bind_eq_ok_iff.mp h
  obtain ⟨blocks, hblocks, hbytes⟩ := bind_eq_ok_iff.mp hrest
  obtain rfl := Except.ok.inj hbytes
  obtain ⟨hlcount, hucount, -⟩ := unpack_of_pack hcount
  obtain ⟨hlength, hread⟩ := readGtids_of_mapM hwritten hblocks
  refine ⟨by rw [List.length_append, hlcount, hlength, encodedLength], fun rest => ?_⟩
  rw [List.append_assoc, decode, List.take_left' hlcount, List.drop_left' hlcount, hucount]
  simp only [bind, Except.bind, Int.toNat_natCast, hread rest]
  rfl

end

/-- A set built from a text has a binary form exactly if its numbers fit, and the form is read back,
whatever follows it. -/
theorem decode_encoded (text : String) (s : GtidSet) (h : new text = .ok s) :
    ((∃ bytes, s.encoded = .ok bytes) ↔ s.Fits) ∧
    ∀ bytes, s.encoded = .ok bytes → bytes.length = s.encodedLength ∧
      ∀ rest, decode (bytes ++ rest) = .ok (s.lower, rest) :=
  ⟨exists_encoded_iff (written_of_mem h), fun _ hbytes =>
    decode_of_encoded (written_of_mem h) hbytes⟩

theorem decode_encoded_upperCase :
    (⟨[⟨"19D69C1E-AE97-4B8C-A1EF-9E12BA966457", [(1, 5), (6, 75)]⟩]⟩ : GtidSet).Fits ∧
    ∃ bytes, (⟨[⟨"19D69C1E-AE97-4B8C-A1EF-9E12BA966457", [(1, 5), (6, 75)]⟩]⟩ : GtidSet).encoded =
        .ok bytes ∧ bytes.length = 64 ∧
      ∀ rest, decode (bytes ++ rest) =
        .ok (⟨[⟨"19d69c1e-ae97-4b8c-a1ef-9e12ba966457", [(1, 5), (6, 75)]⟩]⟩, rest) := by
  have h : new "19D69C1E-AE97-4B8C-A1EF-9E12BA966457:1-4:6-74" =
      .ok ⟨[⟨"19D69C1E-AE97-4B8C-A1EF-9E12BA966457", [(1, 5), (6, 75)]⟩]⟩ := by decide +kernel
  have hlower : toLower "19D69C1E-AE97-4B8C-A1EF-9E12BA966457" =
      "19d69c1e-ae97-4b8c-a1ef-9e12ba966457" := by decide +kernel
  obtain ⟨hfits, hread⟩ := decode_encoded _ _ h
  have hset : (⟨[⟨"19D69C1E-AE97-4B8C-A1EF-9E12BA966457", [(1, 5), (6, 75)]⟩]⟩ : GtidSet).lower =
      ⟨[⟨"19d69c1e-ae97-4b8c-a1ef-9e12ba966457", [(1, 5), (6, 75)]⟩]⟩ := by
    rw [GtidSet.lower, List.map_singleton, Gtid.lower, hlower]
  refine ⟨hfits.mp ⟨_, rfl⟩, _, rfl, (hread _ rfl).1, fun rest => ?_⟩
  rw [(hread _ rfl).2, hset]

end GtidSet

end MysqlSync.Python
