import MysqlSync.Python.GtidWire

/-!
# The request for the binlog

`BinLogStreamReader` asks the source for all transactions that are not in a set, in one packet of
bytes. Every length in it is right, and what the source reads from it is the set of the text that
was configured, with the identifiers in lower case (`readDump_dumpGtid`).
-/

namespace MysqlSync.Python

open Checked Bytes

/-- A signed number in four bytes, which is not negative here. -/
def packLength (n : ℕ) : Except WireError (List UInt8) :=
  if n < 2 ^ 31 then .ok (littleEndian 4 n) else .error .structError

/-- The bytes between the length of the packet and the data; the name and its size are those of
the empty binlog name. -/
def headerSize : ℕ := 2 + 4 + 4 + 4 + 8 + 4

def comBinlogDumpGtid : UInt8 := 0x1e

/-- Not to block at the end of the binlog, and to start at a set of transactions. -/
def dumpFlags (blocking : Bool) : ℕ := (if blocking then 0 else 0x01) ||| 0x04

/-- The packet of `__connect_to_stream` for a set of transactions. With the empty text that function
asks by file and position instead, and sends no packet of this kind. -/
def dumpGtid (blocking : Bool) (serverId : ℤ) (autoPosition : String) :
    Except WireError (List UInt8) := do
  let gtidSet ← (GtidSet.new autoPosition).mapError .gtid
  let length ← packLength (headerSize + gtidSet.encodedLength)
  let server ← pack 4 serverId
  let size ← pack 4 gtidSet.encodedLength
  let data ← gtidSet.encoded
  pure (length ++ comBinlogDumpGtid :: (littleEndian 2 (dumpFlags blocking) ++ (server ++
    (littleEndian 4 3 ++ (List.replicate 3 0 ++ (littleEndian 8 4 ++ (size ++ data)))))))

/-! ### What the source reads -/

structure Dump where
  command : ℕ
  flags : ℕ
  serverId : ℕ
  name : List UInt8
  position : ℕ
  gtidSet : GtidSet
  deriving DecidableEq, Repr

/-- A number at the front of the bytes, and the rest. -/
def readNumber (w : ℕ) (bytes : List UInt8) : Except WireError (ℕ × List UInt8) :=
  (unpack w (bytes.take w)).map fun n => (n, bytes.drop w)

/-- The bytes are as many as announced. -/
def checkLength (length : ℕ) (bytes : List UInt8) : Except WireError Unit :=
  if bytes.length = length then .ok () else .error .structError

def readDump (bytes : List UInt8) : Except WireError Dump := do
  let (length, bytes) ← readNumber 4 bytes
  checkLength length bytes
  let (command, bytes) ← readNumber 1 bytes
  let (flags, bytes) ← readNumber 2 bytes
  let (serverId, bytes) ← readNumber 4 bytes
  let (nameSize, bytes) ← readNumber 4 bytes
  let (position, rest) ← readNumber 8 (bytes.drop nameSize)
  let (size, data) ← readNumber 4 rest
  checkLength size data
  let (gtidSet, left) ← GtidSet.decode data
  checkLength 0 left
  pure ⟨command, flags, serverId, bytes.take nameSize, position, gtidSet⟩

section

variable {w n : ℕ} {z : ℤ} {bytes rest : List UInt8} {blocking : Bool} {serverId : ℤ}
  {autoPosition : String}

lemma readNumber_append (h : n < 256 ^ w) :
    readNumber w (littleEndian w n ++ rest) = .ok (n, rest) := by
  rw [readNumber, List.take_left' (length_littleEndian w n),
    List.drop_left' (length_littleEndian w n), unpack, if_pos (length_littleEndian w n),
    ofLittleEndian_littleEndian h]
  rfl

lemma pack_eq_ok (h : pack w z = .ok bytes) :
    bytes = littleEndian w z.toNat ∧ z.toNat < 256 ^ w ∧ 0 ≤ z := by
  rw [pack] at h
  split_ifs at h with hz
  exact ⟨(Except.ok.inj h).symm, (Int.toNat_lt hz.1).mpr (by exact_mod_cast hz.2), hz.1⟩

lemma packLength_eq_ok (h : packLength n = .ok bytes) :
    bytes = littleEndian 4 n ∧ n < 2 ^ 31 := by
  rw [packLength] at h
  split_ifs at h with hn
  exact ⟨(Except.ok.inj h).symm, hn⟩

lemma dumpFlags_lt (blocking : Bool) : dumpFlags blocking < 256 ^ 2 := by
  cases blocking <;> decide

/-- A packet can be built exactly if the set is one and its numbers and lengths fit. -/
lemma exists_dumpGtid_iff : (∃ bytes, dumpGtid blocking serverId autoPosition = .ok bytes) ↔
    (0 ≤ serverId ∧ serverId < 256 ^ 4) ∧ ∃ s, GtidSet.new autoPosition = .ok s ∧ s.Fits ∧
      headerSize + s.encodedLength < 2 ^ 31 := by
  simp only [dumpGtid, bind_eq_ok_iff, mapError_eq_ok_iff]
  constructor
  · rintro ⟨-, s, hs, length, hlength, server, hserver, -, -, data, hdata, -⟩
    refine ⟨exists_pack_iff.mp ⟨server, hserver⟩, s, hs, ?_, (packLength_eq_ok hlength).2⟩
    exact (GtidSet.exists_encoded_iff (GtidSet.written_of_mem hs)).mp ⟨data, hdata⟩
  · rintro ⟨hid, s, hs, hfits, hlt⟩
    obtain ⟨server, hserver⟩ := exists_pack_iff.mpr hid
    obtain ⟨data, hdata⟩ := (GtidSet.exists_encoded_iff (GtidSet.written_of_mem hs)).mpr hfits
    obtain ⟨size, hsize⟩ := (exists_pack_iff (w := 4) (n := s.encodedLength)).mpr
      ⟨Int.natCast_nonneg _, by omega⟩
    exact ⟨_, s, hs, _, if_pos hlt, server, hserver, size, hsize, data, hdata, rfl⟩

lemma readDump_of_dumpGtid (h : dumpGtid blocking serverId autoPosition = .ok bytes) :
    ∃ s, GtidSet.new autoPosition = .ok s ∧
      readDump bytes = .ok ⟨0x1e, dumpFlags blocking, serverId.toNat, List.replicate 3 0, 4,
        s.lower⟩ := by
  simp only [dumpGtid, bind_eq_ok_iff, mapError_eq_ok_iff] at h
  obtain ⟨s, hs, length, hlength, server, hserver, size, hsize, data, hdata, hbytes⟩ := h
  obtain ⟨rfl, hlt⟩ := packLength_eq_ok hlength
  obtain ⟨rfl, hserverId, -⟩ := pack_eq_ok hserver
  obtain ⟨rfl, hdataSize, -⟩ := pack_eq_ok hsize
  obtain ⟨hdlength, hdecode⟩ := GtidSet.decode_of_encoded (GtidSet.written_of_mem hs) hdata
  refine ⟨s, hs, ?_⟩
  obtain rfl := Except.ok.inj hbytes
  have hcommand (rest : List UInt8) :
      readNumber 1 (comBinlogDumpGtid :: rest) = .ok (0x1e, rest) := rfl
  -- field after field, with the two lengths checked where they are read
  refine bind_eq_ok_iff.mpr ⟨_, readNumber_append (by omega), ?_⟩
  refine bind_eq_ok_iff.mpr ⟨(), if_pos ?_, ?_⟩
  · simp only [List.length_cons, List.length_append, length_littleEndian, List.length_replicate,
      hdlength, headerSize]
    omega
  refine bind_eq_ok_iff.mpr ⟨_, hcommand _, ?_⟩
  refine bind_eq_ok_iff.mpr ⟨_, readNumber_append (dumpFlags_lt blocking), ?_⟩
  refine bind_eq_ok_iff.mpr ⟨_, readNumber_append hserverId, ?_⟩
  refine bind_eq_ok_iff.mpr ⟨_, readNumber_append (by decide), ?_⟩
  have hname (rest : List UInt8) : (List.replicate 3 (0 : UInt8) ++ rest).drop 3 = rest :=
    List.drop_left' List.length_replicate
  simp only [hname]
  refine bind_eq_ok_iff.mpr ⟨_, readNumber_append (by decide), ?_⟩
  refine bind_eq_ok_iff.mpr ⟨_, readNumber_append hdataSize, ?_⟩
  refine bind_eq_ok_iff.mpr ⟨(), if_pos hdlength, ?_⟩
  refine bind_eq_ok_iff.mpr ⟨(s.lower, []), by simpa using hdecode [], ?_⟩
  refine bind_eq_ok_iff.mpr ⟨(), rfl, ?_⟩
  rw [List.take_left' List.length_replicate]
  rfl

end

theorem readDump_dumpGtid (blocking : Bool) (serverId : ℤ) (autoPosition : String) :
    ((∃ bytes, dumpGtid blocking serverId autoPosition = .ok bytes) ↔
      (0 ≤ serverId ∧ serverId < 256 ^ 4) ∧ ∃ s, GtidSet.new autoPosition = .ok s ∧ s.Fits ∧
        headerSize + s.encodedLength < 2 ^ 31) ∧
    ∀ bytes, dumpGtid blocking serverId autoPosition = .ok bytes →
      ∃ s, GtidSet.new autoPosition = .ok s ∧
        readDump bytes = .ok ⟨0x1e, dumpFlags blocking, serverId.toNat, List.replicate 3 0, 4,
          s.lower⟩ :=
  ⟨exists_dumpGtid_iff, fun _ h => readDump_of_dumpGtid h⟩

theorem readDump_dumpGtid_oneServer :
    ∃ bytes, dumpGtid true 1 "19d69c1e-ae97-4b8c-a1ef-9e12ba966457:1-3" = .ok bytes ∧
      readDump bytes = .ok ⟨0x1e, 0x04, 1, [0, 0, 0], 4,
        ⟨[⟨"19d69c1e-ae97-4b8c-a1ef-9e12ba966457", [(1, 4)]⟩]⟩⟩ := by
  have h : GtidSet.new "19d69c1e-ae97-4b8c-a1ef-9e12ba966457:1-3" =
      .ok ⟨[⟨"19d69c1e-ae97-4b8c-a1ef-9e12ba966457", [(1, 4)]⟩]⟩ := by decide +kernel
  have hlower : toLower "19d69c1e-ae97-4b8c-a1ef-9e12ba966457" =
      "19d69c1e-ae97-4b8c-a1ef-9e12ba966457" := by decide +kernel
  obtain ⟨hbuilt, hread⟩ :=
    readDump_dumpGtid true 1 "19d69c1e-ae97-4b8c-a1ef-9e12ba966457:1-3"
  obtain ⟨bytes, hbytes⟩ := hbuilt.mpr ⟨by decide, _, h, ⟨by decide, by simp⟩, by decide⟩
  obtain ⟨s, hs, hdump⟩ := hread bytes hbytes
  obtain rfl := Except.ok.inj (h.symm.trans hs)
  refine ⟨bytes, hbytes, hdump.trans ?_⟩
  rw [GtidSet.lower, List.map_singleton, Gtid.lower, hlower]
  rfl

end MysqlSync.Python
