import Mathlib.Algebra.Order.Group.Nat
import Mathlib.Algebra.Order.Monoid.Unbundled.Pow
import Mathlib.Data.List.Basic
import Mathlib.Tactic.Ring

/-!
# Numbers and text as bytes

The little-endian form of a number in a fixed width, which is read back exactly if the number fits
(`ofLittleEndian_littleEndian`), and the bytes of a text of hexadecimal digits, whose text in turn
is the first one in lower case (`hexlify_of_unhexlify`).
-/

namespace Bytes

/-! ### Numbers -/

/-- The lowest `w` bytes of a number, the least significant one first. -/
def littleEndian : ℕ → ℕ → List UInt8
  | 0, _ => []
  | w + 1, n => UInt8.ofNat n :: littleEndian w (n / 256)

def ofLittleEndian : List UInt8 → ℕ
  | [] => 0
  | b :: bs => b.toNat + 256 * ofLittleEndian bs

@[simp] lemma length_littleEndian (w n : ℕ) : (littleEndian w n).length = w := by
  induction w generalizing n with
  | zero => rfl
  | succ w ih => rw [littleEndian, List.length_cons, ih]

lemma ofLittleEndian_littleEndian {w n : ℕ} (h : n < 256 ^ w) :
    ofLittleEndian (littleEndian w n) = n := by
  induction w generalizing n with
  | zero =>
    obtain rfl : n = 0 := by simpa using h
    rfl
  | succ w ih =>
    have hdiv : n / 256 < 256 ^ w := by
      rw [Nat.div_lt_iff_lt_mul (by decide)]
      rwa [pow_succ] at h
    rw [littleEndian, ofLittleEndian, ih hdiv, UInt8.toNat_ofNat', Nat.mod_add_div]

/-! ### Hexadecimal digits -/

def hexDigits : List Char := "0123456789abcdef".toList

/-- The value of a digit in either case. -/
def hexValue (c : Char) : Option ℕ := hexDigits.findIdx? (· = c.toLower)

def hexDigit (n : ℕ) : Char := hexDigits.getD n '0'

/-- Two digits for each byte. -/
def hexlify (bytes : List UInt8) : List Char :=
  bytes.flatMap fun b => [hexDigit (b.toNat / 16), hexDigit (b.toNat % 16)]

def unhexlify : List Char → Option (List UInt8)
  | [] => some []
  | [_] => none
  | a :: b :: cs => (hexValue a).bind fun x => (hexValue b).bind fun y =>
      (unhexlify cs).map fun bytes => UInt8.ofNat (16 * x + y) :: bytes

variable {c : Char} {cs ds : List Char} {bytes : List UInt8} {n : ℕ}

lemma hexDigit_of_hexValue (h : hexValue c = some n) : n < 16 ∧ hexDigit n = c.toLower := by
  obtain ⟨hn, hc, -⟩ := List.findIdx?_eq_some_iff_getElem.mp h
  rw [decide_eq_true_eq] at hc
  refine ⟨hn, ?_⟩
  rw [hexDigit, List.getD_eq_getElem?_getD, List.getElem?_eq_getElem hn, Option.getD_some, hc]

lemma unhexlify_cons_cons_iff {a b : Char} : unhexlify (a :: b :: cs) = some bytes ↔
    ∃ x, hexValue a = some x ∧ ∃ y, hexValue b = some y ∧ ∃ rest, unhexlify cs = some rest ∧
      UInt8.ofNat (16 * x + y) :: rest = bytes := by
  rw [unhexlify]
  simp only [Option.bind_eq_some_iff, Option.map_eq_some_iff]

/-- Reading digits and writing them again puts them in lower case. -/
lemma hexlify_of_unhexlify (h : unhexlify cs = some bytes) :
    hexlify bytes = cs.map Char.toLower ∧ cs.length = 2 * bytes.length := by
  induction cs using unhexlify.induct generalizing bytes with
  | case1 =>
    obtain rfl := Option.some.inj h
    exact ⟨rfl, rfl⟩
  | case2 => cases h
  | case3 a b cs ih =>
    obtain ⟨x, hx, y, hy, rest, hrest, rfl⟩ := unhexlify_cons_cons_iff.mp h
    obtain ⟨hx16, hxa⟩ := hexDigit_of_hexValue hx
    obtain ⟨hy16, hyb⟩ := hexDigit_of_hexValue hy
    obtain ⟨htext, hlength⟩ := ih hrest
    have hbyte : (UInt8.ofNat (16 * x + y)).toNat = 16 * x + y := by
      rw [UInt8.toNat_ofNat']
      omega
    constructor
    · rw [hexlify] at htext ⊢
      have hhigh : (16 * x + y) / 16 = x := by omega
      have hlow : (16 * x + y) % 16 = y := by omega
      rw [List.flatMap_cons, htext, hbyte, hhigh, hlow, hxa, hyb]
      rfl
    · simp only [List.length_cons, hlength]
      omega

lemma unhexlify_append {as : List UInt8} (h : unhexlify cs = some as) :
    unhexlify (cs ++ ds) = (unhexlify ds).map (as ++ ·) := by
  induction cs using unhexlify.induct generalizing as with
  | case1 =>
    obtain rfl := Option.some.inj h
    simp
  | case2 => cases h
  | case3 a b cs ih =>
    obtain ⟨x, hx, y, hy, rest, hrest, rfl⟩ := unhexlify_cons_cons_iff.mp h
    rw [List.cons_append, List.cons_append, unhexlify, hx, hy, ih hrest]
    simp [Function.comp_def]

/-- An even number of digits stands for half as many bytes. -/
lemma exists_unhexlify (hdigits : ∀ c ∈ cs, (hexValue c).isSome = true)
    (hlength : cs.length = 2 * n) : ∃ bytes, unhexlify cs = some bytes ∧ bytes.length = n := by
  induction n generalizing cs with
  | zero => exact ⟨[], by rw [List.length_eq_zero_iff.mp hlength]; rfl, rfl⟩
  | succ n ih =>
    match cs, hlength with
    | a :: b :: cs, hlength =>
      obtain ⟨ha, hcs⟩ := List.forall_mem_cons.mp hdigits
      obtain ⟨hb, hcs⟩ := List.forall_mem_cons.mp hcs
      obtain ⟨x, hx⟩ := Option.isSome_iff_exists.mp ha
      obtain ⟨y, hy⟩ := Option.isSome_iff_exists.mp hb
      obtain ⟨rest, hrest, hn⟩ := ih hcs (by simpa [Nat.mul_succ] using hlength)
      exact ⟨_, unhexlify_cons_cons_iff.mpr ⟨x, hx, y, hy, rest, hrest, rfl⟩, by simp [hn]⟩
    | [a], hlength => simp [Nat.mul_succ] at hlength

end Bytes
