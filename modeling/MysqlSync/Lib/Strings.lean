import Mathlib.Algebra.Group.Nat.Defs
import Mathlib.Data.List.DropRight
import Mathlib.Tactic.Common

/-!
# Splitting and trimming text

The string functions the program takes from its language's library, over the characters of a
string: `split` at a one-character separator, `trimSpace`, `join`, `parseInt64` and `parseUint64`.
`split` undoes `join` (`split_join`), and `parseUint64` undoes the decimal form of a number
(`parseUint64_repr`).
-/

namespace Strings

/-- The white space of Unicode: the Latin-1 spaces and the space separators beyond them. -/
def isSpace (c : Char) : Bool :=
  c ∈ ['\t', '\n', '\x0b', '\x0c', '\r', ' ', '\u0085', '\u00a0', '\u1680', '\u2028', '\u2029',
    '\u202f', '\u205f', '\u3000'] || ('\u2000' ≤ c && c ≤ '\u200a')

/-- `s` without its leading and trailing white space. -/
def trimSpace (s : String) : String :=
  String.ofList ((s.toList.dropWhile isSpace).rdropWhile isSpace)

/-- The substrings of `s` between the separators; the empty string gives one empty substring. -/
def split (s : String) (sep : Char) : List String :=
  (s.toList.splitOn sep).map String.ofList

/-- The strings of `parts` with `sep` between neighbours. -/
def join (parts : List String) (sep : String) : String := sep.intercalate parts

/-- The number a list of decimal digits stands for, from the number `n` read so far. -/
def digitsFrom (n : ℕ) : List Char → Option ℕ
  | [] => some n
  | c :: cs => if c.isDigit then digitsFrom (10 * n + (c.toNat - '0'.toNat)) cs else none

/-- The decimal integer in `s`, with an optional sign, if it fits in 64 bits. -/
def parseInt64 (s : String) : Option Int64 :=
  let (neg, digits) := match s.toList with
    | '+' :: cs => (false, cs)
    | '-' :: cs => (true, cs)
    | cs => (false, cs)
  match digits, digitsFrom 0 digits with
  | [], _ => none
  | _, none => none
  | _, some n =>
    if neg then if n ≤ 2 ^ 63 then some (Int64.ofInt (-n)) else none
    else if n < 2 ^ 63 then some (Int64.ofNat n) else none

example : parseInt64 "-12" = some (-12) ∧ parseInt64 "9223372036854775808" = none ∧
    parseInt64 "" = none ∧ parseInt64 "1_0" = none := by decide

/-- The decimal number in `s`, if it fits in 64 bits. -/
def parseUint64 (s : String) : Option UInt64 :=
  if s = "" then none
  else (digitsFrom 0 s.toList).bind fun n => if n < 2 ^ 64 then some (UInt64.ofNat n) else none

/-! ### Splitting -/

lemma split_join {parts : List String} {sep : String} {c : Char} (hsep : sep.toList = [c])
    (hne : parts ≠ []) (hc : ∀ part ∈ parts, c ∉ part.toList) :
    split (join parts sep) c = parts := by
  rw [split, join, String.toList_intercalate, hsep, List.splitOn_intercalate c ?_ ?_]
  · simp
  · intro l hl
    obtain ⟨part, hpart, rfl⟩ := List.mem_map.mp hl
    exact hc part hpart
  · simpa using hne

lemma join_cons {part : String} {parts : List String} (hne : parts ≠ []) (sep : String) :
    join (part :: parts) sep = part ++ sep ++ join parts sep :=
  String.intercalate_cons_of_ne_nil hne

lemma append_join (pad part : String) (parts : List String) (sep : String) :
    pad ++ join (part :: parts) sep = join ((pad ++ part) :: parts) sep := by
  cases parts with
  | nil => simp [join]
  | cons part' parts =>
    rw [join_cons (List.cons_ne_nil _ _), join_cons (List.cons_ne_nil _ _)]
    simp only [String.append_assoc]

/-- A longer separator pads the parts after the first one. -/
lemma join_append (part : String) (parts : List String) (sep pad : String) :
    join (part :: parts) (sep ++ pad) = join (part :: parts.map (pad ++ ·)) sep := by
  induction parts generalizing part with
  | nil => simp [join]
  | cons part' parts ih =>
    rw [List.map_cons, join_cons (List.cons_ne_nil _ _), join_cons (List.cons_ne_nil _ _), ih,
      ← append_join]
    simp only [String.append_assoc]

lemma notMem_and_subset_of_mem_splitOn {cs l : List Char} {c : Char} (h : l ∈ cs.splitOn c) :
    c ∉ l ∧ l ⊆ cs := by
  induction cs generalizing l with
  | nil =>
    rw [List.splitOn_nil, List.mem_singleton] at h
    simp [h]
  | cons a cs ih =>
    rw [List.splitOn_cons_eq_if_modifyHead] at h
    split_ifs at h with ha
    · rcases List.mem_cons.mp h with rfl | h
      · simp
      · exact ⟨(ih h).1, List.subset_cons_of_subset a (ih h).2⟩
    · -- the head of the rest's first substring is `a`, which is no separator
      cases hsplit : cs.splitOn c with
      | nil => exact absurd hsplit (List.splitOn_ne_nil c cs)
      | cons first rest =>
        rw [hsplit] at h ih
        rcases List.mem_cons.mp h with rfl | h
        · have hfirst := ih List.mem_cons_self
          have hne : c ≠ a := by
            rintro rfl
            simp at ha
          exact ⟨by simp [hne, hfirst.1], List.cons_subset_cons a hfirst.2⟩
        · have hl := ih (List.mem_cons_of_mem first h)
          exact ⟨hl.1, List.subset_cons_of_subset a hl.2⟩

/-- A substring between separators has no separator and only characters of the string. -/
lemma notMem_and_subset_of_mem_split {s part : String} {c : Char} (h : part ∈ split s c) :
    c ∉ part.toList ∧ part.toList ⊆ s.toList := by
  obtain ⟨l, hl, rfl⟩ := List.mem_map.mp h
  rw [String.toList_ofList]
  exact notMem_and_subset_of_mem_splitOn hl

/-- A string with a separator has at least two substrings. -/
lemma exists_split_of_mem {s : String} {c : Char} (h : c ∈ s.toList) :
    ∃ first second rest, split s c = first :: second :: rest := by
  cases hsplit : s.toList.splitOn c with
  | nil => exact absurd hsplit (List.splitOn_ne_nil c s.toList)
  | cons first rest =>
    cases rest with
    | nil =>
      have hall : [c].intercalate (s.toList.splitOn c) = s.toList := List.intercalate_splitOn c
      have hfirst : first = s.toList := by
        rw [hsplit] at hall
        simpa using hall
      have hnot := (notMem_and_subset_of_mem_splitOn (hsplit ▸ List.mem_singleton_self first)).1
      exact absurd (hfirst ▸ h) hnot
    | cons second rest => exact ⟨_, _, _, by rw [split, hsplit]; rfl⟩

/-- A string with one separator is put together from its two substrings. -/
lemma toList_of_split_eq {s a b : String} {c : Char} (h : split s c = [a, b]) :
    s.toList = a.toList ++ c :: b.toList := by
  have hsplit : s.toList.splitOn c = [a.toList, b.toList] := by
    have hmap := congrArg (List.map String.toList) h
    simpa [split, Function.comp_def] using hmap
  have hall : [c].intercalate (s.toList.splitOn c) = s.toList := List.intercalate_splitOn c
  rw [← hall, hsplit]
  simp [List.intercalate]

lemma split_ofList {c : Char} {xs ys : List Char} (hx : c ∉ xs) (hy : c ∉ ys) :
    split (String.ofList (xs ++ c :: ys)) c = [String.ofList xs, String.ofList ys] := by
  have hjoin : String.ofList (xs ++ c :: ys) =
      join [String.ofList xs, String.ofList ys] (String.singleton c) := by
    rw [← String.toList_inj, join, String.toList_intercalate]
    simp [List.intercalate]
  rw [hjoin]
  refine split_join (by simp) (by simp) fun part hpart => ?_
  simp only [List.mem_cons, List.not_mem_nil, or_false] at hpart
  rcases hpart with rfl | rfl
  · simpa using hx
  · simpa using hy

lemma mem_join {c : Char} {parts : List String} {sep : String} (h : c ∈ (join parts sep).toList) :
    c ∈ sep.toList ∨ ∃ part ∈ parts, c ∈ part.toList := by
  induction parts with
  | nil => simp [join] at h
  | cons part parts ih =>
    by_cases hnil : parts = []
    · subst hnil
      exact Or.inr ⟨part, List.mem_cons_self, by simpa [join] using h⟩
    · rw [join, String.intercalate_cons_of_ne_nil hnil, String.toList_append, String.toList_append,
        List.mem_append, List.mem_append] at h
      rcases h with (h | h) | h
      · exact Or.inr ⟨part, List.mem_cons_self, h⟩
      · exact Or.inl h
      · rcases ih h with h | ⟨part', hpart', h⟩
        · exact Or.inl h
        · exact Or.inr ⟨part', List.mem_cons_of_mem part hpart', h⟩

/-! ### Decimal numbers -/

lemma digitsFrom_of_isDigit (n : ℕ) {cs : List Char} (h : ∀ c ∈ cs, c.isDigit = true) :
    digitsFrom n cs = some (Nat.ofDigitChars 10 cs n) := by
  induction cs generalizing n with
  | nil => simp [digitsFrom]
  | cons c cs ih =>
    rw [digitsFrom, if_pos (h c List.mem_cons_self), Nat.ofDigitChars_cons]
    exact ih _ fun c' hc' => h c' (List.mem_cons_of_mem c hc')

lemma isDigit_of_digitsFrom {n k : ℕ} {cs : List Char} (h : digitsFrom n cs = some k) :
    ∀ c ∈ cs, c.isDigit = true := by
  induction cs generalizing n with
  | nil => simp
  | cons c cs ih =>
    rw [digitsFrom] at h
    split_ifs at h with hc
    exact List.forall_mem_cons.mpr ⟨hc, ih h⟩

lemma parseUint64_repr (n : UInt64) : parseUint64 n.toNat.repr = some n := by
  have hdigits : ∀ c ∈ n.toNat.repr.toList, c.isDigit = true := by
    intro c hc
    rw [Nat.toList_repr] at hc
    exact Nat.isDigit_of_mem_toDigits (by decide) (by decide) hc
  have hvalue : digitsFrom 0 n.toNat.repr.toList = some n.toNat := by
    rw [digitsFrom_of_isDigit 0 hdigits, Nat.toList_repr, Nat.ofDigitChars_ten_toDigits]
  have hne : n.toNat.repr ≠ "" := by
    rw [Ne, ← String.toList_inj, Nat.toList_repr]
    exact Nat.toDigits_ne_nil
  rw [parseUint64, if_neg hne, hvalue, Option.bind_some, if_pos n.toNat_lt, UInt64.ofNat_toNat]

lemma isDigit_of_mem_repr {n : ℕ} {c : Char} (h : c ∈ n.repr.toList) : c.isDigit = true := by
  rw [Nat.toList_repr] at h
  exact Nat.isDigit_of_mem_toDigits (by decide) (by decide) h

lemma repr_ne_empty (n : ℕ) : n.repr ≠ "" := by
  rw [Ne, ← String.toList_inj, Nat.toList_repr]
  exact Nat.toDigits_ne_nil

lemma digitsFrom_repr (n : ℕ) : digitsFrom 0 n.repr.toList = some n := by
  rw [digitsFrom_of_isDigit 0 fun c hc => isDigit_of_mem_repr hc, Nat.toList_repr,
    Nat.ofDigitChars_ten_toDigits]

/-! ### Trimming -/

lemma isSpace_of_isDigit {c : Char} (h : c.isDigit = true) : isSpace c = false := by
  rw [Bool.eq_false_iff]
  intro hspace
  rw [isSpace, Bool.or_eq_true] at hspace
  rcases hspace with hmem | hrange
  · simp only [decide_eq_true_eq, List.mem_cons, List.not_mem_nil, or_false] at hmem
    rcases hmem with rfl | rfl | rfl | rfl | rfl | rfl | rfl | rfl | rfl | rfl | rfl | rfl | rfl |
      rfl <;> exact absurd h (by decide)
  · simp only [Bool.and_eq_true, decide_eq_true_eq] at hrange
    simp only [Char.isDigit, Bool.and_eq_true, decide_eq_true_eq] at h
    exact absurd (UInt32.le_trans hrange.1 h.2) (by decide)

/-- `s` without the characters at both ends that satisfy `p`. -/
def trimBy (p : Char → Bool) (s : String) : String :=
  String.ofList ((s.toList.dropWhile p).rdropWhile p)

lemma mem_of_mem_trimBy {p : Char → Bool} {s : String} {c : Char}
    (h : c ∈ (trimBy p s).toList) : c ∈ s.toList := by
  rw [trimBy, String.toList_ofList] at h
  exact (List.dropWhile_sublist p).subset (List.rdropWhile_prefix p _ |>.subset h)

/-- Trimming stops on both sides of a character that is not trimmed. -/
lemma trimBy_append {p : Char → Bool} {xs ys : List Char} {c : Char} (hc : p c = false)
    (hys : ys.rdropWhile p = ys) :
    trimBy p (String.ofList (xs ++ c :: ys)) = String.ofList (xs.dropWhile p ++ c :: ys) := by
  have hleft : (xs ++ c :: ys).dropWhile p = xs.dropWhile p ++ c :: ys := by
    rw [List.dropWhile_append]
    split_ifs with hnil
    · rw [List.isEmpty_iff.mp hnil, List.dropWhile_cons_of_neg (by simp [hc])]
      rfl
    · rfl
  have hright : (xs.dropWhile p ++ c :: ys).rdropWhile p = xs.dropWhile p ++ c :: ys := by
    rw [List.rdropWhile_eq_self_iff]
    intro hne
    by_cases hnil : ys = []
    · subst hnil
      simp [hc]
    · rw [List.getLast_append_of_ne_nil _ (List.cons_ne_nil c ys), List.getLast_cons hnil]
      exact List.rdropWhile_eq_self_iff.mp hys hnil
  rw [trimBy, String.toList_ofList, hleft, hright]

lemma trimSpace_append {xs ys : List Char} {c : Char} (hc : isSpace c = false)
    (hys : ys.rdropWhile isSpace = ys) :
    trimSpace (String.ofList (xs ++ c :: ys)) =
      String.ofList (xs.dropWhile isSpace ++ c :: ys) :=
  trimBy_append hc hys

/-- Trimming leaves nothing exactly when there is nothing but white space. -/
lemma trimSpace_eq_empty_iff (s : String) :
    trimSpace s = "" ↔ ∀ c ∈ s.toList, isSpace c = true := by
  rw [← String.toList_inj]
  simp only [trimSpace, String.toList_ofList, String.toList_empty, List.rdropWhile_eq_nil_iff]
  constructor
  · intro h
    have hnil : s.toList.dropWhile isSpace = [] := by
      rw [← List.dropWhile_idempotent, List.dropWhile_eq_nil_iff]
      exact h
    exact List.dropWhile_eq_nil_iff.mp hnil
  · intro h c hc
    exact h c ((List.dropWhile_sublist isSpace).subset hc)

/-- A trimmed string that is not empty is not white space. -/
lemma trimSpace_trimSpace_ne_empty {s : String} (h : trimSpace s ≠ "") :
    trimSpace (trimSpace s) ≠ "" := by
  rw [Ne, trimSpace_eq_empty_iff]
  intro hall
  simp only [trimSpace, String.toList_ofList] at hall
  have hne : (s.toList.dropWhile isSpace).rdropWhile isSpace ≠ [] := by
    intro hnil
    exact h (by rw [trimSpace, hnil])
  exact List.rdropWhile_last_not isSpace _ hne (hall _ (List.getLast_mem hne))

end Strings
