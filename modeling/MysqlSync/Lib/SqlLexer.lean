import Mathlib.Data.List.Forall2
import Mathlib.Tactic.Common

/-!
# Reading SQL text

The tokens a server with the default SQL mode reads from the text of a statement, one character at
a time. A name between backquotes is one token whatever is in it, with a doubled backquote for one
of its own; the string literals end at their quote unless it is doubled or escaped; comments are
skipped. Everything else is a word, a placeholder or a single character.

`ReadsAs` compares the tokens of a text with the pieces a statement is made of. A text put together
from fixed parts and quoted names is read part by part (`Fixed`, `part_quoted`,
`Part.intercalate`).
-/

namespace SqlLexer

inductive Token where
  | word (text : List Char)
  | ident (name : List Char)
  /-- A string literal, with its content as it is written. -/
  | string (raw : List Char)
  | placeholder
  | punct (c : Char)
  deriving DecidableEq, Repr

/-- Where in a token the text read so far ends. -/
inductive State where
  | start
  | word (acc : List Char)
  | quoted (acc : List Char)
  /-- After a backquote, which ends the name unless another one follows. -/
  | quotedEnd (acc : List Char)
  | string (quote : Char) (acc : List Char)
  | stringEscape (quote : Char) (acc : List Char)
  | stringEnd (quote : Char) (acc : List Char)
  | line
  | blockOpen
  | block
  | blockEnd
  deriving DecidableEq, Repr

def isBlank (c : Char) : Bool := c ∈ [' ', '\t', '\n', '\x0b', '\x0c', '\r']

/-- The characters of a name that needs no quotes. -/
def isWordChar (c : Char) : Bool :=
  c.isAlphanum || c = '$' || c = '_' || ('\u0080' ≤ c && c ≤ '\uffff')

/-- Two dashes begin a comment when a blank or a control character, or nothing, follows them. -/
def dashComment : List Char → Bool
  | '-' :: rest => rest.head?.all fun c => isBlank c || c < ' '
  | _ => false

/-- The tokens complete at the character `c` outside every token, and the state after it. The text
of a comment of the form `/*! ... */` belongs to the statement for some servers and not for
others: it is not read. -/
def begin (c : Char) (rest : List Char) : Option (List Token × State) :=
  if isBlank c then some ([], .start)
  else if isWordChar c then some ([], .word [c])
  else if c = '\x60' then some ([], .quoted [])
  else if c = '\x27' || c = '"' then some ([], .string c [])
  else if c = '?' then some ([.placeholder], .start)
  else if c = '#' then some ([], .line)
  else if c = '-' && dashComment rest then some ([], .line)
  else if c = '/' && rest.head? = some '*' then
    if rest.tail.head? = some '!' then none else some ([], .blockOpen)
  else some ([.punct c], .start)

/-- The token `tok` ends before the character `c`. -/
def endToken (tok : Token) (c : Char) (rest : List Char) : Option (List Token × State) :=
  (begin c rest).map fun (toks, st) => (tok :: toks, st)

def next (c : Char) (rest : List Char) : State → Option (List Token × State)
  | .start => begin c rest
  | .word acc =>
    if isWordChar c then some ([], .word (acc ++ [c])) else endToken (.word acc) c rest
  | .quoted acc => some ([], if c = '\x60' then .quotedEnd acc else .quoted (acc ++ [c]))
  | .quotedEnd acc =>
    if c = '\x60' then some ([], .quoted (acc ++ [c])) else endToken (.ident acc) c rest
  | .string quote acc =>
    some ([], if c = quote then .stringEnd quote acc
      else if c = '\\' then .stringEscape quote (acc ++ [c])
      else .string quote (acc ++ [c]))
  | .stringEscape quote acc => some ([], .string quote (acc ++ [c]))
  | .stringEnd quote acc =>
    if c = quote then some ([], .string quote (acc ++ [c, c])) else endToken (.string acc) c rest
  | .line => some ([], if c = '\n' then .start else .line)
  | .blockOpen => some ([], .block)
  | .block => some ([], if c = '*' && rest.head? = some '/' then .blockEnd else .block)
  | .blockEnd => some ([], .start)

/-- The token a text ends with, `none` if the text ends inside it. -/
def finish : State → Option (List Token)
  | .start | .line => some []
  | .word acc => some [.word acc]
  | .quotedEnd acc => some [.ident acc]
  | .stringEnd _ acc => some [.string acc]
  | _ => none

def lexFrom (st : State) : List Char → Option (List Token)
  | [] => finish st
  | c :: cs => (next c cs st).bind fun (toks, st') => (lexFrom st' cs).map (toks ++ ·)

def lex (cs : List Char) : Option (List Token) := lexFrom .start cs

example : lex "USE a-b #".toList =
      some [.word "USE".toList, .word "a".toList, .punct '-', .word "b".toList] ∧
    lex "\x60a\x60\x60 ?\x60.'?' -- c".toList =
      some [.ident "a\x60 ?".toList, .punct '.', .string "?".toList] ∧
    lex "\x60a".toList = none := by decide +kernel

/-! ### Where a token ends -/

def StartsQuoted (cs : List Char) : Prop := cs.head? = some '\x60'

instance (cs : List Char) : Decidable (StartsQuoted cs) := inferInstanceAs (Decidable (_ = _))

/-- A character that completes no token only changes the state. -/
lemma lexFrom_cons {st st' : State} {c : Char} {cs : List Char}
    (h : next c cs st = some ([], st')) : lexFrom st (c :: cs) = lexFrom st' cs := by
  rw [lexFrom, h]
  simp

lemma lexFrom_of_next_eq_endToken {st : State} {tok : Token} {cs : List Char}
    (hfinish : finish st = some [tok])
    (hnext : ∀ c rest, cs = c :: rest → next c rest st = endToken tok c rest) :
    lexFrom st cs = (lex cs).map (tok :: ·) := by
  cases cs with
  | nil => exact hfinish
  | cons c rest =>
    have hstart : next c rest .start = begin c rest := rfl
    rw [lex, lexFrom, lexFrom, hnext c rest rfl, hstart, endToken]
    cases begin c rest with
    | none => rfl
    | some out =>
      cases hrest : lexFrom out.2 rest <;> simp [hrest]

lemma lexFrom_quotedEnd {cs : List Char} (hcs : ¬ StartsQuoted cs) (acc : List Char) :
    lexFrom (.quotedEnd acc) cs = (lex cs).map (.ident acc :: ·) := by
  refine lexFrom_of_next_eq_endToken rfl fun c rest h => ?_
  have hc : c ≠ '\x60' := by
    rintro rfl
    exact hcs (by rw [h]; rfl)
  rw [next, if_neg hc]

lemma lexFrom_word {cs : List Char} (hcs : ∀ c ∈ cs.head?, isWordChar c = false)
    (acc : List Char) : lexFrom (.word acc) cs = (lex cs).map (.word acc :: ·) := by
  refine lexFrom_of_next_eq_endToken rfl fun c rest h => ?_
  have hc : isWordChar c = false := hcs c (by simp [h])
  rw [next, hc, if_neg Bool.false_ne_true]

/-- Characters of a word extend it. -/
lemma lexFrom_word_append {w : List Char} (hw : ∀ c ∈ w, isWordChar c = true)
    (acc cs : List Char) : lexFrom (.word acc) (w ++ cs) = lexFrom (.word (acc ++ w)) cs := by
  induction w generalizing acc with
  | nil => simp
  | cons c w ih =>
    obtain ⟨hc, hw⟩ := List.forall_mem_cons.mp hw
    have hnext : next c (w ++ cs) (.word acc) = some ([], .word (acc ++ [c])) := if_pos hc
    rw [List.cons_append, lexFrom_cons hnext, ih hw, List.append_assoc, List.singleton_append]

lemma isBlank_of_isWordChar {c : Char} (h : isWordChar c = true) : isBlank c = false := by
  rw [Bool.eq_false_iff]
  intro hblank
  simp only [isBlank, decide_eq_true_eq, List.mem_cons, List.not_mem_nil, or_false] at hblank
  rcases hblank with rfl | rfl | rfl | rfl | rfl | rfl <;> exact absurd h (by decide)

/-- A word ends where its characters do. -/
lemma lex_word_append {w cs : List Char} (hne : w ≠ []) (hw : ∀ c ∈ w, isWordChar c = true)
    (hcs : ∀ c ∈ cs.head?, isWordChar c = false) :
    lex (w ++ cs) = (lex cs).map (.word w :: ·) := by
  cases w with
  | nil => exact absurd rfl hne
  | cons c w =>
    obtain ⟨hc, hw⟩ := List.forall_mem_cons.mp hw
    have hnext : next c (w ++ cs) .start = some ([], .word [c]) := by
      rw [next, begin, isBlank_of_isWordChar hc, if_neg Bool.false_ne_true, if_pos hc]
    rw [List.cons_append, lex, lexFrom_cons hnext, lexFrom_word_append hw, lexFrom_word hcs]
    rfl

/-! ### Quoted names -/

/-- A name as it stands between backquotes. -/
def escape (name : List Char) : List Char :=
  name.flatMap fun c => if c = '\x60' then ['\x60', '\x60'] else [c]

lemma lexFrom_quoted {name rest : List Char} (hname : '\x60' ∉ name) (hrest : ¬ StartsQuoted rest)
    (acc : List Char) :
    lexFrom (.quoted acc) (name ++ '\x60' :: rest) =
      (lex rest).map (.ident (acc ++ name) :: ·) := by
  induction name generalizing acc with
  | nil =>
    have hnext : next '\x60' rest (.quoted acc) = some ([], .quotedEnd acc) := rfl
    rw [List.nil_append, lexFrom_cons hnext, lexFrom_quotedEnd hrest, List.append_nil]
  | cons c name ih =>
    obtain ⟨hc, hname⟩ := not_or.mp (mt List.mem_cons.mpr hname)
    have hnext : next c (name ++ '\x60' :: rest) (.quoted acc) =
        some ([], .quoted (acc ++ [c])) := by
      rw [next, if_neg (Ne.symm hc)]
    rw [List.cons_append, lexFrom_cons hnext, ih hname, List.append_assoc, List.singleton_append]

/-- The first token of a text read inside a quoted name ends where its escaped form does. -/
lemma exists_escape_of_lexFrom {cs : List Char} {acc : List Char} {toks : List Token} :
    (lexFrom (.quoted acc) cs = some toks →
      ∃ name rest toks', cs = escape name ++ '\x60' :: rest ∧
        toks = .ident (acc ++ name) :: toks') ∧
    (lexFrom (.quotedEnd acc) cs = some toks →
      ∃ name rest toks', '\x60' :: cs = escape name ++ '\x60' :: rest ∧
        toks = .ident (acc ++ name) :: toks') := by
  induction cs generalizing acc with
  | nil =>
    refine ⟨fun h => ?_, fun h => ⟨[], [], [], rfl, ?_⟩⟩
    · simp [lexFrom, finish] at h
    · simpa [lexFrom, finish] using h.symm
  | cons c cs ih =>
    constructor
    · intro h
      rw [lexFrom, next, Option.bind_some] at h
      by_cases hc : c = '\x60'
      · subst hc
        rw [if_pos rfl] at h
        exact ih.2 (by simpa using h)
      · rw [if_neg hc] at h
        obtain ⟨name, rest, toks', rfl, rfl⟩ := ih.1 (by simpa using h)
        exact ⟨c :: name, rest, toks', by simp [escape, hc], by simp⟩
    · intro h
      by_cases hc : c = '\x60'
      · subst hc
        rw [lexFrom, next, if_pos rfl, Option.bind_some] at h
        obtain ⟨name, rest, toks', rfl, rfl⟩ := ih.1 (by simpa using h)
        exact ⟨'\x60' :: name, rest, toks', by simp [escape], by simp⟩
      · have hstart : ¬ StartsQuoted (c :: cs) := by simpa [StartsQuoted] using hc
        rw [lexFrom_quotedEnd hstart] at h
        obtain ⟨toks', -, rfl⟩ := Option.map_eq_some_iff.mp h
        exact ⟨[], c :: cs, toks', rfl, by simp⟩

/-- With more backquotes in front, the escaped form of a name never catches up with the name. -/
lemma append_ne_replicate_escape {rest : List Char} (hrest : ¬ StartsQuoted rest)
    (name rest' : List Char) (k : ℕ) :
    name ++ '\x60' :: rest ≠
      List.replicate (k + 1) '\x60' ++ (escape name ++ '\x60' :: rest') := by
  induction name generalizing k with
  | nil =>
    intro h
    rw [List.replicate_succ, List.cons_append, List.nil_append, List.cons.injEq] at h
    refine hrest ?_
    rw [StartsQuoted, h.2]
    cases k <;> rfl
  | cons c name ih =>
    intro h
    rw [List.replicate_succ, List.cons_append, List.cons_append, List.cons.injEq] at h
    obtain ⟨rfl, h⟩ := h
    refine ih (k + 1) ?_
    rw [h]
    simp [escape, List.replicate_succ']

/-- A text closes a quoted name as its own escaped form only if there is no backquote in it. -/
lemma notMem_of_append_eq_escape {name rest rest' : List Char} (hrest : ¬ StartsQuoted rest)
    (h : name ++ '\x60' :: rest = escape name ++ '\x60' :: rest') : '\x60' ∉ name := by
  induction name with
  | nil => simp
  | cons c name ih =>
    by_cases hc : c = '\x60'
    · subst hc
      refine absurd ?_ (append_ne_replicate_escape hrest name rest' 0)
      simpa [escape] using h
    · have htail : name ++ '\x60' :: rest = escape name ++ '\x60' :: rest' := by
        simpa [escape, hc] using h
      exact List.not_mem_cons_of_ne_of_not_mem (Ne.symm hc) (ih htail)

/-! ### What the tokens of a text can be -/

/-- A word has only characters of words; a name is at least two characters shorter than `n`. -/
def Token.Within (n : ℕ) : Token → Prop
  | .word text => ∀ c ∈ text, isWordChar c = true
  | .ident name => name.length + 2 ≤ n
  | _ => True

def State.Within (n : ℕ) : State → Prop
  | .word acc => ∀ c ∈ acc, isWordChar c = true
  | .quoted acc => acc.length + 1 ≤ n
  | .quotedEnd acc => acc.length + 2 ≤ n
  | _ => True

lemma Token.Within.mono {tok : Token} {m n : ℕ} (h : tok.Within m) (hmn : m ≤ n) :
    tok.Within n := by
  cases tok with
  | ident name => exact Nat.le_trans h hmn
  | _ => exact h

lemma begin_within {c : Char} {rest : List Char} {toks : List Token} {st : State} {n : ℕ}
    (hn : 1 ≤ n) (h : begin c rest = some (toks, st)) :
    (∀ tok ∈ toks, tok.Within n) ∧ st.Within n := by
  have hnil : ∀ tok ∈ ([] : List Token), tok.Within n := List.forall_mem_nil _
  unfold begin at h
  -- one character class after the other, in the order of `begin`
  split_ifs at h with _ hword <;> cases h
  · exact ⟨hnil, trivial⟩
  · exact ⟨hnil, List.forall_mem_singleton.mpr hword⟩
  · exact ⟨hnil, hn⟩
  · exact ⟨hnil, trivial⟩
  · exact ⟨List.forall_mem_singleton.mpr trivial, trivial⟩
  · exact ⟨hnil, trivial⟩
  · exact ⟨hnil, trivial⟩
  · exact ⟨hnil, trivial⟩
  · exact ⟨List.forall_mem_singleton.mpr trivial, trivial⟩

lemma endToken_within {tok : Token} {c : Char} {rest : List Char} {toks : List Token} {st : State}
    {n : ℕ} (hn : 1 ≤ n) (htok : tok.Within n) (h : endToken tok c rest = some (toks, st)) :
    (∀ tok ∈ toks, tok.Within n) ∧ st.Within n := by
  obtain ⟨⟨toks', st'⟩, hbegin, heq⟩ := Option.map_eq_some_iff.mp h
  cases heq
  obtain ⟨htoks, hst⟩ := begin_within hn hbegin
  exact ⟨List.forall_mem_cons.mpr ⟨htok, htoks⟩, hst⟩

lemma next_within {c : Char} {rest : List Char} {st st' : State} {toks : List Token} {n : ℕ}
    (hst : st.Within n) (h : next c rest st = some (toks, st')) :
    (∀ tok ∈ toks, tok.Within (n + 1)) ∧ st'.Within (n + 1) := by
  cases st with
  | start => exact begin_within (by omega) h
  | word acc =>
    rw [next] at h
    split_ifs at h with hc
    · cases h
      have hacc : ∀ c ∈ acc, isWordChar c = true := hst
      refine ⟨by simp, fun d hd => ?_⟩
      rcases List.mem_append.mp hd with hd | hd
      · exact hacc d hd
      · rwa [List.mem_singleton.mp hd]
    · have htok : (Token.word acc).Within (n + 1) := hst
      exact endToken_within (by omega) htok h
  | quoted acc =>
    have hacc : acc.length + 1 ≤ n := hst
    rw [next] at h
    split_ifs at h <;> cases h <;> simp [State.Within] <;> omega
  | quotedEnd acc =>
    have hacc : acc.length + 2 ≤ n := hst
    rw [next] at h
    split_ifs at h with hc
    · cases h
      refine ⟨by simp, ?_⟩
      simp [State.Within]
      omega
    · have htok : (Token.ident acc).Within (n + 1) := Nat.le_succ_of_le hacc
      exact endToken_within (by omega) htok h
  | stringEnd quote acc =>
    rw [next] at h
    split_ifs at h
    · cases h
      simp [State.Within]
    · have htok : (Token.string acc).Within (n + 1) := trivial
      exact endToken_within (by omega) htok h
  | _ =>
    simp only [next] at h
    (try split_ifs at h) <;> cases h <;> simp [State.Within]

lemma finish_within {st : State} {toks : List Token} {n : ℕ} (hst : st.Within n)
    (h : finish st = some toks) : ∀ tok ∈ toks, tok.Within n := by
  cases st <;> cases h
  case word acc => exact List.forall_mem_singleton.mpr hst
  case quotedEnd acc => exact List.forall_mem_singleton.mpr hst
  case stringEnd quote acc => exact List.forall_mem_singleton.mpr trivial
  all_goals exact List.forall_mem_nil _

lemma within_of_lexFrom {st : State} {cs : List Char} {toks : List Token} {n : ℕ}
    (hst : st.Within n) (h : lexFrom st cs = some toks) :
    ∀ tok ∈ toks, tok.Within (n + cs.length) := by
  induction cs generalizing st toks n with
  | nil => exact finish_within hst h
  | cons c cs ih =>
    obtain ⟨⟨emitted, st'⟩, hnext, hrest⟩ := Option.bind_eq_some_iff.mp h
    obtain ⟨toks', htoks', rfl⟩ := Option.map_eq_some_iff.mp hrest
    obtain ⟨hemitted, hst'⟩ := next_within hst hnext
    intro tok htok
    rcases List.mem_append.mp htok with htok | htok
    · exact (hemitted tok htok).mono (by simp)
    · exact (ih hst' htoks' tok htok).mono (by simp; omega)

lemma within_of_lex {cs : List Char} {toks : List Token} (h : lex cs = some toks) :
    ∀ tok ∈ toks, tok.Within cs.length := by
  have hstart : State.Within 0 .start := trivial
  simpa using within_of_lexFrom hstart h

/-! ### Reading a text as the pieces of a statement -/

inductive Piece where
  | keyword (text : String)
  | name (name : String)
  /-- A placeholder, with what the value bound to it is for. -/
  | placeholder (use : String)
  | punct (c : Char)
  deriving DecidableEq, Repr

/-- A name is quoted, or a word the server takes for a name: no number and none of its
`reserved` words. -/
def Matches (reserved : String → Bool) : Token → Piece → Prop
  | .word text, .keyword k => text = k.toList
  | .ident text, .name n => text = n.toList
  | .word text, .name n => text = n.toList ∧ reserved n = false
  | .placeholder, .placeholder _ => True
  | .punct c, .punct d => c = d
  | _, _ => False

lemma Matches.keyword_eq {reserved : String → Bool} {tok : Token} {k k' : String}
    (h : Matches reserved tok (.keyword k)) (h' : Matches reserved tok (.keyword k')) : k = k' := by
  cases tok with
  | word text => exact String.toList_inj.mp (h.symm.trans h')
  | _ => exact h.elim

lemma Matches.name_eq {reserved : String → Bool} {tok : Token} {n n' : String}
    (h : Matches reserved tok (.name n)) (h' : Matches reserved tok (.name n')) : n = n' := by
  cases tok with
  | word text => exact String.toList_inj.mp (h.1.symm.trans h'.1)
  | ident text => exact String.toList_inj.mp (h.symm.trans h')
  | _ => exact h.elim

/-- What the placeholders among `pieces` are for, in order. -/
def placeholders (pieces : List Piece) : List String :=
  pieces.filterMap fun
    | .placeholder use => some use
    | _ => none

@[simp] lemma placeholders_append (pieces pieces' : List Piece) :
    placeholders (pieces ++ pieces') = placeholders pieces ++ placeholders pieces' :=
  List.filterMap_append

lemma placeholders_intercalate {sep : List Piece} (hsep : placeholders sep = [])
    (parts : List (List Piece)) :
    placeholders (sep.intercalate parts) = parts.flatMap placeholders := by
  induction parts with
  | nil => rfl
  | cons part parts ih =>
    cases parts with
    | nil => simp
    | cons part' parts =>
      rw [List.intercalate_cons_cons, placeholders_append, placeholders_append, ih, hsep]
      simp

section ReadsAs

variable (reserved : String → Bool)

def ReadsAs (cs : List Char) (pieces : List Piece) : Prop :=
  ∃ toks, lex cs = some toks ∧ List.Forall₂ (Matches reserved) toks pieces

/-- `text` is read as `pieces` in front of every text. -/
def Fixed (text : List Char) (pieces : List Piece) : Prop :=
  ∀ rest more, ReadsAs reserved (text ++ rest) (pieces ++ more) ↔ ReadsAs reserved rest more

/-- `text` is read as `pieces` in front of every text that does not begin with a backquote,
provided that `ok`. -/
def Part (text : List Char) (pieces : List Piece) (ok : Prop) : Prop :=
  ∀ rest more, ¬ StartsQuoted rest →
    (ReadsAs reserved (text ++ rest) (pieces ++ more) ↔ ok ∧ ReadsAs reserved rest more)

variable {reserved}

lemma forall₂_append_iff {toks toks' : List Token} {pieces pieces' : List Piece}
    (h : List.Forall₂ (Matches reserved) toks pieces) :
    List.Forall₂ (Matches reserved) (toks ++ toks') (pieces ++ pieces') ↔
      List.Forall₂ (Matches reserved) toks' pieces' := by
  induction h with
  | nil => exact Iff.rfl
  | cons hhead _ ih => simp [List.forall₂_cons, hhead, ih]

lemma readsAs_append_iff {text rest : List Char} {toks : List Token} {pieces more : List Piece}
    (hlex : lex (text ++ rest) = (lex rest).map (toks ++ ·))
    (h : List.Forall₂ (Matches reserved) toks pieces) :
    ReadsAs reserved (text ++ rest) (pieces ++ more) ↔ ReadsAs reserved rest more := by
  unfold ReadsAs
  rw [hlex]
  constructor
  · rintro ⟨toks', hmap, hmatches⟩
    obtain ⟨restToks, hrest, rfl⟩ := Option.map_eq_some_iff.mp hmap
    exact ⟨restToks, hrest, (forall₂_append_iff h).mp hmatches⟩
  · rintro ⟨restToks, hrest, hmatches⟩
    exact ⟨toks ++ restToks, by rw [hrest]; rfl, (forall₂_append_iff h).mpr hmatches⟩

lemma readsAs_nil : ReadsAs reserved [] [] := ⟨[], rfl, .nil⟩

lemma Fixed.append {text text' : List Char} {pieces pieces' : List Piece}
    (h : Fixed reserved text pieces) (h' : Fixed reserved text' pieces') :
    Fixed reserved (text ++ text') (pieces ++ pieces') := by
  intro rest more
  rw [List.append_assoc, List.append_assoc, h, h']

lemma Fixed.intercalate {α : Type} {text : α → List Char} {pieces : α → List Piece}
    (h : ∀ a, Fixed reserved (text a) (pieces a)) {sep : List Char} {sepPieces : List Piece}
    (hsep : Fixed reserved sep sepPieces) (xs : List α) :
    Fixed reserved (sep.intercalate (xs.map text)) (sepPieces.intercalate (xs.map pieces)) := by
  induction xs with
  | nil => exact fun _ _ => Iff.rfl
  | cons a xs ih =>
    cases xs with
    | nil => simpa using h a
    | cons b xs =>
      have hfixed := ((h a).append hsep).append ih
      simpa only [List.map_cons, List.intercalate_cons_cons, List.append_assoc] using hfixed

lemma fixed_char {c : Char} {toks : List Token} {pieces : List Piece}
    (hbegin : ∀ rest, begin c rest = some (toks, .start))
    (h : List.Forall₂ (Matches reserved) toks pieces) : Fixed reserved [c] pieces := by
  intro rest more
  refine readsAs_append_iff ?_ h
  have hnext : next c rest .start = some (toks, .start) := hbegin rest
  rw [List.singleton_append, lex, lexFrom, hnext]
  rfl

lemma fixed_blank : Fixed reserved [' '] [] := fixed_char (fun _ => rfl) .nil

lemma fixed_placeholder (use : String) : Fixed reserved ['?'] [.placeholder use] :=
  fixed_char (fun _ => rfl) (.cons trivial .nil)

lemma fixed_punct {c : Char} (h : ∀ rest, begin c rest = some ([.punct c], .start)) :
    Fixed reserved [c] [.punct c] :=
  fixed_char h (.cons rfl .nil)

def IsKeyword (k : String) : Prop := k ≠ "" ∧ k.toList.all isWordChar = true

instance (k : String) : Decidable (IsKeyword k) := inferInstanceAs (Decidable (_ ∧ _))

/-- A word with a blank after it. -/
lemma fixed_keyword {k : String} (hk : IsKeyword k) :
    Fixed reserved (k.toList ++ [' ']) [.keyword k] := by
  intro rest more
  have hnil : k.toList ≠ [] := by simpa using hk.1
  have hlex : lex (k.toList ++ ' ' :: rest) = (lex (' ' :: rest)).map ([.word k.toList] ++ ·) :=
    lex_word_append hnil (List.all_eq_true.mp hk.2) (by simp [isWordChar])
  have hmatches : List.Forall₂ (Matches reserved) [.word k.toList] [.keyword k] := .cons rfl .nil
  rw [List.append_assoc, List.singleton_append, readsAs_append_iff hlex hmatches]
  exact fixed_blank rest more

/-- Keywords with a blank after each. -/
lemma fixed_keywords {ks : List String} (hks : ∀ k ∈ ks, IsKeyword k) :
    Fixed reserved (ks.flatMap fun k => k.toList ++ [' ']) (ks.map .keyword) := by
  induction ks with
  | nil => exact fun _ _ => Iff.rfl
  | cons k ks ih =>
    obtain ⟨hk, hks⟩ := List.forall_mem_cons.mp hks
    exact (fixed_keyword hk).append (ih hks)

/-- Between backquotes a name is read as itself unless there is a backquote in it. -/
lemma part_quoted (n : String) :
    Part reserved ('\x60' :: n.toList ++ ['\x60']) [.name n] ('\x60' ∉ n.toList) := by
  intro rest more hrest
  have htext : '\x60' :: n.toList ++ ['\x60'] ++ rest =
      '\x60' :: (n.toList ++ '\x60' :: rest) := by simp
  have hstart : lex ('\x60' :: (n.toList ++ '\x60' :: rest)) =
      lexFrom (.quoted []) (n.toList ++ '\x60' :: rest) := lexFrom_cons rfl
  by_cases hn : '\x60' ∈ n.toList
  · refine iff_of_false ?_ fun h => h.1 hn
    rintro ⟨toks, hlex, hmatches⟩
    rw [htext, hstart] at hlex
    obtain ⟨name, rest', toks', htext', rfl⟩ := exists_escape_of_lexFrom.1 hlex
    have hname : name = n.toList := (List.forall₂_cons.mp hmatches).1
    subst hname
    exact notMem_of_append_eq_escape hrest htext' hn
  · have hlex : lex ('\x60' :: n.toList ++ ['\x60'] ++ rest) =
        (lex rest).map ([.ident n.toList] ++ ·) := by
      rw [htext, hstart, lexFrom_quoted hn hrest]
      rfl
    have hmatches : List.Forall₂ (Matches reserved) [.ident n.toList] [.name n] :=
      .cons rfl .nil
    rw [readsAs_append_iff hlex hmatches]
    exact (and_iff_right hn).symm

lemma Fixed.part {text text' : List Char} {pieces pieces' : List Piece} {ok : Prop}
    (h : Fixed reserved text pieces) (h' : Part reserved text' pieces' ok) :
    Part reserved (text ++ text') (pieces ++ pieces') ok := by
  intro rest more hrest
  rw [List.append_assoc, List.append_assoc, h, h' rest more hrest]

lemma Part.append {text text' : List Char} {pieces pieces' : List Piece} {ok ok' : Prop}
    (h : Part reserved text pieces ok) (h' : Part reserved text' pieces' ok')
    (hne : text' ≠ []) (hquoted : ¬ StartsQuoted text') :
    Part reserved (text ++ text') (pieces ++ pieces') (ok ∧ ok') := by
  intro rest more hrest
  have hstart : ¬ StartsQuoted (text' ++ rest) := by
    cases text' with
    | nil => exact absurd rfl hne
    | cons c text' => exact hquoted
  rw [List.append_assoc, List.append_assoc, h _ _ hstart, h' rest more hrest, and_assoc]

lemma Fixed.toPart {text : List Char} {pieces : List Piece} (h : Fixed reserved text pieces) :
    Part reserved text pieces True := by
  intro rest more _
  rw [h, true_and]

lemma Part.fixed {text text' : List Char} {pieces pieces' : List Piece} {ok : Prop}
    (h : Part reserved text pieces ok) (h' : Fixed reserved text' pieces')
    (hne : text' ≠ []) (hquoted : ¬ StartsQuoted text') :
    Part reserved (text ++ text') (pieces ++ pieces') ok := by
  simpa using h.append h'.toPart hne hquoted

/-- A list of parts with a separator between neighbours. -/
lemma Part.intercalate {α : Type} {text : α → List Char} {pieces : α → List Piece}
    {ok : α → Prop} (h : ∀ a, Part reserved (text a) (pieces a) (ok a)) {sep : List Char}
    {sepPieces : List Piece} (hsep : Fixed reserved sep sepPieces) (hne : sep ≠ [])
    (hquoted : ¬ StartsQuoted sep) (xs : List α) :
    Part reserved (sep.intercalate (xs.map text)) (sepPieces.intercalate (xs.map pieces))
      (∀ x ∈ xs, ok x) := by
  induction xs with
  | nil =>
    intro rest more _
    simp
  | cons a xs ih =>
    cases xs with
    | nil => simpa using h a
    | cons b xs =>
      have hstart : ¬ StartsQuoted (sep ++ sep.intercalate ((b :: xs).map text)) := by
        cases sep with
        | nil => exact absurd rfl hne
        | cons c sep => exact hquoted
      have hpart := (h a).append (hsep.part ih) (by simp [hne]) hstart
      simp only [List.map_cons, List.intercalate_cons_cons, List.append_assoc] at hpart ⊢
      rwa [List.forall_mem_cons]

/-- The last part of a text. -/
lemma Part.readsAs_iff {text : List Char} {pieces : List Piece} {ok : Prop}
    (h : Part reserved text pieces ok) : ReadsAs reserved text pieces ↔ ok := by
  have hnil := h [] [] (by simp [StartsQuoted])
  rw [List.append_nil, List.append_nil] at hnil
  rw [hnil]
  exact and_iff_left readsAs_nil

/-- A word not between backquotes is read as a name only if it is a plain one. -/
lemma readsAs_name_iff {n : String} (hne : n ≠ "") :
    ReadsAs reserved n.toList [.name n] ↔
      n.toList.all isWordChar = true ∧ reserved n = false := by
  rw [List.all_eq_true]
  constructor
  · rintro ⟨toks, hlex, hmatches⟩
    have hwithin := within_of_lex hlex
    obtain ⟨tok, htok, rfl⟩ : ∃ tok, Matches reserved tok (.name n) ∧ toks = [tok] := by
      cases hmatches with
      | cons htok hnil =>
        cases hnil
        exact ⟨_, htok, rfl⟩
    have htokWithin := hwithin tok List.mem_cons_self
    cases tok with
    | word text =>
      obtain ⟨rfl, hreserved⟩ := htok
      exact ⟨htokWithin, hreserved⟩
    | ident text =>
      -- the text of a quoted name has its two backquotes besides the name
      have htext : text = n.toList := htok
      have hlength : text.length + 2 ≤ n.toList.length := htokWithin
      rw [htext] at hlength
      omega
    | _ => exact htok.elim
  · rintro ⟨hword, hreserved⟩
    have hnil : n.toList ≠ [] := by simpa using hne
    have hlex : lex (n.toList ++ []) = some [.word n.toList] :=
      lex_word_append hnil hword (by simp)
    rw [List.append_nil] at hlex
    exact ⟨_, hlex, .cons ⟨rfl, hreserved⟩ .nil⟩

end ReadsAs

end SqlLexer
