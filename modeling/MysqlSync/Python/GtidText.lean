import MysqlSync.Python.GtidSet

/-!
# The text of a set of transactions

A `GtidSet` that was built from a text prints a text of the same set: building a set from that gives
the same objects, and their transactions are those written in the first text
(`GtidSet.new_str`). So the text is printed with the intervals merged and in order, whatever
their order in the text that was given, also where some of them are empty.
-/

namespace MysqlSync.Python

open Spans Checked

namespace Gtid

/-- The numbers an interval of a text can have. -/
def Printable (x : ℤ × ℤ) : Prop := 0 ≤ x.1 ∧ 1 ≤ x.2

section

variable {l l' : List (ℤ × ℤ)} {x itvl : ℤ × ℤ} {c : Char} {g : Gtid} {text : String}

/-! ### One interval -/

lemma withoutNewline_of_notMem (h : '\n' ∉ text.toList) : withoutNewline text = text := by
  rw [withoutNewline, if_neg]
  intro hlast
  exact h (List.mem_of_getLast? hlast)

lemma parseNumeral_repr (n : ℕ) : parseNumeral n.repr = some n := by
  rw [parseNumeral, if_neg (Strings.repr_ne_empty n), Strings.digitsFrom_repr]

lemma formatInterval_eq (hx : Printable x) :
    (∃ m : ℕ, x = ((m : ℤ), (m : ℤ) + 1) ∧ formatInterval x = m.repr) ∨
      ∃ m n : ℕ, x = ((m : ℤ), (n : ℤ) + 1) ∧ formatInterval x = m.repr ++ "-" ++ n.repr := by
  obtain ⟨a, b⟩ := x
  obtain ⟨ha, hb⟩ := hx
  obtain ⟨m, rfl⟩ := Int.eq_ofNat_of_zero_le ha
  obtain ⟨n, hn⟩ := Int.eq_ofNat_of_zero_le (Int.sub_nonneg_of_le hb)
  obtain rfl := sub_eq_iff_eq_add.mp hn
  rw [formatInterval]
  split_ifs with hlen
  · refine Or.inr ⟨m, n, rfl, ?_⟩
    simp only [add_sub_cancel_right]
    rfl
  · refine Or.inl ⟨m, ?_, rfl⟩
    rw [not_not.mp hlen]

lemma notMem_repr (hc : c.isDigit = false) (n : ℕ) : c ∉ n.repr.toList := by
  intro hmem
  rw [Strings.isDigit_of_mem_repr hmem] at hc
  cases hc

/-- A text of one interval, which is read back. -/
structure Denotes (text : String) (x : ℤ × ℤ) : Prop where
  isIntervalText : isIntervalText text = true
  parseInterval : parseInterval text = .ok x

lemma mem_of_isIntervalText (h : isIntervalText text = true) (hc : c ∈ text.toList) :
    c.isDigit = true ∨ c = '-' := by
  rw [isIntervalText, Bool.and_eq_true, List.all_eq_true] at h
  simpa using h.2 c hc

lemma notMem_of_isIntervalText (h : isIntervalText text = true) (hc : c.isDigit = false)
    (hne : c ≠ '-') : c ∉ text.toList := by
  intro hmem
  rcases mem_of_isIntervalText h hmem with h | h
  · rw [hc] at h
    cases h
  · exact hne h

/-- One or more numbers with hyphens between them. -/
lemma isIntervalText_join {parts : List ℕ} (hne : parts ≠ []) :
    isIntervalText (Strings.join (parts.map Nat.repr) "-") = true := by
  rw [isIntervalText, Bool.and_eq_true, decide_eq_true_eq, List.all_eq_true]
  constructor
  · intro hempty
    have hsplit : Strings.split "" '-' = parts.map Nat.repr := by
      rw [← hempty, Strings.split_join rfl (by simpa using hne)]
      rw [List.forall_mem_map]
      exact fun n _ => notMem_repr rfl n
    obtain ⟨n, l, rfl⟩ := List.exists_cons_of_ne_nil hne
    have hone : Strings.split "" '-' = [""] := by decide
    rw [hone, List.map_cons] at hsplit
    exact Strings.repr_ne_empty n (List.cons.inj hsplit).1.symm
  · intro c hc
    rw [Bool.or_eq_true, decide_eq_true_eq]
    rcases Strings.mem_join hc with hc | ⟨part, hpart, hc⟩
    · exact Or.inr (List.mem_singleton.mp hc)
    · obtain ⟨n, -, rfl⟩ := List.mem_map.mp hpart
      exact Or.inl (Strings.isDigit_of_mem_repr hc)

lemma mapM_parseNumeral {parts : List ℕ} (hne : parts ≠ []) :
    (Strings.split (withoutNewline (Strings.join (parts.map Nat.repr) "-")) '-').mapM
      parseNumeral = some parts := by
  rw [withoutNewline_of_notMem (notMem_of_isIntervalText (isIntervalText_join hne) rfl (by decide)),
    Strings.split_join rfl (by simpa using hne)]
  · rw [List.mapM_map,
      show parseNumeral ∘ Nat.repr = fun n => pure n from funext parseNumeral_repr,
      List.mapM_pure, List.map_id']
    rfl
  · rw [List.forall_mem_map]
    exact fun n _ => notMem_repr rfl n

lemma denotes_one (m : ℕ) : Denotes m.repr ((m : ℤ), (m : ℤ) + 1) := by
  have hjoin : m.repr = Strings.join ([m].map Nat.repr) "-" := by
    rw [← String.toList_inj]
    simp [Strings.join]
  rw [hjoin]
  refine ⟨isIntervalText_join (by simp), ?_⟩
  rw [parseInterval, mapM_parseNumeral (by simp)]

lemma denotes_pair (m n : ℕ) : Denotes (m.repr ++ "-" ++ n.repr) ((m : ℤ), (n : ℤ) + 1) := by
  have hjoin : m.repr ++ "-" ++ n.repr = Strings.join ([m, n].map Nat.repr) "-" := by
    rw [← String.toList_inj]
    simp [Strings.join]
  rw [hjoin]
  refine ⟨isIntervalText_join (by simp), ?_⟩
  rw [parseInterval, mapM_parseNumeral (by simp)]

lemma denotes_formatInterval (hx : Printable x) : Denotes (formatInterval x) x := by
  rcases formatInterval_eq hx with ⟨m, rfl, htext⟩ | ⟨m, n, rfl, htext⟩
  · rw [htext]
    exact denotes_one m
  · rw [htext]
    exact denotes_pair m n

/-! ### The whole text -/

/-- What an object built from a text holds. -/
structure Written (g : Gtid) : Prop where
  isUUID : IsUUID g.sid
  ne_nil : g.intervals ≠ []
  spaced : Spaced g.intervals
  printable : ∀ x ∈ g.intervals, Printable x

lemma notMem_of_isUUID {sid : String} (h : IsUUID sid) (hc : c ∉ uuidChars) : c ∉ sid.toList := by
  intro hmem
  exact hc (by simpa using List.all_eq_true.mp h.1 c hmem)

/-- Characters that have no place in the text of an object. -/
def Foreign (c : Char) : Prop := c.isDigit = false ∧ c ≠ '-' ∧ c ≠ ':' ∧ c ∉ uuidChars

lemma foreign_newline : Foreign '\n' := ⟨rfl, by decide, by decide, by decide⟩

lemma foreign_space : Foreign ' ' := ⟨rfl, by decide, by decide, by decide⟩

lemma foreign_comma : Foreign ',' := ⟨rfl, by decide, by decide, by decide⟩

section

variable {sid : String} {f : ℤ × ℤ → String}

lemma text_eq_join (hne : l ≠ []) :
    sid ++ ":" ++ Strings.join (l.map f) ":" = Strings.join (sid :: l.map f) ":" := by
  rw [Strings.join, Strings.join, String.intercalate_cons_of_ne_nil (by simpa using hne)]

lemma notMem_text (hsid : IsUUID sid) (hne : l ≠ []) (hf : ∀ x ∈ l, Denotes (f x) x)
    (hc : Foreign c) : c ∉ (sid ++ ":" ++ Strings.join (l.map f) ":").toList := by
  obtain ⟨hdigit, hhyphen, hcolon, huuid⟩ := hc
  intro hmem
  rw [text_eq_join hne] at hmem
  rcases Strings.mem_join hmem with hsep | ⟨part, hpart, hin⟩
  · exact hcolon (List.mem_singleton.mp hsep)
  · rcases List.mem_cons.mp hpart with rfl | hpart
    · exact notMem_of_isUUID hsid huuid hin
    · obtain ⟨x, hx, rfl⟩ := List.mem_map.mp hpart
      exact notMem_of_isIntervalText (hf x hx).isIntervalText hdigit hhyphen hin

/-- Whatever text each interval has, the whole text is read back if they are. -/
lemma parse_text (hsid : IsUUID sid) (hne : l ≠ []) (hf : ∀ x ∈ l, Denotes (f x) x) :
    parse (sid ++ ":" ++ Strings.join (l.map f) ":") = .ok (sid, l) := by
  have hsplit : Strings.split (sid ++ ":" ++ Strings.join (l.map f) ":") ':' = sid :: l.map f := by
    rw [text_eq_join hne, Strings.split_join rfl (List.cons_ne_nil _ _)]
    refine List.forall_mem_cons.mpr ⟨notMem_of_isUUID hsid (by decide), ?_⟩
    rw [List.forall_mem_map]
    exact fun x hx => notMem_of_isIntervalText (hf x hx).isIntervalText rfl (by decide)
  have hall : (l.map f).all isIntervalText = true := by
    rw [List.all_eq_true, List.forall_mem_map]
    exact fun x hx => (hf x hx).isIntervalText
  have hmapM : (l.map f).mapM parseInterval = .ok l := by
    rw [mapM_eq_ok_iff, List.forall₂_map_left_iff, List.forall₂_same]
    exact fun x hx => (hf x hx).parseInterval
  rw [parse, withoutNewline_of_notMem (notMem_text hsid hne hf foreign_newline), hsplit]
  obtain ⟨x, l, rfl⟩ := List.exists_cons_of_ne_nil hne
  simp only [List.map_cons] at hall hmapM ⊢
  rw [if_pos ⟨hsid, hall⟩, hmapM]
  rfl

end

lemma Written.notMem_str (h : Written g) (hc : Foreign c) : c ∉ g.str.toList :=
  notMem_text h.isUUID h.ne_nil (fun x hx => denotes_formatInterval (h.printable x hx)) hc

/-! ### Intervals in order -/

lemma mergeNeighbours_of_lt (h : Spaced l) (hlt : ∀ x ∈ l, x.2 < itvl.1)
    (hle : itvl.1 ≤ itvl.2) : mergeNeighbours itvl l = (l, itvl) := by
  induction l with
  | nil => rfl
  | cons x l ih =>
    obtain ⟨hx, hlt⟩ := List.forall_mem_cons.mp hlt
    obtain ⟨hxle, -, hl⟩ := spaced_cons.mp h
    rw [mergeNeighbours, if_neg (by omega), if_neg (by omega), ih hl hlt]

/-- An interval beyond the others is put at the end. -/
lemma addInterval_of_spaced (h : Spaced (l ++ [itvl])) :
    addInterval l itvl = .ok (l ++ [itvl]) := by
  obtain ⟨hl, -, hlt⟩ := List.pairwise_append.mp h.apart
  have hlt' : ∀ x ∈ l, x.2 < itvl.1 := fun x hx => hlt x hx itvl (List.mem_singleton_self itvl)
  have hspaced : Spaced l := ⟨fun x hx => h.le x (List.mem_append_left _ hx), hl⟩
  have hle : itvl.1 ≤ itvl.2 := h.le itvl (by simp)
  have htouch : l.any (overlap · itvl) = false :=
    any_overlap_eq_false_iff.mpr fun x hx => Or.inl (hlt' x hx).le
  rw [addInterval, if_neg (not_lt.mpr hle), htouch, hspaced.sort_eq,
    mergeNeighbours_of_lt hspaced hlt' hle]
  simp only [Bool.false_eq_true, if_false, h.sort_eq]

lemma foldlM_addInterval_of_spaced (h : Spaced (l ++ l')) :
    l'.foldlM addInterval l = .ok (l ++ l') := by
  induction l' generalizing l with
  | nil => rw [List.append_nil]; rfl
  | cons x l' ih =>
    rw [List.append_cons] at h ⊢
    have hx : Spaced (l ++ [x]) :=
      ⟨fun y hy => h.le y (List.mem_append_left _ hy), (List.pairwise_append.mp h.apart).1⟩
    exact foldlM_cons_eq_ok_iff.mpr ⟨_, addInterval_of_spaced hx, ih h⟩

lemma new_of_spaced {sid : String} (hparse : parse text = .ok (sid, l)) (h : Spaced l) :
    new text = .ok ⟨sid, l⟩ := by
  have hfold := foldlM_addInterval_of_spaced (l := []) h
  refine bind_eq_ok_iff.mpr ⟨_, hparse, ?_⟩
  exact map_eq_ok_iff.mpr ⟨_, hfold, rfl⟩

lemma Written.new_of_str (h : Written g) : new g.str = .ok g :=
  new_of_spaced (parse_text h.isUUID h.ne_nil
    fun x hx => denotes_formatInterval (h.printable x hx)) h.spaced

/-! ### What is built from a text -/

lemma printable_of_parseInterval {interval : String} (h : parseInterval interval = .ok x) :
    Printable x := by
  rw [parseInterval] at h
  split at h
  · rename_i a _
    obtain rfl := Except.ok.inj h
    exact ⟨Int.natCast_nonneg a, by simp⟩
  · rename_i a b _
    obtain rfl := Except.ok.inj h
    exact ⟨Int.natCast_nonneg a, by simp⟩
  · cases h

lemma parse_eq_ok {sid : String} (h : parse text = .ok (sid, l)) :
    IsUUID sid ∧ l ≠ [] ∧ ∀ x ∈ l, Printable x := by
  rw [parse] at h
  split at h
  · split_ifs at h with hif
    obtain ⟨l', hmapM, heq⟩ := map_eq_ok_iff.mp h
    obtain ⟨rfl, rfl⟩ := Prod.mk.inj heq
    refine ⟨hif.1, ?_, fun x hx => ?_⟩
    · obtain ⟨x, l, -, -, rfl⟩ := List.forall₂_cons_left_iff.mp (mapM_eq_ok_iff.mp hmapM)
      exact List.cons_ne_nil x l
    · obtain ⟨interval, -, hx⟩ := exists_of_mem_result hmapM hx
      exact printable_of_parseInterval hx
  · cases h

/-- The identifier comes before the first colon. -/
lemma exists_split_of_parse {sid : String} (h : parse text = .ok (sid, l)) :
    ∃ rest, Strings.split (withoutNewline text) ':' = sid :: rest := by
  rw [parse] at h
  split at h
  · rename_i sid' interval intervals hsplit
    split_ifs at h
    obtain ⟨l', -, heq⟩ := map_eq_ok_iff.mp h
    obtain ⟨rfl, -⟩ := Prod.mk.inj heq
    exact ⟨interval :: intervals, hsplit⟩
  · cases h

/-- The ends of the merged intervals are ends of those there were. -/
lemma forall_mergeNeighbours {p q : ℤ → Prop} (hl : ∀ x ∈ l, p x.1 ∧ q x.2)
    (hitvl : p itvl.1 ∧ q itvl.2) :
    ∀ x ∈ (mergeNeighbours itvl l).1 ++ [(mergeNeighbours itvl l).2], p x.1 ∧ q x.2 := by
  induction l generalizing itvl with
  | nil => simpa [mergeNeighbours] using hitvl
  | cons y l ih =>
    obtain ⟨hy, hl⟩ := List.forall_mem_cons.mp hl
    rw [mergeNeighbours]
    split_ifs
    · exact ih hl ⟨hy.1, hitvl.2⟩
    · exact ih hl ⟨hitvl.1, hy.2⟩
    · exact List.forall_mem_cons.mpr ⟨hy, ih hl hitvl⟩

lemma forall_addInterval {p q : ℤ → Prop} (hl : ∀ x ∈ l, p x.1 ∧ q x.2)
    (hitvl : p itvl.1 ∧ q itvl.2) (h : addInterval l itvl = .ok l') :
    l' ≠ [] ∧ ∀ x ∈ l', p x.1 ∧ q x.2 := by
  rw [addInterval] at h
  split_ifs at h
  obtain rfl := Except.ok.inj h
  have hall := forall_mergeNeighbours (l := sort l) (fun x hx => hl x (mem_sort.mp hx)) hitvl
  refine ⟨fun hnil => ?_, fun x hx => hall x (mem_sort.mp hx)⟩
  have hmem : (mergeNeighbours itvl (sort l)).2 ∈ ([] : List (ℤ × ℤ)) := by
    rw [← hnil]
    exact mem_sort.mpr (List.mem_append_right _ (List.mem_singleton_self _))
  exact List.not_mem_nil hmem

lemma forall_foldlM_addInterval {p q : ℤ → Prop} {itvls : List (ℤ × ℤ)}
    (hl : ∀ x ∈ l, p x.1 ∧ q x.2) (hitvls : ∀ x ∈ itvls, p x.1 ∧ q x.2)
    (h : itvls.foldlM addInterval l = .ok l') : ∀ x ∈ l', p x.1 ∧ q x.2 :=
  invariant_of_foldlM (I := fun l => ∀ x ∈ l, p x.1 ∧ q x.2)
    (fun _ hl x hx _ hadd => (forall_addInterval hl (hitvls x hx) hadd).2) hl h

lemma ne_nil_of_foldlM_addInterval {itvls : List (ℤ × ℤ)} (hne : itvls ≠ [])
    (h : itvls.foldlM addInterval l = .ok l') : l' ≠ [] := by
  induction itvls generalizing l with
  | nil => exact absurd rfl hne
  | cons x itvls ih =>
    obtain ⟨l₁, hadd, h⟩ := foldlM_cons_eq_ok_iff.mp h
    by_cases hnil : itvls = []
    · subst hnil
      obtain rfl := foldlM_nil_eq_ok_iff.mp h
      exact (forall_addInterval (p := fun _ => True) (q := fun _ => True)
        (by simp) (by simp) hadd).1
    · exact ih hnil h

lemma written_of_new (h : new text = .ok g) : Written g := by
  obtain ⟨itvls, hparse, hfold⟩ := new_eq_ok h
  obtain ⟨huuid, hne, hprintable⟩ := parse_eq_ok hparse
  have hspec := spec_of_foldlM_addInterval normal_nil.toSpaced hfold
  exact ⟨huuid, ne_nil_of_foldlM_addInterval hne hfold, hspec.1,
    forall_foldlM_addInterval (by simp) hprintable hfold⟩

end

end Gtid

/-! ### Sets -/

namespace GtidSet

/-- The transactions that the text of a set names. -/
def written (text : String) : Set (String × ℤ) :=
  {t | ∃ part ∈ Strings.split text ',', ∃ itvls,
    Gtid.parse (strip part) = .ok (t.1, itvls) ∧ t.2 ∈ carrier itvls}

section

variable {text : String} {s : GtidSet}

lemma strip_of_notMem (hspace : ' ' ∉ text.toList) (hnewline : '\n' ∉ text.toList) :
    strip text = text := by
  have hnot : ∀ c ∈ text.toList, ¬(decide (c ∈ [' ', '\n'])) = true := by
    intro c hc hmem
    rw [decide_eq_true_eq, List.mem_pair] at hmem
    rcases hmem with rfl | rfl
    · exact hspace hc
    · exact hnewline hc
  rw [strip, Strings.trimBy, List.dropWhile_eq_self_iff.mpr, List.rdropWhile_eq_self_iff.mpr,
    String.ofList_toList]
  · exact fun hne => hnot _ (List.getLast_mem hne)
  · exact fun hlen => hnot _ (List.getElem_mem hlen)

lemma new_eq_ok (h : new text = .ok s) : text = "" ∧ s = ⟨[]⟩ ∨
    text ≠ "" ∧ s.gtids ≠ [] ∧
      (Strings.split text ',').mapM (fun x => Gtid.new (strip x)) = .ok s.gtids := by
  rw [new] at h
  split_ifs at h with htext
  · exact Or.inl ⟨htext, (Except.ok.inj h).symm⟩
  · obtain ⟨gtids, hmapM, rfl⟩ := map_eq_ok_iff.mp h
    refine Or.inr ⟨htext, fun hnil => ?_, hmapM⟩
    have hforall := mapM_eq_ok_iff.mp hmapM
    rw [show gtids = [] from hnil, List.forall₂_nil_right_iff, Strings.split,
      List.map_eq_nil_iff] at hforall
    exact List.splitOn_ne_nil _ _ hforall

lemma written_of_mem (h : new text = .ok s) : ∀ g ∈ s.gtids, g.Written := by
  rcases new_eq_ok h with ⟨-, rfl⟩ | ⟨-, -, hmapM⟩
  · simp
  · intro g hg
    obtain ⟨part, -, hg⟩ := exists_of_mem_result hmapM hg
    exact Gtid.written_of_new hg

lemma new_empty : Gtid.new "" = .error (.formatIncorrect "") := by decide

lemma new_str_of_written (h : ∀ g ∈ s.gtids, g.Written) : new s.str = .ok s := by
  obtain ⟨gtids⟩ := s
  by_cases hnil : gtids = []
  · subst hnil
    rfl
  have hsplit : Strings.split (str ⟨gtids⟩) ',' = gtids.map Gtid.str := by
    rw [str, Strings.split_join rfl (by simpa using hnil)]
    rw [List.forall_mem_map]
    exact fun g hg => (h g hg).notMem_str Gtid.foreign_comma
  have hmapM : (gtids.map Gtid.str).mapM (fun x => Gtid.new (strip x)) = .ok gtids := by
    rw [mapM_eq_ok_iff, List.forall₂_map_left_iff, List.forall₂_same]
    intro g hg
    have hg' := h g hg
    rw [strip_of_notMem (hg'.notMem_str Gtid.foreign_space) (hg'.notMem_str Gtid.foreign_newline),
      hg'.new_of_str]
  have hne : str ⟨gtids⟩ ≠ "" := by
    intro hempty
    -- the empty text has one part, which is empty too and names no server
    have hone : Strings.split "" ',' = [""] := by decide
    obtain ⟨g, gs, rfl⟩ := List.exists_cons_of_ne_nil hnil
    rw [hempty, hone, List.map_cons] at hsplit
    have hnew := (h g List.mem_cons_self).new_of_str
    rw [← (List.cons.inj hsplit).1, new_empty] at hnew
    cases hnew
  rw [new, if_neg hne, hsplit, hmapM]
  rfl

lemma transactions_eq_written (h : new text = .ok s) : s.transactions = written text := by
  have hparsed {part : String} {g : Gtid} (hg : Gtid.new (strip part) = .ok g) :
      ∃ itvls, Gtid.parse (strip part) = .ok (g.sid, itvls) ∧ g.transactions = carrier itvls := by
    obtain ⟨itvls, hparse, hfold⟩ := Gtid.new_eq_ok hg
    refine ⟨itvls, hparse, ?_⟩
    rw [Gtid.transactions, (Gtid.spec_of_foldlM_addInterval normal_nil.toSpaced hfold).2.1,
      carrier_nil, Set.empty_union]
  ext t
  rcases new_eq_ok h with ⟨rfl, rfl⟩ | ⟨-, -, hmapM⟩
  · have herror : Gtid.parse (strip "") = .error (.formatIncorrect "") := by decide
    have hone : Strings.split "" ',' = [""] := by decide
    simp [transactions, written, hone, herror]
  · constructor
    · rintro ⟨g, hg, hsid, hk⟩
      obtain ⟨part, hpart, hnew⟩ := exists_of_mem_result hmapM hg
      obtain ⟨itvls, hparse, htransactions⟩ := hparsed hnew
      exact ⟨part, hpart, itvls, hsid ▸ hparse, htransactions ▸ hk⟩
    · rintro ⟨part, hpart, itvls, hparse, hk⟩
      obtain ⟨g, hg, hnew⟩ := exists_result_of_mem hmapM hpart
      obtain ⟨itvls', hparse', htransactions⟩ := hparsed hnew
      obtain ⟨hsid, rfl⟩ := Prod.mk.inj (Except.ok.inj (hparse.symm.trans hparse'))
      exact ⟨g, hg, hsid.symm, htransactions ▸ hk⟩

end

/-- What is printed is read as the same set, and it is the set that was written. -/
theorem new_str (text : String) (s : GtidSet) (h : new text = .ok s) :
    new s.str = .ok s ∧ s.transactions = written text :=
  ⟨new_str_of_written (written_of_mem h), transactions_eq_written h⟩

theorem new_str_unordered :
    new (str ⟨[⟨"19d69c1e-ae97-4b8c-a1ef-9e12ba966457", [(1, 5), (6, 75)]⟩]⟩) =
      .ok ⟨[⟨"19d69c1e-ae97-4b8c-a1ef-9e12ba966457", [(1, 5), (6, 75)]⟩]⟩ := by
  have h : new " 19d69c1e-ae97-4b8c-a1ef-9e12ba966457:6-74:3-4:1-2\n" =
      .ok ⟨[⟨"19d69c1e-ae97-4b8c-a1ef-9e12ba966457", [(1, 5), (6, 75)]⟩]⟩ := by decide +kernel
  exact (new_str _ _ h).1

end GtidSet

end MysqlSync.Python
