import MysqlSync.Checkpoint.GtidSet
import MysqlSync.Lib.Checked
import MysqlSync.Lib.Spans

/-!
# The transactions of one server

`pymysqlreplication/gtid.py` keeps the transactions of a server as a list of half-open intervals,
built from the text that MySQL prints or by adding and removing intervals. On the objects built from
texts whose intervals are not empty, the operations are those of finite sets, an exception is raised
exactly where an addition would count a transaction twice, and equal sets have equal lists
(`Gtid.refines_of_made`).
-/

namespace MysqlSync.Python

open Spans Checked

/-- What the functions of the module raise. -/
inductive GtidError where
  | formatIncorrect (text : String)
  | malformedInterval (itvl : ℤ × ℤ)
  | overlappingInterval (itvl : ℤ × ℤ)
  | differentSID (sid other : String)
  deriving DecidableEq, Repr

/-- The text of the exception, for the form `repr` that the language gives a string. -/
def GtidError.message (repr : String → String) : GtidError → String
  | .formatIncorrect text => "GTID format is incorrect: " ++ repr text
  | .malformedInterval (a, b) => "Malformed interval (" ++ a.repr ++ ", " ++ b.repr ++ ")"
  | .overlappingInterval (a, b) => "Overlapping interval (" ++ a.repr ++ ", " ++ b.repr ++ ")"
  | .differentSID sid other => "Attempt to merge different SID " ++ sid ++ " != " ++ other

def overlap (i1 i2 : ℤ × ℤ) : Bool := i1.1 < i2.2 && i1.2 > i2.1

def contains (i1 i2 : ℤ × ℤ) : Bool := i2.1 ≥ i1.1 && i2.2 ≤ i1.2

/-- A server's identifier and its transactions, in intervals without their ends. -/
structure Gtid where
  sid : String
  intervals : List (ℤ × ℤ)
  deriving DecidableEq, Repr

namespace Gtid

/-! ### Text -/

/-- The end of a pattern also matches before a newline that ends the text. -/
def withoutNewline (text : String) : String :=
  if text.toList.getLast? = some '\n' then String.ofList text.toList.dropLast else text

/-- The pattern is digits, or digits and digits with a hyphen between them. -/
def parseInterval (interval : String) : Except GtidError (ℤ × ℤ) :=
  match (Strings.split (withoutNewline interval) '-').mapM parseNumeral with
  | some [a] => .ok (a, a + 1)
  | some [a, b] => .ok (a, b + 1)
  | _ => .error (.formatIncorrect interval)

def isIntervalText (text : String) : Bool :=
  text ≠ "" && text.toList.all fun c => c.isDigit || c = '-'

/-- The pattern is a UUID and then, each after a colon, texts of digits and hyphens. -/
def parse (gtid : String) : Except GtidError (String × List (ℤ × ℤ)) :=
  match Strings.split (withoutNewline gtid) ':' with
  | sid :: interval :: intervals =>
    if IsUUID sid ∧ (interval :: intervals).all isIntervalText then
      ((interval :: intervals).mapM parseInterval).map fun intervals => (sid, intervals)
    else .error (.formatIncorrect gtid)
  | _ => .error (.formatIncorrect gtid)

/-- A closed interval, or one number for one transaction. -/
def formatInterval (x : ℤ × ℤ) : String :=
  if x.1 + 1 ≠ x.2 then x.1.repr ++ "-" ++ (x.2 - 1).repr else x.1.repr

def str (g : Gtid) : String :=
  g.sid ++ ":" ++ Strings.join (g.intervals.map formatInterval) ":"

/-! ### Intervals -/

/-- The loop of `__add_interval`: the intervals that stay, and the one to add with its neighbours
merged into it. -/
def mergeNeighbours (itvl : ℤ × ℤ) : List (ℤ × ℤ) → List (ℤ × ℤ) × (ℤ × ℤ)
  | [] => ([], itvl)
  | existing :: rest =>
    if itvl.1 = existing.2 then mergeNeighbours (existing.1, itvl.2) rest
    else if itvl.2 = existing.1 then mergeNeighbours (itvl.1, existing.2) rest
    else
      let (new, itvl) := mergeNeighbours itvl rest
      (existing :: new, itvl)

def addInterval (intervals : List (ℤ × ℤ)) (itvl : ℤ × ℤ) : Except GtidError (List (ℤ × ℤ)) :=
  if itvl.1 > itvl.2 then .error (.malformedInterval itvl)
  else if intervals.any (overlap · itvl) then .error (.overlappingInterval itvl)
  else
    let (new, itvl) := mergeNeighbours itvl (sort intervals)
    .ok (sort (new ++ [itvl]))

/-- What is left of an interval. -/
def remainder (itvl existing : ℤ × ℤ) : List (ℤ × ℤ) :=
  if overlap existing itvl then
    (if existing.1 < itvl.1 then [(existing.1, itvl.1)] else []) ++
      if existing.2 > itvl.2 then [(itvl.2, existing.2)] else []
  else [existing]

def subInterval (intervals : List (ℤ × ℤ)) (itvl : ℤ × ℤ) : Except GtidError (List (ℤ × ℤ)) :=
  if itvl.1 > itvl.2 then .error (.malformedInterval itvl)
  else if !intervals.any (overlap · itvl) then .ok intervals
  else .ok ((sort intervals).flatMap (remainder itvl))

/-! ### Objects -/

/-- `__init__` with the intervals given. -/
def ofIntervals (sid : String) (intervals : List (ℤ × ℤ)) : Except GtidError Gtid :=
  (intervals.foldlM addInterval []).map fun intervals => ⟨sid, intervals⟩

/-- `__init__` with a text. -/
def new (gtid : String) : Except GtidError Gtid := do
  let (sid, intervals) ← parse gtid
  ofIntervals sid intervals

def add (self other : Gtid) : Except GtidError Gtid :=
  if self.sid ≠ other.sid then .error (.differentSID self.sid other.sid)
  else (other.intervals.foldlM addInterval self.intervals).map fun intervals =>
    { self with intervals }

def sub (self other : Gtid) : Except GtidError Gtid :=
  if self.sid ≠ other.sid then .ok self
  else (other.intervals.foldlM subInterval self.intervals).map fun intervals =>
    { self with intervals }

/-- `other in self`. -/
def mem (self other : Gtid) : Bool :=
  if other.sid ≠ self.sid then false
  else other.intervals.all fun them => self.intervals.any fun me => contains me them

/-- `self == other`. -/
def eq (self other : Gtid) : Bool :=
  if other.sid ≠ self.sid then false
  else self.intervals = other.intervals

/-! ### Adding an interval -/

section

variable {l l' rest new itvls : List (ℤ × ℤ)} {itvl merged x i j : ℤ × ℤ}

lemma overlap_eq_false_iff : overlap i j = false ↔ Touching i j := by
  rw [overlap, Touching, Bool.and_eq_false_iff, decide_eq_false_iff_not, decide_eq_false_iff_not]
  omega

lemma overlap_eq_true_iff : overlap i j = true ↔ i.1 < j.2 ∧ j.1 < i.2 := by
  rw [overlap, Bool.and_eq_true, decide_eq_true_eq, decide_eq_true_eq]

lemma any_overlap_eq_false_iff :
    l.any (overlap · itvl) = false ↔ ∀ x ∈ l, Touching x itvl := by
  rw [List.any_eq_false]
  constructor
  · intro h x hx
    exact overlap_eq_false_iff.mp (Bool.eq_false_iff.mpr (h x hx))
  · intro h x hx
    exact Bool.eq_false_iff.mp (overlap_eq_false_iff.mpr (h x hx))

/-- What the loop makes of the intervals `rest` and the one to add. -/
structure Merged (itvl : ℤ × ℤ) (rest new : List (ℤ × ℤ)) (merged : ℤ × ℤ) : Prop where
  sublist : new.Sublist rest
  start_le : merged.1 ≤ itvl.1
  le_stop : itvl.2 ≤ merged.2
  separate : ∀ x ∈ new, Separate x merged
  carrier_eq : carrier new ∪ Set.Ico merged.1 merged.2 = carrier rest ∪ Set.Ico itvl.1 itvl.2
  /-- Only starts of `rest` come in the place of the start. -/
  lt_start : ∀ c, c < itvl.1 → (∀ x ∈ rest, c < x.1) → c < merged.1
  /-- Nothing is merged with intervals that lie beyond it. -/
  eq_of_lt : (∀ x ∈ rest, itvl.2 < x.1) → merged = itvl

lemma merged_mergeNeighbours (h : Spaced rest) (hle : itvl.1 ≤ itvl.2)
    (htouch : ∀ x ∈ rest, Touching x itvl) :
    Merged itvl rest (mergeNeighbours itvl rest).1 (mergeNeighbours itvl rest).2 := by
  induction rest generalizing itvl with
  | nil => exact ⟨List.Sublist.refl _, le_refl _, le_refl _, by simp [mergeNeighbours],
      rfl, fun c hc _ => hc, fun _ => rfl⟩
  | cons existing rest ih =>
    obtain ⟨hex, hlt, hrest⟩ := spaced_cons.mp h
    obtain ⟨hte, htouch⟩ := List.forall_mem_cons.mp htouch
    rw [mergeNeighbours]
    split_ifs with hleft hright
    · -- it starts where the existing one ends, and the later ones lie beyond it
      have ih' := @ih (existing.1, itvl.2) hrest (by simp only; omega) fun x hx => by
        have hx1 := hlt x hx
        have hx2 := hrest.le x hx
        rcases htouch x hx with hx3 | hx3
        · omega
        · exact Or.inr hx3
      refine ⟨ih'.sublist.cons _, by have := ih'.start_le; simp only at this; omega, ih'.le_stop,
        ih'.separate, ?_, fun c _ hc => ?_, fun hc => ?_⟩
      · rw [ih'.carrier_eq, carrier_cons, Set.union_comm (Set.Ico existing.1 existing.2),
          Set.union_assoc, hleft, Set.Ico_union_Ico_eq_Ico hex (hleft ▸ hle)]
      · exact ih'.lt_start c (hc existing List.mem_cons_self)
          fun x hx => hc x (List.mem_cons_of_mem _ hx)
      · have := hc existing List.mem_cons_self
        omega
    · -- it ends where the existing one starts
      have ih' := @ih (itvl.1, existing.2) hrest (by simp only; omega)
        fun x hx => Or.inr (hlt x hx).le
      refine ⟨ih'.sublist.cons _, ih'.start_le, by have := ih'.le_stop; simp only at this; omega,
        ih'.separate, ?_, fun c hc hc' => ?_, fun hc => ?_⟩
      · rw [ih'.carrier_eq, carrier_cons, Set.union_comm (Set.Ico existing.1 existing.2),
          Set.union_assoc, Set.union_comm (Set.Ico existing.1 existing.2), ← hright,
          Set.Ico_union_Ico_eq_Ico hle (hright ▸ hex)]
      · exact ih'.lt_start c hc fun x hx => hc' x (List.mem_cons_of_mem _ hx)
      · have := hc existing List.mem_cons_self
        omega
    · have ih' := ih hrest hle htouch
      refine ⟨ih'.sublist.cons_cons _, ih'.start_le, ih'.le_stop, ?_, ?_, fun c hc hc' => ?_,
        fun hc => ?_⟩
      · refine List.forall_mem_cons.mpr ⟨?_, ih'.separate⟩
        -- the existing interval is apart from it, on one side or the other
        rcases hte with hte | hte
        · exact Or.inl (ih'.lt_start existing.2 (by omega) hlt)
        · rw [ih'.eq_of_lt fun x hx => by have := hlt x hx; omega]
          exact Or.inr (by omega)
      · rw [carrier_cons, carrier_cons, Set.union_assoc, ih'.carrier_eq, Set.union_assoc]
      · exact ih'.lt_start c hc fun x hx => hc' x (List.mem_cons_of_mem _ hx)
      · exact ih'.eq_of_lt fun x hx => hc x (List.mem_cons_of_mem _ hx)

/-- An interval that touches the others at most is added to them. -/
lemma addInterval_spec (h : Spaced l) (hle : itvl.1 ≤ itvl.2) (htouch : ∀ x ∈ l, Touching x itvl) :
    ∃ l', addInterval l itvl = .ok l' ∧ Spaced l' ∧
      carrier l' = carrier l ∪ Set.Ico itvl.1 itvl.2 ∧
      (Normal l → itvl.1 < itvl.2 → Normal l') := by
  have hm := merged_mergeNeighbours h hle htouch
  rw [addInterval, if_neg (by omega), any_overlap_eq_false_iff.mpr htouch, h.sort_eq]
  generalize mergeNeighbours itvl l = result at hm
  obtain ⟨new, merged⟩ := result
  have hmle : merged.1 ≤ merged.2 := hm.start_le.trans (hle.trans hm.le_stop)
  have hspaced : Spaced (sort (new ++ [merged])) := by
    refine spaced_sort ?_ ?_
    · intro i hi
      rcases List.mem_append.mp hi with hi | hi
      · exact h.le i (hm.sublist.subset hi)
      · rwa [List.mem_singleton.mp hi]
    · refine List.pairwise_append.mpr ⟨?_, List.pairwise_singleton _ _, ?_⟩
      · exact (h.apart.sublist hm.sublist).imp fun hij => Or.inl hij
      · intro x hx y hy
        rw [List.mem_singleton.mp hy]
        exact hm.separate x hx
  refine ⟨_, rfl, hspaced, ?_, fun hl hlt => ⟨hspaced, fun i hi => ?_⟩⟩
  · rw [carrier_of_perm (perm_sort _), carrier_append, carrier_cons, carrier_nil, Set.union_empty,
      hm.carrier_eq]
  · rcases List.mem_append.mp (mem_sort.mp hi) with hi | hi
    · exact hl.lt i (hm.sublist.subset hi)
    · rw [List.mem_singleton.mp hi]
      exact hm.start_le.trans_lt (hlt.trans_le hm.le_stop)

lemma touching_of_addInterval (h : addInterval l itvl = .ok l') :
    itvl.1 ≤ itvl.2 ∧ ∀ x ∈ l, Touching x itvl := by
  rw [addInterval] at h
  split_ifs at h with hle hany
  exact ⟨not_lt.mp hle, any_overlap_eq_false_iff.mp (Bool.eq_false_iff.mpr hany)⟩

/-- The intervals of a list are added one after the other. -/
lemma spec_of_foldlM_addInterval (h : Spaced l) (hok : itvls.foldlM addInterval l = .ok l') :
    Spaced l' ∧ carrier l' = carrier l ∪ carrier itvls ∧
      (Normal l → (∀ i ∈ itvls, i.1 < i.2) → Normal l') := by
  induction itvls generalizing l with
  | nil =>
    obtain rfl := foldlM_nil_eq_ok_iff.mp hok
    exact ⟨h, by simp, fun hl _ => hl⟩
  | cons itvl itvls ih =>
    obtain ⟨l₁, hadd, hok⟩ := foldlM_cons_eq_ok_iff.mp hok
    obtain ⟨hle, htouch⟩ := touching_of_addInterval hadd
    obtain ⟨l₂, hadd', hspaced, hcarrier, hnormal⟩ := addInterval_spec h hle htouch
    obtain rfl := Except.ok.inj (hadd.symm.trans hadd')
    obtain ⟨hs, hc, hn⟩ := ih hspaced hok
    refine ⟨hs, ?_, fun hl hlt => ?_⟩
    · rw [hc, hcarrier, carrier_cons, Set.union_assoc]
    · obtain ⟨hlt, hlts⟩ := List.forall_mem_cons.mp hlt
      exact hn (hnormal hl hlt) hlts

/-- A list of intervals is accepted exactly if no transaction would be there twice. -/
lemma exists_foldlM_addInterval_iff (h : Normal l) (hlt : ∀ i ∈ itvls, i.1 < i.2) :
    (∃ l', itvls.foldlM addInterval l = .ok l') ↔
      itvls.Pairwise Touching ∧ Disjoint (carrier l) (carrier itvls) := by
  induction itvls generalizing l with
  | nil => simp [pure, Except.pure]
  | cons itvl itvls ih =>
    obtain ⟨hlt, hlts⟩ := List.forall_mem_cons.mp hlt
    simp only [foldlM_cons_eq_ok_iff]
    rw [carrier_cons, Set.disjoint_union_right, List.pairwise_cons, ← forall_touching_iff h.lt hlt]
    -- what follows must also keep clear of the interval just added
    have hall : (∀ x ∈ itvls, Touching itvl x) ↔
        Disjoint (Set.Ico itvl.1 itvl.2) (carrier itvls) := by
      rw [disjoint_comm, ← forall_touching_iff hlts hlt]
      exact forall₂_congr fun x _ => or_comm
    constructor
    · rintro ⟨l', l₁, hadd, hrest⟩
      obtain ⟨-, htouch⟩ := touching_of_addInterval hadd
      obtain ⟨l₂, hadd', -, hcarrier, hnormal⟩ := addInterval_spec h.toSpaced hlt.le htouch
      obtain rfl := Except.ok.inj (hadd.symm.trans hadd')
      obtain ⟨hpair, hdisjoint⟩ := (ih (hnormal h hlt) hlts).mp ⟨l', hrest⟩
      rw [hcarrier, Set.disjoint_union_left, ← hall] at hdisjoint
      exact ⟨⟨hdisjoint.2, hpair⟩, htouch, hdisjoint.1⟩
    · rintro ⟨⟨hitvl, hpair⟩, htouch, hdisjoint⟩
      obtain ⟨l₁, hadd, -, hcarrier, hnormal⟩ := addInterval_spec h.toSpaced hlt.le htouch
      obtain ⟨l', hrest⟩ := (ih (hnormal h hlt) hlts).mpr
        ⟨hpair, by rw [hcarrier, Set.disjoint_union_left, ← hall]; exact ⟨hdisjoint, hitvl⟩⟩
      exact ⟨l', l₁, hadd, hrest⟩

/-! ### Removing an interval -/

lemma carrier_remainder (hlt : itvl.1 < itvl.2) :
    carrier (remainder itvl x) = Set.Ico x.1 x.2 \ Set.Ico itvl.1 itvl.2 := by
  ext a
  simp only [remainder, overlap_eq_true_iff, Set.mem_sdiff, Set.mem_Ico]
  split_ifs <;> simp <;> omega

lemma normal_remainder (hx : x.1 < x.2) (hlt : itvl.1 < itvl.2) : Normal (remainder itvl x) := by
  rw [remainder]
  split_ifs <;> simp only [List.nil_append, List.append_nil, List.cons_append, normal_cons,
    normal_nil, List.mem_cons, List.not_mem_nil, or_false, forall_eq, false_implies,
    implies_true, and_true] <;> omega

lemma bounds_of_mem_remainder (hj : j ∈ remainder itvl x) :
    x.1 ≤ j.1 ∧ j.2 ≤ x.2 := by
  simp only [remainder, overlap_eq_true_iff] at hj
  split_ifs at hj with hover hleft hright hright
  · rcases List.mem_pair.mp hj with rfl | rfl
    · exact ⟨le_refl _, by omega⟩
    · exact ⟨by omega, le_refl _⟩
  · rw [List.mem_singleton.mp hj]
    exact ⟨le_refl _, by omega⟩
  · rw [List.mem_singleton.mp hj]
    exact ⟨by omega, le_refl _⟩
  · exact absurd hj List.not_mem_nil
  · rw [List.mem_singleton.mp hj]
    exact ⟨le_refl _, le_refl _⟩

/-- The elements of an interval are removed. -/
lemma subInterval_spec (h : Normal l) (hlt : itvl.1 < itvl.2) :
    ∃ l', subInterval l itvl = .ok l' ∧ Normal l' ∧
      carrier l' = carrier l \ Set.Ico itvl.1 itvl.2 := by
  rw [subInterval, if_neg (by omega)]
  by_cases hany : l.any (overlap · itvl) = true
  · rw [hany, h.sort_eq]
    refine ⟨_, rfl, h.flatMap (fun x hx => normal_remainder (h.lt x hx) hlt)
      (fun x _ j hj => bounds_of_mem_remainder hj), ?_⟩
    ext a
    have hrem {x : ℤ × ℤ} : a ∈ carrier (remainder itvl x) ↔
        a ∈ Set.Ico x.1 x.2 ∧ a ∉ Set.Ico itvl.1 itvl.2 := by
      rw [carrier_remainder hlt, Set.mem_sdiff]
    constructor
    · rintro ⟨j, hj, haj⟩
      obtain ⟨x, hx, hj⟩ := List.mem_flatMap.mp hj
      obtain ⟨hax, hai⟩ := hrem.mp ⟨j, hj, haj⟩
      exact ⟨⟨x, hx, hax⟩, hai⟩
    · rintro ⟨⟨x, hx, hax⟩, hai⟩
      obtain ⟨j, hj, haj⟩ := hrem.mpr ⟨hax, hai⟩
      exact ⟨j, List.mem_flatMap.mpr ⟨x, hx, hj⟩, haj⟩
  · -- no interval meets it, and none is changed
    rw [Bool.not_eq_true] at hany
    rw [hany]
    refine ⟨l, rfl, h, (sdiff_eq_left.mpr ?_).symm⟩
    rw [← forall_touching_iff h.lt hlt]
    exact any_overlap_eq_false_iff.mp hany

lemma foldlM_subInterval_spec (h : Normal l) (hlt : ∀ i ∈ itvls, i.1 < i.2) :
    ∃ l', itvls.foldlM subInterval l = .ok l' ∧ Normal l' ∧
      carrier l' = carrier l \ carrier itvls := by
  induction itvls generalizing l with
  | nil => exact ⟨l, rfl, h, by simp⟩
  | cons itvl itvls ih =>
    obtain ⟨hlt, hlts⟩ := List.forall_mem_cons.mp hlt
    obtain ⟨l₁, hsub, hl₁, hcarrier⟩ := subInterval_spec h hlt
    obtain ⟨l', hfold, hl', hcarrier'⟩ := ih hl₁ hlts
    refine ⟨l', ?_, hl', ?_⟩
    · rw [List.foldlM_cons, hsub]
      exact hfold
    · rw [hcarrier', hcarrier, carrier_cons, Set.sdiff_sdiff]

end

/-! ### Sets of transactions -/

def transactions (g : Gtid) : Set ℤ := carrier g.intervals

/-- Objects built from texts without empty intervals. -/
inductive Made : Gtid → Prop
  | new {text sid : String} {itvls : List (ℤ × ℤ)} {g : Gtid}
      (hparse : parse text = .ok (sid, itvls)) (hlt : ∀ i ∈ itvls, i.1 < i.2) (h : new text = .ok g) : Made g
  | add {a b g : Gtid} (ha : Made a) (hb : Made b) (h : a.add b = .ok g) : Made g
  | sub {a b g : Gtid} (ha : Made a) (hb : Made b) (h : a.sub b = .ok g) : Made g

section

variable {a b g : Gtid}

lemma ofIntervals_eq_ok {sid : String} {itvls : List (ℤ × ℤ)} (h : ofIntervals sid itvls = .ok g) :
    g.sid = sid ∧ itvls.foldlM addInterval [] = .ok g.intervals := by
  obtain ⟨l, hfold, rfl⟩ := map_eq_ok_iff.mp h
  exact ⟨rfl, hfold⟩

lemma new_eq_ok {text : String} (h : new text = .ok g) :
    ∃ itvls, parse text = .ok (g.sid, itvls) ∧ itvls.foldlM addInterval [] = .ok g.intervals := by
  obtain ⟨⟨sid, itvls⟩, hparse, h⟩ := bind_eq_ok_iff.mp h
  obtain ⟨rfl, hfold⟩ := ofIntervals_eq_ok h
  exact ⟨itvls, hparse, hfold⟩

lemma add_eq_ok (h : a.add b = .ok g) : a.sid = b.sid ∧ g.sid = a.sid ∧
    b.intervals.foldlM addInterval a.intervals = .ok g.intervals := by
  rw [add] at h
  split_ifs at h with hsid
  obtain ⟨l, hfold, rfl⟩ := map_eq_ok_iff.mp h
  exact ⟨not_not.mp hsid, rfl, hfold⟩

lemma sub_of_ne (h : a.sid ≠ b.sid) : a.sub b = .ok a := by
  rw [sub, if_pos h]

lemma exists_sub (ha : Normal a.intervals) (hb : Normal b.intervals) (h : a.sid = b.sid) :
    ∃ g, a.sub b = .ok g ∧ g.sid = a.sid ∧ Normal g.intervals ∧
      g.transactions = a.transactions \ b.transactions := by
  obtain ⟨l, hfold, hl, hcarrier⟩ := foldlM_subInterval_spec ha hb.lt
  refine ⟨⟨a.sid, l⟩, ?_, rfl, hl, hcarrier⟩
  rw [sub, if_neg (not_not.mpr h), hfold]
  rfl

/-- The intervals of every such object are in normal form. -/
lemma Made.normal (h : Made g) : Normal g.intervals := by
  induction h with
  | new hparse hlt h =>
    obtain ⟨itvls', hparse', hfold⟩ := new_eq_ok h
    obtain ⟨-, rfl⟩ := Prod.mk.inj (Except.ok.inj (hparse'.symm.trans hparse))
    exact (spec_of_foldlM_addInterval normal_nil.toSpaced hfold).2.2 normal_nil hlt
  | add _ _ h iha ihb =>
    obtain ⟨-, -, hfold⟩ := add_eq_ok h
    exact (spec_of_foldlM_addInterval iha.toSpaced hfold).2.2 iha ihb.lt
  | @sub a b g _ _ h iha ihb =>
    by_cases hsid : a.sid = b.sid
    · obtain ⟨g', hsub, -, hnormal, -⟩ := exists_sub iha ihb hsid
      rw [Except.ok.inj (h.symm.trans hsub)]
      exact hnormal
    · rw [sub_of_ne hsid] at h
      rwa [← Except.ok.inj h]

/-- An addition is refused exactly if the servers differ or a transaction is in both. -/
lemma exists_add_iff (ha : Normal a.intervals) (hb : Normal b.intervals) :
    (∃ g, a.add b = .ok g) ↔ a.sid = b.sid ∧ Disjoint a.transactions b.transactions := by
  have hpair : b.intervals.Pairwise Touching := hb.apart.imp fun h => Or.inl h.le
  have hiff := exists_foldlM_addInterval_iff ha hb.lt
  constructor
  · rintro ⟨g, h⟩
    obtain ⟨hsid, -, hfold⟩ := add_eq_ok h
    exact ⟨hsid, (hiff.mp ⟨_, hfold⟩).2⟩
  · rintro ⟨hsid, hdisjoint⟩
    obtain ⟨l, hfold⟩ := hiff.mpr ⟨hpair, hdisjoint⟩
    refine ⟨⟨a.sid, l⟩, ?_⟩
    rw [add, if_neg (not_not.mpr hsid), hfold]
    rfl

lemma transactions_of_add (ha : Spaced a.intervals) (h : a.add b = .ok g) :
    g.sid = a.sid ∧ g.transactions = a.transactions ∪ b.transactions := by
  obtain ⟨-, hsid, hfold⟩ := add_eq_ok h
  exact ⟨hsid, (spec_of_foldlM_addInterval ha hfold).2.1⟩

lemma mem_iff (ha : Normal a.intervals) (hb : Normal b.intervals) :
    a.mem b = true ↔ a.sid = b.sid ∧ b.transactions ⊆ a.transactions := by
  have hsub : (∀ them ∈ b.intervals, ∃ me ∈ a.intervals, contains me them = true) ↔
      b.transactions ⊆ a.transactions := by
    have hone (them) (hthem : them ∈ b.intervals) :
        (∃ me ∈ a.intervals, contains me them = true) ↔
          Set.Ico them.1 them.2 ⊆ carrier a.intervals := by
      rw [ha.Ico_subset_carrier_iff (hb.lt them hthem)]
      simp [contains]
    constructor
    · rintro h k ⟨them, hthem, hk⟩
      exact (hone them hthem).mp (h them hthem) hk
    · intro h them hthem
      exact (hone them hthem).mpr ((Ico_subset_carrier hthem).trans h)
  rw [mem]
  split_ifs with hsid
  · simp [Ne.symm hsid]
  · rw [not_not] at hsid
    simp [hsid, ← hsub]

lemma eq_iff (ha : Normal a.intervals) (hb : Normal b.intervals) :
    a.eq b = true ↔ a.sid = b.sid ∧ a.transactions = b.transactions := by
  rw [eq]
  split_ifs with hsid
  · simp [Ne.symm hsid]
  · rw [not_not] at hsid
    rw [decide_eq_true_eq]
    constructor
    · intro h
      exact ⟨hsid.symm, congrArg carrier h⟩
    · rintro ⟨-, h⟩
      exact ha.eq_of_carrier_eq hb h

end

/-- The objects and their operations are the finite sets of transactions of a server, with union of
disjoint sets, difference, inclusion and equality. -/
theorem refines_of_made (a b : Gtid) (ha : Made a) (hb : Made b) :
    Normal a.intervals ∧
    ((∃ g, a.add b = .ok g) ↔ a.sid = b.sid ∧ Disjoint a.transactions b.transactions) ∧
    (∀ g, a.add b = .ok g → g.sid = a.sid ∧ g.transactions = a.transactions ∪ b.transactions) ∧
    (∃ g, a.sub b = .ok g ∧ g.sid = a.sid ∧
      g.transactions = if a.sid = b.sid then a.transactions \ b.transactions else a.transactions) ∧
    (a.mem b = true ↔ a.sid = b.sid ∧ b.transactions ⊆ a.transactions) ∧
    (a.eq b = true ↔ a.sid = b.sid ∧ a.transactions = b.transactions) := by
  refine ⟨ha.normal, exists_add_iff ha.normal hb.normal,
    fun g h => transactions_of_add ha.normal.toSpaced h, ?_, mem_iff ha.normal hb.normal,
    eq_iff ha.normal hb.normal⟩
  by_cases hsid : a.sid = b.sid
  · obtain ⟨g, hsub, hg, -, htransactions⟩ := exists_sub ha.normal hb.normal hsid
    exact ⟨g, hsub, hg, by rw [if_pos hsid, htransactions]⟩
  · exact ⟨a, sub_of_ne hsid, rfl, by rw [if_neg hsid]⟩

def gapped : Gtid := ⟨"19d69c1e-ae97-4b8c-a1ef-9e12ba966457", [(1, 3), (4, 5)]⟩

def filler : Gtid := ⟨"19d69c1e-ae97-4b8c-a1ef-9e12ba966457", [(3, 4)]⟩

lemma made_gapped : Made gapped := by
  have hparse : parse "19d69c1e-ae97-4b8c-a1ef-9e12ba966457:4:1-2" =
      .ok ("19d69c1e-ae97-4b8c-a1ef-9e12ba966457", [(4, 5), (1, 3)]) := by decide +kernel
  exact Made.new hparse (by decide) (by decide +kernel)

lemma made_filler : Made filler := by
  have hparse : parse "19d69c1e-ae97-4b8c-a1ef-9e12ba966457:3" =
      .ok ("19d69c1e-ae97-4b8c-a1ef-9e12ba966457", [(3, 4)]) := by decide +kernel
  exact Made.new hparse (by decide) (by decide +kernel)

theorem refines_of_made_gapped :
    Disjoint gapped.transactions filler.transactions ∧
    (⟨gapped.sid, [(1, 5)]⟩ : Gtid).transactions = gapped.transactions ∪ filler.transactions ∧
    ∃ g, gapped.sub filler = .ok g ∧
      g.transactions = gapped.transactions \ filler.transactions := by
  have hadd : gapped.add filler = .ok ⟨gapped.sid, [(1, 5)]⟩ := by decide
  obtain ⟨-, hadds, hunion, ⟨g, hsub, -, hdiff⟩, -⟩ :=
    refines_of_made gapped filler made_gapped made_filler
  exact ⟨(hadds.mp ⟨_, hadd⟩).2, (hunion _ hadd).2, g, hsub, hdiff.trans (if_pos rfl)⟩

end Gtid

end MysqlSync.Python
