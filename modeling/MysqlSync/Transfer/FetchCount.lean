import Mathlib.Algebra.Order.Floor.Ring
import Mathlib.Data.Rat.Floor
import MysqlSync.Transfer.Basic

/-!
# How many operations a batch takes

Before each batch the distributor asks an `AdaptiveFetchCount` for a number of operations, and
then waits until its channel holds as many. The count grows by steps of a hundred while the sends
are fast and shrinks with the time a send takes, so what it settles on depends on floating point
comparisons. Whatever these say, a count is a positive multiple of ten that the channel held when
it was asked for, or ten (`evaluateFetchCount_served`): a full channel always ends the wait
(`isSome_step_evaluateFetchCount`).
-/

namespace MysqlSync

/-- What the evaluation does with `float64`: nothing is said about rounding. -/
structure FloatOps (F : Type) where
  ofInt : ℤ → F
  /-- The conversion `int(x)`. -/
  toInt : F → ℤ
  mul : F → F → F
  div : F → F → F
  lt : F → F → Bool
  le : F → F → Bool
  /-- The literal `1.1`. -/
  elevenTenths : F

/-- Dividing a count by a factor above one does not make it larger, nor negative. -/
def FloatOps.Shrinks {F : Type} (ops : FloatOps F) : Prop :=
  ∀ (base : ℤ) (factor : F), 0 ≤ base → ops.lt (ops.ofInt 1) factor = true →
    0 ≤ ops.toInt (ops.div (ops.ofInt base) factor) ∧
      ops.toInt (ops.div (ops.ofInt base) factor) ≤ base

/-- An `int` is an integer here: a channel's capacity is bounded by the memory, and no field gets
far beyond it (`Serves`). -/
structure AdaptiveFetchCount (F : Type) where
  baseLineMaxCount : ℤ
  fetchCount : ℤ
  maxTimeMs : ℤ
  lastSendLatencyMs : ℤ
  lastSendThroughput : F
  lastFetchCount : ℤ
  deriving Repr

namespace AdaptiveFetchCount

variable {F : Type} (ops : FloatOps F)

/-- `MinRcCnt` as the `int` it is computed with. -/
def minRcCnt : ℤ := TCPServer.minRcCnt

def newAdaptiveFetchCount (maxTime : ℤ) : AdaptiveFetchCount F where
  baseLineMaxCount := 0
  fetchCount := 0
  maxTimeMs := maxTime * 1000
  lastSendLatencyMs := 0
  lastSendThroughput := ops.ofInt 0
  lastFetchCount := 0

/-- Whether a send that took `sendLatencyMs` calls for a larger count: it moved nearly as many
operations a second as the one before, or took not much longer. -/
def speedsUp (afc : AdaptiveFetchCount F) (sendLatencyMs : ℤ) (sendThroughput : F) : Bool :=
  ops.le afc.lastSendThroughput (ops.mul sendThroughput ops.elevenTenths) ||
    ops.le (ops.ofInt sendLatencyMs) (ops.mul (ops.ofInt afc.lastSendLatencyMs) ops.elevenTenths)

/-- The count `_fetchCount` that the base line is raised to. -/
def grownFetchCount (afc : AdaptiveFetchCount F) (sendLatencyMs : ℤ) (sendThroughput : F) : ℤ :=
  if afc.lastFetchCount ≤ afc.fetchCount && speedsUp ops afc sendLatencyMs sendThroughput then
    afc.fetchCount + minRcCnt * 10
  else afc.fetchCount

/-- The base line that the next count is taken from. -/
def nextBaseLine (afc : AdaptiveFetchCount F) (sendLatencyMs filledCapacity : ℤ)
    (timeDecrementFactor sendThroughput : F) : ℤ :=
  if ops.lt (ops.ofInt 1) timeDecrementFactor then
    ops.toInt (ops.div (ops.ofInt afc.baseLineMaxCount) timeDecrementFactor)
  else
    max (max afc.baseLineMaxCount (grownFetchCount ops afc sendLatencyMs sendThroughput) - minRcCnt)
      (filledCapacity.tdiv 100)

/-- The count and the evaluation's fields after it. -/
def evaluateFetchCount (afc : AdaptiveFetchCount F) (sendLatencyMs filledCapacity : ℤ) :
    ℤ × AdaptiveFetchCount F :=
  if afc.fetchCount = 0 then
    -- just first
    let baseLineMaxCount := max (((filledCapacity.tdiv 100).tdiv minRcCnt) * minRcCnt) minRcCnt
    (baseLineMaxCount,
      { afc with baseLineMaxCount := baseLineMaxCount, fetchCount := baseLineMaxCount })
  else
    let timeDecrementFactor := ops.div (ops.ofInt sendLatencyMs) (ops.ofInt afc.maxTimeMs)
    let sendThroughput :=
      ops.div (ops.mul (ops.ofInt afc.fetchCount) (ops.ofInt 1000)) (ops.ofInt sendLatencyMs)
    let baseLineMaxCount :=
      nextBaseLine ops afc sendLatencyMs filledCapacity timeDecrementFactor sendThroughput
    let fetchCount := max ((min baseLineMaxCount filledCapacity).tdiv minRcCnt * minRcCnt) minRcCnt
    (fetchCount,
      { afc with
        baseLineMaxCount := baseLineMaxCount
        fetchCount := fetchCount
        lastFetchCount := afc.fetchCount
        lastSendLatencyMs := sendLatencyMs
        lastSendThroughput := sendThroughput })

/-- A call of `EvaluateFetchCount`. -/
structure Call where
  sendLatencyMs : ℤ
  filledCapacity : ℤ
  deriving DecidableEq, Repr

/-- A send takes a millisecond at least, and a channel of the capacity `cap` holds `cap` operations
at most. -/
def Call.Admissible (cap : ℤ) (call : Call) : Prop :=
  1 ≤ call.sendLatencyMs ∧ 0 ≤ call.filledCapacity ∧ call.filledCapacity ≤ cap

instance (cap : ℤ) (call : Call) : Decidable (call.Admissible cap) :=
  inferInstanceAs (Decidable (_ ∧ _))

def evaluate (afc : AdaptiveFetchCount F) (call : Call) : ℤ × AdaptiveFetchCount F :=
  evaluateFetchCount ops afc call.sendLatencyMs call.filledCapacity

/-- The fields after the calls, in their order. -/
def evaluateAll (afc : AdaptiveFetchCount F) (calls : List Call) : AdaptiveFetchCount F :=
  calls.foldl (fun afc call => (evaluate ops afc call).2) afc

/-! ### One call -/

/-- A count that a channel holding `filledCapacity` operations has already, or the least one. -/
structure Served (filledCapacity count : ℤ) : Prop where
  pos : 0 < count
  dvd : 10 ∣ count
  le_max : count ≤ max filledCapacity 10

/-- The invariant of the calls. -/
structure Serves (cap : ℤ) (afc : AdaptiveFetchCount F) : Prop where
  base_nonneg : 0 ≤ afc.baseLineMaxCount
  base_le : afc.baseLineMaxCount ≤ cap + 90
  fetchCount_le : afc.fetchCount ≤ cap

section

variable {ops} {cap maxTime : ℤ} {afc : AdaptiveFetchCount F} {calls : List Call} {call : Call}

/-- Rounding down to a multiple of ten, with ten as the least result. -/
lemma served_round {filledCapacity n : ℤ} (hn : 0 ≤ n) (hle : n ≤ filledCapacity) :
    Served filledCapacity (max (n.tdiv minRcCnt * minRcCnt) minRcCnt) := by
  have hmin : minRcCnt = 10 := rfl
  rw [hmin, Int.tdiv_eq_ediv_of_nonneg hn]
  constructor
  · omega
  · rcases max_choice (n / 10 * 10) 10 with h | h
    · rw [h]
      exact Int.dvd_mul_left _ _
    · rw [h]
  · omega

lemma nextBaseLine_nonneg_and_le (hops : ops.Shrinks) (hs : afc.Serves cap)
    (hcall : call.Admissible cap) (factor throughput : F) :
    0 ≤ nextBaseLine ops afc call.sendLatencyMs call.filledCapacity factor throughput ∧
      nextBaseLine ops afc call.sendLatencyMs call.filledCapacity factor throughput ≤ cap + 90 := by
  obtain ⟨-, hfilled, hcap⟩ := hcall
  have hbase := hs.base_le
  rw [nextBaseLine]
  split_ifs with hfactor
  · obtain ⟨hnonneg, hle⟩ := hops afc.baseLineMaxCount factor hs.base_nonneg hfactor
    exact ⟨hnonneg, hle.trans hbase⟩
  · have hfetch := hs.fetchCount_le
    have hmin : minRcCnt = 10 := rfl
    -- the growth of a hundred is cut by ten before it is stored
    have hgrown : grownFetchCount ops afc call.sendLatencyMs throughput ≤ cap + 100 := by
      rw [grownFetchCount, hmin]
      split_ifs <;> omega
    rw [Int.tdiv_eq_ediv_of_nonneg hfilled, hmin]
    omega

/-- What one call returns, and that it keeps the invariant. -/
lemma evaluate_served (hops : ops.Shrinks) (hcap : 10 ≤ cap) (hs : afc.Serves cap)
    (hcall : call.Admissible cap) :
    Served call.filledCapacity (evaluate ops afc call).1 ∧
      (evaluate ops afc call).2.Serves cap := by
  have hserved (h : Served call.filledCapacity (evaluate ops afc call).1) :
      (evaluate ops afc call).1 ≤ cap :=
    h.le_max.trans (max_le hcall.2.2 hcap)
  obtain ⟨-, hfilled, hle⟩ := id hcall
  by_cases hfirst : afc.fetchCount = 0
  · have h : Served call.filledCapacity (evaluate ops afc call).1 := by
      rw [evaluate, evaluateFetchCount, if_pos hfirst]
      have hhundredth : call.filledCapacity.tdiv 100 = call.filledCapacity / 100 :=
        Int.tdiv_eq_ediv_of_nonneg hfilled
      exact served_round (by omega) (by omega)
    refine ⟨h, ?_⟩
    have hcount := hserved h
    have hpos := h.pos
    rw [evaluate, evaluateFetchCount, if_pos hfirst] at hcount hpos ⊢
    exact ⟨hpos.le, hcount.trans (by omega), hcount⟩
  · obtain ⟨hnonneg, hbase⟩ := nextBaseLine_nonneg_and_le hops hs hcall
      (ops.div (ops.ofInt call.sendLatencyMs) (ops.ofInt afc.maxTimeMs))
      (ops.div (ops.mul (ops.ofInt afc.fetchCount) (ops.ofInt 1000))
        (ops.ofInt call.sendLatencyMs))
    have h : Served call.filledCapacity (evaluate ops afc call).1 := by
      rw [evaluate, evaluateFetchCount, if_neg hfirst]
      exact served_round (le_min hnonneg hfilled) (min_le_right _ _)
    refine ⟨h, ?_⟩
    have hcount := hserved h
    rw [evaluate, evaluateFetchCount, if_neg hfirst] at hcount ⊢
    exact ⟨hnonneg, hbase, hcount⟩

/-! ### Any sequence of calls -/

lemma serves_newAdaptiveFetchCount (hcap : 0 ≤ cap) :
    (newAdaptiveFetchCount ops maxTime).Serves cap where
  base_nonneg := le_rfl
  base_le := by
    show (0 : ℤ) ≤ cap + 90
    omega
  fetchCount_le := hcap

lemma serves_evaluateAll (hops : ops.Shrinks) (hcap : 10 ≤ cap) (hs : afc.Serves cap)
    (hcalls : ∀ call ∈ calls, call.Admissible cap) : (evaluateAll ops afc calls).Serves cap := by
  induction calls generalizing afc with
  | nil => exact hs
  | cons call calls ih =>
    obtain ⟨hcall, hcalls⟩ := List.forall_mem_cons.mp hcalls
    exact ih (evaluate_served hops hcap hs hcall).2 hcalls

end

/-- After any calls, the next one returns a positive multiple of ten that the channel holds
already or that is ten, so that the channel can hold it; and the base line has stayed between zero
and the capacity and ninety. -/
theorem evaluateFetchCount_served (hops : ops.Shrinks) (maxTime cap : ℤ) (hcap : 1000 ≤ cap)
    (calls : List Call) (hcalls : ∀ call ∈ calls, call.Admissible cap) :
    (0 ≤ (evaluateAll ops (newAdaptiveFetchCount ops maxTime) calls).baseLineMaxCount ∧
      (evaluateAll ops (newAdaptiveFetchCount ops maxTime) calls).baseLineMaxCount ≤ cap + 90) ∧
    ∀ call : Call, call.Admissible cap →
      Served call.filledCapacity
          (evaluate ops (evaluateAll ops (newAdaptiveFetchCount ops maxTime) calls) call).1 ∧
        max call.filledCapacity 10 ≤ cap := by
  have hs : (evaluateAll ops (newAdaptiveFetchCount ops maxTime) calls).Serves cap :=
    serves_evaluateAll hops (by omega) (serves_newAdaptiveFetchCount (by omega)) hcalls
  refine ⟨⟨hs.base_nonneg, hs.base_le⟩, fun call hcall => ⟨?_, ?_⟩⟩
  · exact (evaluate_served hops (by omega) hs hcall).1
  · exact max_le hcall.2.2 (by omega)

/-- Exact arithmetic on fractions, for which `int(x)` cuts towards zero. -/
def fractions : FloatOps ℚ where
  ofInt n := n
  toInt q := q.num.tdiv q.den
  mul q r := q * r
  div q r := q / r
  lt q r := q < r
  le q r := q ≤ r
  elevenTenths := 11 / 10

lemma shrinks_fractions : fractions.Shrinks := by
  intro base factor hbase hfactor
  have hone : 1 < factor := by simpa [fractions] using hfactor
  have hquot : (0 : ℚ) ≤ (base : ℚ) / factor := by positivity
  have hfloor : fractions.toInt ((base : ℚ) / factor) = ⌊(base : ℚ) / factor⌋ := by
    show Int.tdiv _ _ = _
    rw [Int.tdiv_eq_ediv_of_nonneg (Rat.num_nonneg.mpr hquot), Rat.floor_def']
  show 0 ≤ fractions.toInt ((base : ℚ) / factor) ∧ fractions.toInt ((base : ℚ) / factor) ≤ base
  rw [hfloor]
  refine ⟨Int.floor_nonneg.mpr hquot, ?_⟩
  have hle : (base : ℚ) / factor ≤ base := div_le_self (by exact_mod_cast hbase) hone.le
  exact_mod_cast (Int.floor_le _).trans hle

/-- A fast start, growth, and a send that took three times the time allowed. -/
theorem evaluateFetchCount_served_slowSend :
    Served 1000 (evaluate fractions (evaluateAll fractions (newAdaptiveFetchCount fractions 1)
      [⟨1, 0⟩, ⟨2, 500⟩, ⟨3000, 700⟩]) ⟨5, 1000⟩).1 :=
  ((evaluateFetchCount_served fractions shrinks_fractions 1 1000 (by decide)
    [⟨1, 0⟩, ⟨2, 500⟩, ⟨3000, 700⟩] (by decide)).2 ⟨5, 1000⟩ (by decide)).1

/-! ### The wait for the count -/

/-- A distributor that has asked for a count goes on to fetch once its channel is full, whatever
the calls before. -/
theorem isSome_step_evaluateFetchCount {ι : Type} [Fintype ι] [DecidableEq ι] {ops : FloatOps F}
    (hops : ops.Shrinks) {cap maxTime : ℤ} (hcap : 10 ≤ cap) {calls : List Call} {call : Call}
    (hcalls : ∀ call ∈ calls, call.Admissible cap) (hcall : call.Admissible cap)
    {ts : TCPServer ι} (hready : ts.distributor = .clientsReady ∅)
    (hfull : (ts.moCh.length : ℤ) = cap) :
    (ts.step (.evaluateFetchCount (evaluate ops
      (evaluateAll ops (newAdaptiveFetchCount ops maxTime) calls) call).1.toNat)).isSome := by
  have hs : (evaluateAll ops (newAdaptiveFetchCount ops maxTime) calls).Serves cap :=
    serves_evaluateAll hops hcap (serves_newAdaptiveFetchCount (by omega)) hcalls
  obtain ⟨hpos, ⟨k, hk⟩, hle⟩ := (evaluate_served hops hcap hs hcall).1
  have hcapacity := max_le hcall.2.2 hcap
  have hmin : TCPServer.minRcCnt = 10 := rfl
  rw [TCPServer.step]
  simp only [hready, hmin]
  rw [if_pos ⟨trivial, by omega, by omega⟩]
  rfl

end AdaptiveFetchCount

end MysqlSync
