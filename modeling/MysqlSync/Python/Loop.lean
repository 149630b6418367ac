import MysqlSync.Python.Target

/-!
# The loop of the synchroniser

A property `G` of the target can be broken in few ways: by a commit in the turn of an operation
that is not a row change, by the commit after the loop, also when an exception ended it, and by a
checkpoint. `Keeps` lists what has to be known about `G` for each of them, over the turns the loop
takes, and `throughout_run` concludes that `G` holds at every point of the whole run. `settles` and `gtidsetAfter` say, in terms of the
state an operation is handled in, whether a checkpoint at the end of its turn finds everything
committed and what is written.
-/

namespace MysqlSync.Python

open Prog

variable {ν : Type}

/-! ### The turns taken -/

/-- A turn of the loop: the operation, its position in the stream, and the state it is handled
in. -/
structure Turn (ν : Type) where
  pos : ℕ
  item : Item ν
  state : Sync ν

namespace Sync

variable (conf : Settings) (env : Env ν)

def receive (s : Sync ν) (item : Item ν) : Sync ν := { s with log := s.log ++ [.receive item] }

/-- The turns the loop takes on a stream, until it is left. -/
def turns : ℕ → List (Item ν) → Sync ν → List (Turn ν)
  | _, [], _ => []
  | n, item :: items, s => ⟨n, item, s.receive item⟩ ::
    match turn conf env item s with
    | (.ok _, s') => if s'.errorExit then [] else turns (n + 1) items s'
    | (.error _, _) => []

/-- Whether `__merge_commit` is called for the operation, and commits. -/
def merges (s : Sync ν) : Operation ν → Bool
  | .nonDML _ => s.allowCommit
  | .gtid operation =>
    conf.mergeTrx && s.lastCommitted != operation.lastCommitted && s.allowCommit
  | .heartbeat => s.lastIsHeartbeat && s.allowCommit
  | _ => false

/-- The set that a checkpoint in the turn of the operation writes. -/
def gtidsetAfter (s : Sync ν) : Operation ν → Gtidset
  | .gtid operation => s.latestGtidset.insert operation.serverUUID operation.xid
  | _ => s.latestGtidset

/-- Whether everything received is executed and committed once the operation has been handled. A
statement that is not a row change is committed by itself unless the target refuses it. -/
def settles (s : Sync ν) : Operation ν → Bool
  | .nonDML operation =>
    (MysqlClient.pushNondml env operation.schema operation.query).returns (mergeCommit env s).2
  | .dml _ => false
  | operation => s.dmlCnt == 0 || s.merges conf operation

/-- Whether the row change raises an exception. -/
def dmlRaises (s : Sync ν) : Operation ν → Bool
  | .dml operation => !(executeDml env operation).returns s
  | _ => false

end Sync

/-- Whether a checkpoint is written in this turn. -/
def Turn.isDue (conf : Settings) (t : Turn ν) : Bool :=
  !t.item.operation.isExcluded conf && t.state.ts0 + conf.ckeckpointInterval ≤ t.item.now &&
    (t.state.allowCkeckpoint || t.state.merges conf t.item.operation)

def Operation.isDml : Operation ν → Bool
  | .dml _ => true
  | _ => false

def Operation.isNonDML : Operation ν → Bool
  | .nonDML _ => true
  | _ => false

lemma Operation.carries_of_isExcluded {conf : Settings} {operation : Operation ν}
    (h : operation.isExcluded conf = true) : operation.carries conf = false := by
  cases operation with
  | dml operation => rw [Operation.carries, h]; rfl
  | _ => cases h

section

variable {conf : Settings} {env : Env ν} {G : Target ν → Prop} {as bs items : List (Item ν)}
  {n : ℕ} {s s' : Sync ν} {item : Item ν}

/-! ### Commits -/

/-- What `__merge_commit` does to the fields, and that nothing stays open. -/
structure Merged (s s' : Sync ν) : Prop where
  rest : s'.rest = { s.rest with
    allowCommit := false, allowCkeckpoint := s.allowCkeckpoint || s.allowCommit }
  dmlCnt : s.dmlCnt = 0 ∨ s.allowCommit = true → s'.dmlCnt = 0

lemma Tracks.mergeCommit (h : Tracks conf G as n s) (hG : Stable G)
    (hc : s.allowCommit = true → Commits conf G as) :
    wp (Sync.mergeCommit env) (fun _ s' => Tracks conf G as n s' ∧ Merged s s')
      (fun _ s' => Tracks conf G as n s') s := by
  simp only [Sync.mergeCommit, wp_bind, wp_get, wp_ite, wp_modify, wp_pure]
  split_ifs with hallow
  · refine wp_mono (h.pushCommit hG (hc hallow)) ?_ (fun _ _ h' => h'.1)
    rintro - s₁ ⟨h₁, hrest, htx⟩
    refine ⟨h₁.congr rfl rfl rfl, ?_, ?_⟩
    · rw [hallow, Bool.or_true, ← hrest]
      rfl
    · intro _
      exact h₁.dmlCnt_of_not_inTransaction (Bool.eq_false_iff.mp htx)
  · have hfalse : s.allowCommit = false := Bool.eq_false_iff.mpr hallow
    refine ⟨h, ?_, ?_⟩
    · rw [hfalse, Bool.or_false, ← hfalse]
      rfl
    · rintro (hcnt | hallow')
      · exact hcnt
      · exact absurd hallow' hallow

/-- The flush of what is open belongs to the statement, and raises inside the handler. -/
lemma Tracks.pushNondml (h : Tracks conf G as (as.length + 1) s) (hG : Stable G)
    (hc : Commits conf G as) (hc' : Commits conf G (as ++ [item])) {operation : OperationNonDML}
    (hitem : item.operation = .nonDML operation) :
    wp (MysqlClient.pushNondml env operation.schema operation.query)
      (fun _ s' => Tracks conf G (as ++ [item]) (as.length + 1) s' ∧ s'.rest = s.rest ∧
        s'.dmlCnt = 0)
      (fun _ s' => Tracks conf G as (as.length + 1) s' ∧ s'.rest = s.rest) s := by
  have hst : item.operation.statement conf = some (.nonDML operation.query) := by
    rw [hitem]
    rfl
  have hexecute : ∀ s₁ : Sync ν, Tracks conf G as (as.length + 1) s₁ ∧ s₁.rest = s.rest ∧
      s₁.inTransaction = false →
      wp (MysqlClient.call env (.execute (.nonDML operation.query)))
        (fun _ s' => Tracks conf G (as ++ [item]) (as.length + 1) s' ∧ s'.rest = s.rest ∧
          s'.dmlCnt = 0)
        (fun _ s' => Tracks conf G as (as.length + 1) s' ∧ s'.rest = s.rest) s₁ := by
    rintro s₁ ⟨h₁, hrest, htx⟩
    rw [wp_call]
    split_ifs with henv
    · exact ⟨h₁.nonDML htx hst hc', hrest, h₁.dmlCnt_of_not_inTransaction (Bool.eq_false_iff.mp htx)⟩
    · exact ⟨h₁.refused _, hrest⟩
  rw [MysqlClient.pushNondml, wp_bind]
  refine wp_mono (h.pushCommit hG hc) ?_ (fun _ _ h' => h')
  rintro - s₁ ⟨h₁, hrest, htx⟩
  cases operation.schema with
  | none => exact hexecute s₁ ⟨h₁, hrest, htx⟩
  | some db =>
    simp only [wp_ite, wp_bind]
    rw [wp_call]
    split_ifs with hdb henv
    · refine hexecute _ ⟨?_, hrest, htx⟩
      exact h₁.append rfl h₁.holds h₁.received h₁.executed h₁.inTransaction h₁.dmlCnt
    · exact ⟨h₁.refused _, hrest⟩
    · exact hexecute s₁ ⟨h₁, hrest, htx⟩

/-! ### Handling an operation -/

/-- What decides about a checkpoint at the end of the turn. -/
structure Flags (conf : Settings) (item : Item ν) (s s' : Sync ν) : Prop where
  ts0 : s'.ts0 = s.ts0
  allowCkeckpoint : s'.allowCkeckpoint = (s.allowCkeckpoint || s.merges conf item.operation)
  latestGtidset : s'.latestGtidset = s.gtidsetAfter item.operation

/-- The state after an operation has been handled in `s`. If its statement raised, it is not among
those executed, and a commit is still allowed only for a row change. -/
structure Handled (conf : Settings) (env : Env ν) (G : Target ν → Prop) (as : List (Item ν))
    (item : Item ν) (s s' : Sync ν) : Prop extends Flags conf item s s' where
  running : s'.errorExit = false → Tracks conf G (as ++ [item]) (as.length + 1) s'
  broken : s'.errorExit = true → Tracks conf G as (as.length + 1) s' ∧
    (s'.allowCommit = true →
      s.allowCommit = true ∧ s.dmlRaises env item.operation = true)
  settled : s.settles conf env item.operation = true →
    s'.errorExit = false ∧ s'.target.opened = []

lemma Flags.of_rest (hrest : s'.rest = s.rest) (hmerges : s.merges conf item.operation = false)
    (hgtidset : s.gtidsetAfter item.operation = s.latestGtidset) : Flags conf item s s' := by
  constructor
  · exact (congrArg Sync.ts0 hrest :)
  · rw [hmerges, Bool.or_false]
    exact (congrArg Sync.allowCkeckpoint hrest :)
  · rw [hgtidset]
    exact (congrArg Sync.latestGtidset hrest :)

lemma Flags.of_merged {s₁ : Sync ν} (hmerged : Merged s s₁) (hrest : s'.rest = s₁.rest)
    (hmerges : s.merges conf item.operation = s.allowCommit)
    (hgtidset : s.gtidsetAfter item.operation = s.latestGtidset) : Flags conf item s s' := by
  rw [hmerged.rest] at hrest
  constructor
  · exact (congrArg Sync.ts0 hrest :)
  · rw [hmerges]
    exact (congrArg Sync.allowCkeckpoint hrest :)
  · rw [hgtidset]
    exact (congrArg Sync.latestGtidset hrest :)

lemma Sync.settles_iff {operation : Operation ν} (hdml : operation.isDml = false)
    (hnonDML : operation.isNonDML = false) :
    s.settles conf env operation = true ↔ s.dmlCnt = 0 ∨ s.merges conf operation = true := by
  cases operation with
  | nonDML _ => cases hnonDML
  | dml _ => cases hdml
  | _ => simp [Sync.settles]

/-- An operation that raises nothing. -/
lemma Handled.of_tracks (hflags : Flags conf item s s') (herr : s'.errorExit = false)
    (h' : Tracks conf G (as ++ [item]) (as.length + 1) s')
    (hsettled : s.settles conf env item.operation = true → s'.dmlCnt = 0) :
    Handled conf env G as item s s' :=
  { hflags with
    running := fun _ => h'
    broken := fun hbroken => absurd hbroken (by simp [herr])
    settled := fun hs => ⟨herr, h'.opened_of_dmlCnt (hsettled hs)⟩ }

/-- An operation whose exception was caught. -/
lemma Handled.of_raised (hflags : Flags conf item s s')
    (h' : Tracks conf G as (as.length + 1) s')
    (hallow : s'.allowCommit = true →
      s.allowCommit = true ∧ s.dmlRaises env item.operation = true)
    (hsettled : s.settles conf env item.operation = false) :
    Handled conf env G as item s { s' with errorExit := true } :=
  { hflags with
    running := nofun
    broken := fun _ => ⟨h'.congr rfl rfl rfl, hallow⟩
    settled := fun hs => absurd hs (by simp [hsettled]) }

lemma Handled.nonDML (h : Tracks conf G as (as.length + 1) s) (herr : s.errorExit = false)
    (hG : Stable G) (hc : Commits conf G as) (hc' : Commits conf G (as ++ [item]))
    {operation : OperationNonDML} (hitem : item.operation = .nonDML operation) :
    wp (Sync.handle conf env item) (fun _ s' => Handled conf env G as item s s')
      (fun _ s' => Throughout G s'.log) s := by
  simp only [Sync.handle, hitem, wp_bind, wp_catchWith, Sync.setErrorExit, wp_modify]
  refine wp_mono (wp.run_eq (h.mergeCommit hG fun _ => hc)) ?_ (fun _ _ h' => h'.1.always)
  rintro _ s₁ ⟨⟨h₁, hmerged⟩, heq₁⟩
  have hflags : ∀ s₂ : Sync ν, s₂.rest = s₁.rest → Flags conf item s s₂ := fun s₂ hrest =>
    Flags.of_merged hmerged hrest (by rw [hitem]; rfl) (by rw [hitem]; rfl)
  refine wp_mono (wp.run_eq (h₁.pushNondml hG hc hc' hitem)) ?_ ?_
  · rintro - s₂ ⟨⟨h₂, hrest, hcnt⟩, -⟩
    have herr₂ : s₂.rest.errorExit = s.rest.errorExit := by rw [hrest, hmerged.rest]
    exact Handled.of_tracks (hflags s₂ hrest) (herr₂.trans herr) h₂ (fun _ => hcnt)
  · rintro e s₂ ⟨⟨h₂, hrest⟩, heq₂⟩
    have hallow : s₂.rest.allowCommit = false := by rw [hrest, hmerged.rest]
    refine Handled.of_raised (hflags s₂ hrest) h₂ (fun h => absurd (hallow.symm.trans h) (by simp)) ?_
    -- the statement was refused, so the turn does not settle
    rw [hitem, Sync.settles, heq₁, returns_of_error heq₂]

lemma Handled.dml (h : Tracks conf G as (as.length + 1) s) (herr : s.errorExit = false)
    (hG : Stable G) {operation : OperationDML ν} (hitem : item.operation = .dml operation)
    (hexcluded : item.operation.isExcluded conf = false) :
    wp (Sync.handle conf env item) (fun _ s' => Handled conf env G as item s s')
      (fun _ s' => Throughout G s'.log) s := by
  have hexecute : wp (Sync.executeDml env operation)
      (fun _ s' => Tracks conf G (as ++ [item]) (as.length + 1) s' ∧ s'.rest = s.rest)
      (fun _ s' => Tracks conf G as (as.length + 1) s' ∧ s'.rest = s.rest) s := by
    rw [Sync.executeDml]
    cases hsql : dmlOperation2Sql operation with
    | none => exact ⟨h, rfl⟩
    | some sql =>
      refine h.pushDml hG ?_
      rw [hitem] at hexcluded ⊢
      rw [Operation.statement, hexcluded, hsql]
      rfl
  have hflags : ∀ s' : Sync ν, s'.rest = s.rest → Flags conf item s s' := fun s' hrest =>
    Flags.of_rest hrest (by rw [hitem]; rfl) (by rw [hitem]; rfl)
  have hsettles : s.settles conf env item.operation = false := by
    rw [hitem]
    rfl
  simp only [Sync.handle, hitem, wp_catchWith, Sync.setErrorExit, wp_modify]
  refine wp_mono (wp.run_eq hexecute) ?_ ?_
  · rintro - s' ⟨⟨h', hrest⟩, -⟩
    have herr' : s'.rest.errorExit = s.rest.errorExit := by rw [hrest]
    exact Handled.of_tracks (hflags s' hrest) (herr'.trans herr) h'
      (fun hs => absurd hs (by simp [hsettles]))
  · rintro e s' ⟨⟨h', hrest⟩, heq⟩
    refine Handled.of_raised (hflags s' hrest) h' (fun hallow => ⟨?_, ?_⟩) hsettles
    · exact (congrArg Sync.allowCommit hrest :).symm.trans hallow
    · rw [hitem, Sync.dmlRaises, returns_of_error heq]
      rfl

lemma Handled.begin (h : Tracks conf G as (as.length + 1) s) (herr : s.errorExit = false)
    (hG : Stable G) (hitem : item.operation = .begin) :
    wp (Sync.handle conf env item) (fun _ s' => Handled conf env G as item s s')
      (fun _ s' => Throughout G s'.log) s := by
  simp only [Sync.handle, hitem]
  refine wp_mono (h.pushBegin hG) ?_ (fun _ _ h' => h'.1.always)
  rintro - s' ⟨h', hrest, hcnt⟩
  have herr' : s'.rest.errorExit = s.rest.errorExit := by rw [hrest]
  refine Handled.of_tracks ?_ (herr'.trans herr) (h'.skip (by rw [hitem]; rfl)) ?_
  · exact Flags.of_rest hrest (by rw [hitem]; rfl) (by rw [hitem]; rfl)
  · intro hsettles
    rw [hitem] at hsettles
    rw [hcnt]
    exact ((Sync.settles_iff rfl rfl).mp hsettles).resolve_right Bool.false_ne_true

lemma Handled.commit (h : Tracks conf G as (as.length + 1) s) (herr : s.errorExit = false)
    (hG : Stable G) (hc : Commits conf G as) (hitem : item.operation = .commit) :
    wp (Sync.handle conf env item) (fun _ s' => Handled conf env G as item s s')
      (fun _ s' => Throughout G s'.log) s := by
  have hcarries : item.operation.carries conf = false := by rw [hitem]; rfl
  have hmerges : s.merges conf item.operation = false := by rw [hitem]; rfl
  have hgtidset : s.gtidsetAfter item.operation = s.latestGtidset := by rw [hitem]; rfl
  simp only [Sync.handle, hitem, wp_ite, wp_modify]
  split_ifs with hmerge
  · have hflags : Flags conf item s s := Flags.of_rest rfl hmerges hgtidset
    have h' := h.skip hcarries
    refine Handled.of_tracks { hflags with } herr (h'.congr rfl rfl rfl) ?_
    intro hsettles
    rw [hitem] at hsettles
    exact ((Sync.settles_iff rfl rfl).mp hsettles).resolve_right Bool.false_ne_true
  · refine wp_mono (h.pushCommit hG hc) ?_ (fun _ _ h' => h'.1.always)
    rintro - s' ⟨h', hrest, htx⟩
    have herr' : s'.rest.errorExit = s.rest.errorExit := by rw [hrest]
    refine Handled.of_tracks (Flags.of_rest hrest hmerges hgtidset) (herr'.trans herr)
      (h'.skip hcarries) ?_
    exact fun _ => h'.dmlCnt_of_not_inTransaction (Bool.eq_false_iff.mp htx)

/-- The set and the position advance with the GTID, whatever is still open. -/
lemma Handled.gtid (h : Tracks conf G as (as.length + 1) s) (herr : s.errorExit = false)
    (hG : Stable G) (hc : Commits conf G as) {operation : OperationGtid}
    (hitem : item.operation = .gtid operation) :
    wp (Sync.handle conf env item) (fun _ s' => Handled conf env G as item s s')
      (fun _ s' => Throughout G s'.log) s := by
  have hcarries : item.operation.carries conf = false := by rw [hitem]; rfl
  have hgtidset : s.gtidsetAfter item.operation =
      s.latestGtidset.insert operation.serverUUID operation.xid := by rw [hitem]; rfl
  simp only [Sync.handle, hitem, wp_bind, wp_get, wp_ite, wp_modify]
  split_ifs with hnew
  · have hmerges : s.merges conf item.operation = s.allowCommit := by
      rw [hitem]
      simp [Sync.merges, hnew.1, hnew.2]
    refine wp_mono (h.mergeCommit hG fun _ => hc) ?_ (fun _ _ h' => h'.always)
    rintro - s' ⟨h', hmerged⟩
    have hrest := hmerged.rest
    have herr' : s'.errorExit = s.errorExit := (congrArg Sync.errorExit hrest :)
    refine Handled.of_tracks ⟨?_, ?_, ?_⟩ (herr'.trans herr) ?_ ?_
    · exact (congrArg Sync.ts0 hrest :)
    · rw [hmerges]
      exact (congrArg Sync.allowCkeckpoint hrest :)
    · have hlatest : s'.latestGtidset = s.latestGtidset := (congrArg Sync.latestGtidset hrest :)
      rw [hgtidset, ← hlatest]
    · exact (h'.skip hcarries).congr rfl rfl rfl
    · intro hsettles
      rw [hitem] at hmerges hsettles
      rw [Sync.settles_iff rfl rfl, hmerges] at hsettles
      exact hmerged.dmlCnt hsettles
  · have hmerges : s.merges conf item.operation = false := by
      rw [hitem]
      simp only [Sync.merges]
      grind
    refine Handled.of_tracks ⟨rfl, ?_, hgtidset.symm⟩ herr ((h.skip hcarries).congr rfl rfl rfl) ?_
    · rw [hmerges, Bool.or_false]
    · intro hsettles
      rw [hitem] at hmerges hsettles
      rw [Sync.settles_iff rfl rfl, hmerges] at hsettles
      exact hsettles.resolve_right Bool.false_ne_true

lemma Handled.heartbeat (h : Tracks conf G as (as.length + 1) s) (herr : s.errorExit = false)
    (hG : Stable G) (hc : Commits conf G as) (hitem : item.operation = .heartbeat) :
    wp (Sync.handle conf env item) (fun _ s' => Handled conf env G as item s s')
      (fun _ s' => Throughout G s'.log) s := by
  have hcarries : item.operation.carries conf = false := by rw [hitem]; rfl
  have hgtidset : s.gtidsetAfter item.operation = s.latestGtidset := by rw [hitem]; rfl
  simp only [Sync.handle, hitem, wp_bind, wp_get, wp_ite, wp_pure]
  split_ifs with hlast
  · have hmerges : s.merges conf item.operation = s.allowCommit := by
      rw [hitem, Sync.merges, hlast, Bool.true_and]
    refine wp_mono (h.mergeCommit hG fun _ => hc) ?_ (fun _ _ h' => h'.always)
    rintro - s' ⟨h', hmerged⟩
    have herr' : s'.errorExit = s.errorExit := (congrArg Sync.errorExit hmerged.rest :)
    refine Handled.of_tracks (Flags.of_merged hmerged rfl hmerges hgtidset) (herr'.trans herr)
      (h'.skip hcarries) ?_
    intro hsettles
    rw [hitem] at hmerges hsettles
    rw [Sync.settles_iff rfl rfl, hmerges] at hsettles
    exact hmerged.dmlCnt hsettles
  · have hmerges : s.merges conf item.operation = false := by
      rw [hitem, Sync.merges, Bool.eq_false_iff.mpr hlast, Bool.false_and]
    refine Handled.of_tracks (Flags.of_rest rfl hmerges hgtidset) herr (h.skip hcarries) ?_
    intro hsettles
    rw [hitem] at hmerges hsettles
    rw [Sync.settles_iff rfl rfl, hmerges] at hsettles
    exact hsettles.resolve_right Bool.false_ne_true

/-! ### A whole run -/

/-- What a property of the target has to withstand in the turns `ts` taken on the stream `items`. -/
structure Keeps (conf : Settings) (env : Env ν) (items : List (Item ν)) (ts : List (Turn ν))
    (G : Target ν → Prop) : Prop where
  initial : G (Target.initial ν)
  stable : Stable G
  /-- The commit in the turn of an operation that is not a row change. -/
  flush : ∀ as item bs, items = as ++ item :: bs → item.operation.isDml = false →
    Commits conf G as
  /-- The commit that goes with a statement that is not a row change. -/
  nonDML : ∀ as item bs, items = as ++ item :: bs → item.operation.isNonDML = true →
    Commits conf G (as ++ [item])
  /-- The commit after the loop. -/
  finish : Commits conf G items
  /-- The commit after the loop, when a row change raised. -/
  raised : ∀ t ∈ ts, ∀ as bs, items = as ++ t.item :: bs → as.length = t.pos →
    t.item.operation.isExcluded conf = false → t.state.allowCommit = true →
    t.state.dmlRaises env t.item.operation = true → Commits conf G as
  /-- The checkpoint at the end of a turn. -/
  checkpoint : ∀ t ∈ ts, ∀ as bs, items = as ++ t.item :: bs → as.length = t.pos →
    t.isDue conf = true → ∀ w : Target ν, G w →
    (t.state.settles conf env t.item.operation = true →
      Executed conf (as ++ [t.item]) w ∧ w.opened = []) →
    G { w with gtidset := some (t.state.gtidsetAfter t.item.operation) }

variable {ts : List (Turn ν)}

lemma Keeps.handle (hk : Keeps conf env items ts G) (hitems : items = as ++ item :: bs)
    (h : Tracks conf G as (as.length + 1) s) (herr : s.errorExit = false)
    (hexcluded : item.operation.isExcluded conf = false) :
    wp (Sync.handle conf env item) (fun _ s' => Handled conf env G as item s s')
      (fun _ s' => Throughout G s'.log) s := by
  have hflush := hk.flush as item bs hitems
  cases hitem : item.operation with
  | nonDML operation =>
    have hc' := hk.nonDML as item bs hitems (by rw [hitem]; rfl)
    exact Handled.nonDML h herr hk.stable (hflush (by rw [hitem]; rfl)) hc' hitem
  | dml operation => exact Handled.dml h herr hk.stable hitem hexcluded
  | begin => exact Handled.begin h herr hk.stable hitem
  | commit => exact Handled.commit h herr hk.stable (hflush (by rw [hitem]; rfl)) hitem
  | gtid operation => exact Handled.gtid h herr hk.stable (hflush (by rw [hitem]; rfl)) hitem
  | heartbeat => exact Handled.heartbeat h herr hk.stable (hflush (by rw [hitem]; rfl)) hitem

/-- A checkpoint can break the property only by the set it writes. -/
lemma Tracks.checkpoint (h : Tracks conf G as n s)
    (hgtidset : G { s.target with gtidset := some s.latestGtidset }) :
    wp (Sync.checkpoint env)
      (fun _ s' => Tracks conf G as n s' ∧ s'.errorExit = s.errorExit ∧
        s'.allowCommit = s.allowCommit)
      (fun _ s' => Throughout G s'.log) s := by
  simp only [Sync.checkpoint, wp_bind, wp_get]
  rw [wp_call]
  split_ifs with henv
  · have h₁ : Tracks conf G as n { s with
        log := s.log ++ [.call (.persistCheckpointGtidset s.latestGtidset) true] } :=
      h.append rfl hgtidset h.received (h.executed.congr rfl) h.inTransaction h.dmlCnt
    cases s.latestPosition with
    | none => exact h₁.always
    | some position =>
      simp only [wp_bind, wp_call, wp_modify]
      split_ifs with henv'
      · refine ⟨?_, trivial, trivial⟩
        exact h₁.append rfl h₁.holds h₁.received h₁.executed h₁.inTransaction h₁.dmlCnt
      · exact (h₁.refused _).always
  · exact (h.refused _).always

lemma Tracks.writeDue (h : Tracks conf G as n s)
    (hgtidset : s.ts0 + conf.ckeckpointInterval ≤ item.now → s.allowCkeckpoint = true →
      G { s.target with gtidset := some s.latestGtidset }) :
    wp (Sync.writeDue conf env item)
      (fun _ s' => Tracks conf G as n s' ∧ s'.errorExit = s.errorExit ∧
        s'.allowCommit = s.allowCommit)
      (fun _ s' => Throughout G s'.log) s := by
  simp only [Sync.writeDue, wp_bind, wp_get, wp_ite, wp_modify, wp_pure]
  have h₁ : Tracks conf G as n { s with ts0 := item.now } := h.congr rfl rfl rfl
  split_ifs with hdue hallow
  · exact h₁.checkpoint (hgtidset hdue hallow)
  · exact ⟨h₁, trivial, trivial⟩
  · exact ⟨h, trivial, trivial⟩

/-- Where the loop ends: a commit that is still allowed is harmless. -/
def Finished (conf : Settings) (G : Target ν → Prop) (s : Sync ν) : Prop :=
  ∃ as n, Tracks conf G as n s ∧ (s.allowCommit = true → Commits conf G as)

/-- The set written at the end of a turn, seen from the state the operation was handled in. -/
lemma Keeps.gtidset (hk : Keeps conf env items ts G) (hitems : items = as ++ item :: bs)
    (ht : ⟨as.length, item, s⟩ ∈ ts) (hexcluded : item.operation.isExcluded conf = false)
    (h' : Handled conf env G as item s s') (hnow : s'.ts0 + conf.ckeckpointInterval ≤ item.now)
    (hallow : s'.allowCkeckpoint = true) :
    G { s'.target with gtidset := some s'.latestGtidset } := by
  have hholds : G s'.target := by
    cases herr : s'.errorExit with
    | false => exact (h'.running herr).holds
    | true => exact (h'.broken herr).1.holds
  have hdue : Turn.isDue conf ⟨as.length, item, s⟩ = true := by
    rw [h'.ts0] at hnow
    rw [h'.allowCkeckpoint] at hallow
    simp [Turn.isDue, hexcluded, hnow, hallow]
  rw [h'.latestGtidset]
  refine hk.checkpoint _ ht as bs hitems rfl hdue s'.target hholds fun hsettles => ?_
  obtain ⟨herr, hopened⟩ := h'.settled hsettles
  exact ⟨(h'.running herr).executed, hopened⟩

/-- After a turn the loop goes on with the operation executed, or is left. -/
lemma Keeps.turn (hk : Keeps conf env items ts G) (hitems : items = as ++ item :: bs)
    (ht : ⟨as.length, item, s.receive item⟩ ∈ ts) (h : Tracks conf G as as.length s)
    (herr : s.errorExit = false) :
    wp (Sync.turn conf env item)
      (fun _ s' => (s'.errorExit = false → Tracks conf G (as ++ [item]) (as.length + 1) s') ∧
        (s'.errorExit = true → Finished conf G s'))
      (fun _ s' => Throughout G s'.log) s := by
  have h₀ : Tracks conf G as (as.length + 1) (s.receive item) := h.receive hk.stable item
  simp only [Sync.turn, emit, wp_bind, wp_modify, wp_ite, wp_pure]
  split_ifs with hexcluded
  · refine ⟨fun _ => h₀.skip ?_, fun hbroken => absurd hbroken (by simp [herr])⟩
    exact Operation.carries_of_isExcluded hexcluded
  · have hexcluded' := Bool.eq_false_iff.mpr hexcluded
    refine wp_mono (hk.handle hitems h₀ herr hexcluded') ?_ (fun _ _ h' => h')
    rintro - s₁ h₁
    have hgtidset := hk.gtidset hitems ht hexcluded' h₁
    cases herr₁ : s₁.errorExit with
    | false =>
      refine wp_mono ((h₁.running herr₁).writeDue hgtidset) ?_ (fun _ _ h' => h')
      rintro - s₂ ⟨h₂, herr₂, -⟩
      refine ⟨fun _ => h₂.congr rfl rfl rfl, fun hbroken => ?_⟩
      exact absurd (herr₁.symm.trans (herr₂.symm.trans hbroken)) (by simp)
    | true =>
      obtain ⟨hbroken, hraises⟩ := h₁.broken herr₁
      refine wp_mono (hbroken.writeDue hgtidset) ?_ (fun _ _ h' => h')
      rintro - s₂ ⟨h₂, herr₂, hallow₂⟩
      refine ⟨fun hrunning => ?_, fun _ => ⟨as, _, h₂.congr rfl rfl rfl, fun hallow => ?_⟩⟩
      · exact absurd (herr₁.symm.trans (herr₂.symm.trans hrunning)) (by simp)
      · obtain ⟨hallow', hraised⟩ := hraises (hallow₂.symm.trans hallow)
        exact hk.raised _ ht as bs hitems rfl hexcluded' hallow' hraised

/-- By induction on the operations to come: as long as the loop runs, everything it has taken is
executed. -/
lemma Keeps.loop (hk : Keeps conf env items ts G) (hitems : items = as ++ bs)
    (hts : Sync.turns conf env as.length bs s ⊆ ts) (h : Tracks conf G as as.length s)
    (herr : s.errorExit = false) :
    wp (Sync.loop conf env bs) (fun _ s' => Finished conf G s')
      (fun _ s' => Throughout G s'.log) s := by
  induction bs generalizing as s with
  | nil =>
    refine ⟨as, as.length, h, fun _ => ?_⟩
    rw [List.append_nil] at hitems
    exact hitems ▸ hk.finish
  | cons item bs ih =>
    have ht : ⟨as.length, item, s.receive item⟩ ∈ ts := hts (by simp [Sync.turns])
    simp only [Sync.loop, wp_bind, wp_get, wp_ite, wp_pure]
    refine wp_mono (wp.run_eq (hk.turn hitems ht h herr)) ?_ (fun _ _ h' => h'.1)
    rintro _ s' ⟨⟨hrunning, hbroken⟩, heq⟩
    split_ifs with herr'
    · exact hbroken herr'
    · have herr'' := Bool.eq_false_iff.mpr herr'
      have hitems' : items = (as ++ [item]) ++ bs := by
        rw [hitems, List.append_assoc, List.singleton_append]
      refine ih hitems' ?_ ?_ herr''
      · intro t ht'
        refine hts ?_
        rw [Sync.turns, heq]
        simp only [herr'', List.length_append, List.length_singleton] at ht' ⊢
        exact List.mem_cons_of_mem _ ht'
      · rw [List.length_append, List.length_singleton]
        exact hrunning herr''

/-- A property that withstands every turn holds at every point of the run. -/
theorem throughout_run {now : ℚ}
    (hk : Keeps conf env items (Sync.turns conf env 0 items (newSync ν now)) G) :
    Throughout G (Sync.run conf env items (newSync ν now)).2.log := by
  have hinitial : Tracks conf G [] 0 (newSync ν now) := by
    refine ⟨hk.initial, rfl, ⟨?_, ?_⟩, rfl, rfl⟩
    · intro i item hi
      cases hi
    · intro e he
      cases he
  refine wp.state (P := fun s : Sync ν => Throughout G s.log) ?_
  rw [Sync.run, wp_bind]
  refine wp_mono (hk.loop rfl (List.Subset.refl _) hinitial rfl) ?_ (fun _ _ h => h)
  rintro - s ⟨as, n, h, hc⟩
  exact wp_mono (h.mergeCommit hk.stable hc) (fun _ _ h' => h'.1.always) (fun _ _ h' => h'.always)

end

end MysqlSync.Python
