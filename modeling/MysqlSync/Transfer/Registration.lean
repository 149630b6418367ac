import MysqlSync.Lib.Machine
import MysqlSync.Checkpoint.Text

/-!
# Registration of the destinations

Before the extractor starts, every destination connects and sends a line with its name and its
GTID set. `handleClients` reads the lines one connection after another, forwards each set to the
collecting goroutine of `Replication.Start` and only then looks at the name; the collecting
goroutine counts what it receives. The two meet at an unbuffered channel, so a message is handed
over in one step of both, and everything else interleaves.
-/

namespace MysqlSync

open Strings

/-! ### The two goroutines -/

/-- What the server gets from its listener. -/
inductive Connection where
  | acceptError
  | scanError
  /-- Closed before there is a line; the text of the scanner is empty. -/
  | silent
  | line (text : String)
  deriving DecidableEq, Repr

/-- The text the server goes on with, unless it gives up. -/
def Connection.text : Connection → Option String
  | .acceptError | .scanError => none
  | .silent => some ""
  | .line text => some text

structure DestStartGtidSetsRangeStr where
  destName : String
  gtidSetsStr : String
  deriving DecidableEq, Repr

/-- Where `handleClients` is, with the counter of its loop. -/
inductive HandleClients where
  | accept (i : ℕ)
  /-- At the send to the channel. -/
  | send (i : ℕ) (info : DestStartGtidSetsRangeStr)
  /-- After the send, before the name is looked up. -/
  | check (i : ℕ) (clientName : String)
  | returned
  /-- An index out of range, which ends the process. -/
  | panic
  deriving DecidableEq, Repr

/-- Where the collecting goroutine is. The map by name and the list of sets that it fills hold the
same entries: they are one list here. -/
inductive Collecting where
  | receive (destGtidSetss : List (String × GtidSetsMap))
  | returned
  /-- The extractor is started from this range string. -/
  | started (initGtidSetsRangeStr : String)
  deriving DecidableEq

structure Registration where
  /-- The first lines read so far. -/
  lines : List String
  /-- The names whose client is set, in the order they were set. -/
  clients : List String
  handleClients : HandleClients
  collecting : Collecting
  deriving DecidableEq

def Registration.initial : Registration where
  lines := []
  clients := []
  handleClients := .accept 0
  collecting := .receive []

namespace Registration

/-- A connection is accepted, and its first line is read and split. -/
def accept (s : Registration) (i : ℕ) (conn : Connection) : Registration :=
  match conn.text with
  | none => { s with handleClients := .returned }
  | some text =>
    match split text '@' with
    | clientName :: gtidSetsStr :: _ => { s with
        lines := s.lines ++ [text]
        handleClients := .send i ⟨clientName, gtidSetsStr⟩ }
    | _ => { s with lines := s.lines ++ [text], handleClients := .panic }

/-- The collecting goroutine takes a message. -/
def collect (destGtidSetss : List (String × GtidSetsMap)) (info : DestStartGtidSetsRangeStr) :
    Collecting :=
  match getGtidSetsMapFromGtidSetsRangeStr info.gtidSetsStr with
  | .error _ => .returned
  | .ok gss =>
    if info.destName ∈ destGtidSetss.map Prod.fst then .returned
    else .receive (destGtidSetss ++ [(info.destName, gss)])

/-- The name is looked up, and its client is set unless it has one or its setup fails. -/
def check (destNames : Finset String) (s : Registration) (i : ℕ) (clientName : String)
    (initError : Bool) : Registration :=
  if clientName ∈ destNames ∧ clientName ∉ s.clients ∧ initError = false then
    { s with clients := s.clients ++ [clientName], handleClients := .accept (i + 1) }
  else { s with handleClients := .returned }

inductive Event where
  | accept (conn : Connection)
  /-- The loop of `handleClients` is over. -/
  | ready
  | handOver
  | check (initError : Bool)
  /-- The collecting goroutine sees that its context is done. -/
  | done
  /-- The collected sets are merged, each visited in some order, and the extractor is started. -/
  | extract (gtidSetss : List GtidSetsEntries)

/-- One step, if it can happen. -/
def step (destNames : Finset String) : Event → Registration → Option Registration
  | .accept conn, s =>
    match s.handleClients with
    | .accept i => if i < destNames.card then some (s.accept i conn) else none
    | _ => none
  | .ready, s =>
    match s.handleClients with
    | .accept i => if i < destNames.card then none else some { s with handleClients := .returned }
    | _ => none
  | .handOver, s =>
    match s.handleClients, s.collecting with
    | .send i info, .receive destGtidSetss =>
      if destGtidSetss.length < destNames.card then some { s with
        handleClients := .check i info.destName
        collecting := collect destGtidSetss info }
      else none
    | _, _ => none
  | .check initError, s =>
    match s.handleClients with
    | .check i clientName => some (s.check destNames i clientName initError)
    | _ => none
  | .done, s =>
    match s.collecting with
    | .receive destGtidSetss =>
      if destGtidSetss.length < destNames.card then some { s with collecting := .returned }
      else none
    | _ => none
  | .extract gtidSetss, s =>
    match s.collecting with
    | .receive destGtidSetss =>
      if ¬ destGtidSetss.length < destNames.card ∧
          gtidSetss.map AList.toFinmap = destGtidSetss.map Prod.snd then
        let initGtidSetsRangeStr :=
          getGtidSetsRangeStrFromGtidSetsMap (mergeGtidSetss gtidSetss)
        some { s with collecting := .started initGtidSetsRangeStr }
      else none
    | _ => none

end Registration

/-! ### What registration is for -/

/-- A line announces the destination of its first field, with the set its second field stands
for. -/
def Announces (text : String) (dest : String × GtidSetsMap) : Prop :=
  ∃ gtidSetsStr rest, split text '@' = dest.1 :: gtidSetsStr :: rest ∧
    getGtidSetsMapFromGtidSetsRangeStr gtidSetsStr = .ok dest.2

/-- The lines announce every configured destination once, and the extractor starts from the merge
of the sets they announce. -/
def Registered (destNames : Finset String) (lines : List String) (initGtidSetsRangeStr : String) :
    Prop :=
  ∃ dests gtidSetss, List.Forall₂ Announces lines dests ∧ (dests.map Prod.fst).Nodup ∧
    (∀ name, name ∈ dests.map Prod.fst ↔ name ∈ destNames) ∧
    gtidSetss.map AList.toFinmap = dests.map Prod.snd ∧
    initGtidSetsRangeStr = getGtidSetsRangeStrFromGtidSetsMap (mergeGtidSetss gtidSetss)

/-- Nothing is indexed out of range, and the extractor is started for registered destinations. -/
structure Robust (destNames : Finset String) (s : Registration) : Prop where
  indexed : s.handleClients ≠ .panic
  registered : ∀ str, s.collecting = .started str → Registered destNames s.lines str

/-- A line that is read has a second field, and the last one that is waited for has a configured
name. -/
def Admissible (destNames : Finset String) : Registration.Event → Registration → Prop
  | .accept conn, s => ∀ text ∈ conn.text, '@' ∈ text.toList ∧
      (s.clients.length + 1 = destNames.card → ∀ name ∈ (split text '@').head?, name ∈ destNames)
  | _, _ => True

instance (destNames : Finset String) (e : Registration.Event) (s : Registration) :
    Decidable (Admissible destNames e s) :=
  match e with
  | .accept _ => inferInstanceAs (Decidable (∀ _ ∈ _, _))
  | .ready | .handOver | .check _ | .done | .extract _ => .isTrue trivial

/-! ### The invariant -/

section

variable {destNames : Finset String} {s : Registration} {names lines : List String}
  {collecting : Collecting}

/-- The collecting goroutine holds the sets of the destinations `names`, announced by `lines`. -/
structure Held (destNames : Finset String) (names lines : List String) (collecting : Collecting) :
    Prop where
  receive : ∀ dests, collecting = .receive dests →
    dests.map Prod.fst = names ∧ names.Nodup ∧ names.length ≤ destNames.card ∧
      List.Forall₂ Announces lines dests
  started : ∀ str, collecting = .started str →
    names.length = destNames.card ∧ Registered destNames lines str

/-- What `handleClients` knows of the names that were handed over: all of them have a client,
except for the last one while it is not looked up yet, or if the loop ended there. -/
inductive Registration.Inv (destNames : Finset String) (s : Registration) : Prop where
  | accept (hserver : s.handleClients = .accept s.clients.length)
      (hheld : Held destNames s.clients s.lines s.collecting)
  | send (lines : List String) (text : String) (info : DestStartGtidSetsRangeStr)
      (hserver : s.handleClients = .send s.clients.length info)
      (hlt : s.clients.length < destNames.card) (hlines : s.lines = lines ++ [text])
      (hsplit : ∃ rest, split text '@' = info.destName :: info.gtidSetsStr :: rest)
      (hlast : s.clients.length + 1 = destNames.card → info.destName ∈ destNames)
      (hheld : Held destNames s.clients lines s.collecting)
  | check (name : String) (hserver : s.handleClients = .check s.clients.length name)
      (hlast : s.clients.length + 1 = destNames.card → name ∈ destNames)
      (hheld : Held destNames (s.clients ++ [name]) s.lines s.collecting)
  | returned (names : List String) (hserver : s.handleClients = .returned)
      (hlast : names.length = destNames.card → ∀ name ∈ names, name ∈ destNames)
      (hheld : Held destNames names s.lines s.collecting)

lemma held_returned (names lines : List String) : Held destNames names lines .returned where
  receive := by
    intro dests h
    cases h
  started := by
    intro str h
    cases h

/-- As many configured names as there are destinations are all of them. -/
lemma mem_iff_of_length {names : List String} (hnodup : names.Nodup)
    (hmem : ∀ name ∈ names, name ∈ destNames) (hlen : names.length = destNames.card)
    (name : String) : name ∈ names ↔ name ∈ destNames := by
  have hsub : names.toFinset ⊆ destNames := by
    intro name hname
    exact hmem name (List.mem_toFinset.mp hname)
  have heq : names.toFinset = destNames := by
    refine Finset.eq_of_subset_of_card_le hsub ?_
    rw [List.toFinset_card_of_nodup hnodup, hlen]
  rw [← heq, List.mem_toFinset]

/-- The extractor is started when all destinations are held. -/
lemma Held.extract {dests : List (String × GtidSetsMap)}
    (h : Held destNames names lines (.receive dests))
    (hlast : names.length = destNames.card → ∀ name ∈ names, name ∈ destNames)
    (hlen : ¬ dests.length < destNames.card) {gtidSetss : List GtidSetsEntries}
    (hgss : gtidSetss.map AList.toFinmap = dests.map Prod.snd) :
    Held destNames names lines
      (.started (getGtidSetsRangeStrFromGtidSetsMap (mergeGtidSetss gtidSetss))) := by
  obtain ⟨hnames, hnodup, hle, hlines⟩ := h.receive dests rfl
  have hcard : names.length = destNames.card := by
    rw [← hnames, List.length_map] at hle ⊢
    omega
  refine ⟨by simp, ?_⟩
  intro str hstr
  cases hstr
  refine ⟨hcard, dests, gtidSetss, hlines, hnames ▸ hnodup, ?_, hgss, rfl⟩
  rw [hnames]
  exact mem_iff_of_length hnodup (hlast hcard) hcard

/-- A message is taken. -/
lemma Held.collect {dests : List (String × GtidSetsMap)}
    (h : Held destNames names lines (.receive dests)) (hlt : dests.length < destNames.card)
    {info : DestStartGtidSetsRangeStr} {text : String} {rest : List String}
    (hsplit : split text '@' = info.destName :: info.gtidSetsStr :: rest) :
    Held destNames (names ++ [info.destName]) (lines ++ [text])
      (Registration.collect dests info) := by
  obtain ⟨hnames, hnodup, -, hlines⟩ := h.receive dests rfl
  rw [Registration.collect]
  split
  · exact held_returned _ _
  · rename_i gss hgss
    split_ifs with hmem
    · exact held_returned _ _
    · refine ⟨?_, by simp⟩
      intro dests' h'
      cases h'
      refine ⟨by simp [hnames], ?_, ?_, ?_⟩
      · rw [hnames] at hmem
        exact List.nodup_append.mpr ⟨hnodup, List.nodup_singleton _, fun name hname name' hname' heq =>
          hmem (List.mem_singleton.mp hname' ▸ heq ▸ hname)⟩
      · rw [← hnames, List.length_append, List.length_map, List.length_singleton]
        exact hlt
      · exact List.rel_append hlines (.cons ⟨_, rest, hsplit, hgss⟩ .nil)

/-! ### The steps -/

namespace Registration

variable {s' : Registration}

lemma Inv.accept_step (h : s.Inv destNames) {conn : Connection}
    (hadm : Admissible destNames (.accept conn) s)
    (hstep : step destNames (.accept conn) s = some s') : s'.Inv destNames := by
  cases h with
  | accept hserver hheld =>
    simp only [step, hserver] at hstep
    split_ifs at hstep with hlt
    cases hstep
    rw [Registration.accept]
    cases htext : conn.text with
    | none =>
      refine .returned s.clients rfl (fun hlen => ?_) hheld
      omega
    | some text =>
      obtain ⟨hat, hlast⟩ := hadm text htext
      obtain ⟨clientName, gtidSetsStr, rest, hsplit⟩ := exists_split_of_mem hat
      simp only [hsplit]
      refine .send s.lines text ⟨clientName, gtidSetsStr⟩ rfl hlt rfl ⟨rest, hsplit⟩ ?_ hheld
      intro hlen
      exact hlast hlen clientName (by rw [hsplit]; rfl)
  | send lines text info hserver => simp [step, hserver] at hstep
  | check name hserver => simp [step, hserver] at hstep
  | returned names hserver => simp [step, hserver] at hstep

lemma Inv.ready_step (h : s.Inv destNames) (hclients : ∀ name ∈ s.clients, name ∈ destNames)
    (hstep : step destNames .ready s = some s') : s'.Inv destNames := by
  cases h with
  | accept hserver hheld =>
    simp only [step, hserver] at hstep
    split_ifs at hstep
    cases hstep
    exact .returned s.clients rfl (fun _ => hclients) hheld
  | send lines text info hserver => simp [step, hserver] at hstep
  | check name hserver => simp [step, hserver] at hstep
  | returned names hserver => simp [step, hserver] at hstep

lemma Inv.handOver_step (h : s.Inv destNames) (hstep : step destNames .handOver s = some s') :
    s'.Inv destNames := by
  cases h with
  | accept hserver => simp [step, hserver] at hstep
  | send lines text info hserver hlt hlines hsplit hlast hheld =>
    obtain ⟨rest, hsplit⟩ := hsplit
    cases hc : s.collecting with
    | receive dests =>
      simp only [step, hserver, hc] at hstep
      split_ifs at hstep with hlen
      cases hstep
      rw [hc] at hheld
      refine .check info.destName rfl hlast ?_
      show Held destNames _ s.lines _
      rw [hlines]
      exact hheld.collect hlen hsplit
    | returned => simp [step, hserver, hc] at hstep
    | started str => simp [step, hserver, hc] at hstep
  | check name hserver => simp [step, hserver] at hstep
  | returned names hserver => simp [step, hserver] at hstep

lemma Inv.check_step (h : s.Inv destNames) (hclients : ∀ name ∈ s.clients, name ∈ destNames)
    {initError : Bool} (hstep : step destNames (.check initError) s = some s') :
    s'.Inv destNames := by
  cases h with
  | accept hserver => simp [step, hserver] at hstep
  | send lines text info hserver => simp [step, hserver] at hstep
  | check name hserver hlast hheld =>
    simp only [step, hserver, Option.some.injEq] at hstep
    subst hstep
    rw [Registration.check]
    split_ifs
    · exact .accept (by simp) hheld
    · refine .returned (s.clients ++ [name]) rfl (fun hlen => ?_) hheld
      rw [List.length_append, List.length_singleton] at hlen
      intro name' hname'
      rcases List.mem_append.mp hname' with hname' | hname'
      · exact hclients name' hname'
      · rw [List.mem_singleton.mp hname']
        exact hlast hlen
  | returned names hserver => simp [step, hserver] at hstep

/-- A step of the collecting goroutine alone. -/
lemma Inv.setCollecting (h : s.Inv destNames) {collecting : Collecting}
    (hclients : ∀ name ∈ s.clients, name ∈ destNames)
    (hcollecting : ∀ names lines, Held destNames names lines s.collecting →
      (names.length = destNames.card → ∀ name ∈ names, name ∈ destNames) →
      Held destNames names lines collecting) :
    Inv destNames { s with collecting := collecting } := by
  cases h with
  | accept hserver hheld =>
    exact .accept hserver (hcollecting _ _ hheld fun _ => hclients)
  | send lines text info hserver hlt hlines hsplit hlast hheld =>
    exact .send lines text info hserver hlt hlines hsplit hlast
      (hcollecting _ _ hheld fun _ => hclients)
  | check name hserver hlast hheld =>
    refine .check name hserver hlast (hcollecting _ _ hheld ?_)
    intro hlen name' hname'
    rw [List.length_append, List.length_singleton] at hlen
    rcases List.mem_append.mp hname' with hname' | hname'
    · exact hclients name' hname'
    · rw [List.mem_singleton.mp hname']
      exact hlast hlen
  | returned names hserver hlast hheld =>
    exact .returned names hserver hlast (hcollecting _ _ hheld hlast)

lemma Inv.done_step (h : s.Inv destNames) (hclients : ∀ name ∈ s.clients, name ∈ destNames)
    (hstep : step destNames .done s = some s') : s'.Inv destNames := by
  cases hc : s.collecting with
  | receive dests =>
    simp only [step, hc] at hstep
    split_ifs at hstep
    cases hstep
    exact h.setCollecting hclients fun names lines _ _ => held_returned names lines
  | returned => simp [step, hc] at hstep
  | started str => simp [step, hc] at hstep

lemma Inv.extract_step (h : s.Inv destNames) (hclients : ∀ name ∈ s.clients, name ∈ destNames)
    {gtidSetss : List GtidSetsEntries}
    (hstep : step destNames (.extract gtidSetss) s = some s') : s'.Inv destNames := by
  cases hc : s.collecting with
  | receive dests =>
    simp only [step, hc] at hstep
    split_ifs at hstep with hready
    cases hstep
    refine h.setCollecting hclients fun names lines hheld hlast => ?_
    rw [hc] at hheld
    exact hheld.extract hlast hready.1 hready.2
  | returned => simp [step, hc] at hstep
  | started str => simp [step, hc] at hstep

lemma clients_accept (i : ℕ) (conn : Connection) : (s.accept i conn).clients = s.clients := by
  rw [Registration.accept]
  split
  · rfl
  · split <;> rfl

/-- Only configured names get a client. -/
lemma clients_step (hclients : ∀ name ∈ s.clients, name ∈ destNames) {e : Event}
    (hstep : step destNames e s = some s') : ∀ name ∈ s'.clients, name ∈ destNames := by
  cases e with
  | accept conn =>
    simp only [step] at hstep
    split at hstep
    · split_ifs at hstep
      cases hstep
      rwa [clients_accept]
    · cases hstep
  | check initError =>
    simp only [step] at hstep
    split at hstep
    · rename_i i clientName _
      cases hstep
      rw [Registration.check]
      split_ifs with hname
      · intro name hmem
        rcases List.mem_append.mp hmem with hmem | hmem
        · exact hclients name hmem
        · rw [List.mem_singleton.mp hmem]
          exact hname.1
      · exact hclients
    · cases hstep
  | ready | handOver | done | extract gtidSetss =>
    simp only [step] at hstep
    split at hstep
    · split_ifs at hstep
      cases hstep
      exact hclients
    · cases hstep

lemma Inv.step (h : s.Inv destNames) (hclients : ∀ name ∈ s.clients, name ∈ destNames) {e : Event}
    (hadm : Admissible destNames e s) (hstep : step destNames e s = some s') :
    s'.Inv destNames := by
  cases e with
  | accept conn => exact h.accept_step hadm hstep
  | ready => exact h.ready_step hclients hstep
  | handOver => exact h.handOver_step hstep
  | check initError => exact h.check_step hclients hstep
  | done => exact h.done_step hclients hstep
  | extract gtidSetss => exact h.extract_step hclients hstep

lemma inv_initial : Registration.initial.Inv destNames := by
  refine .accept rfl ⟨?_, ?_⟩
  · intro dests h
    cases h
    exact ⟨rfl, .nil, Nat.zero_le _, .nil⟩
  · intro str h
    cases h

lemma Inv.robust (h : s.Inv destNames) : Robust destNames s := by
  cases h with
  | accept hserver hheld => exact ⟨by simp [hserver], fun str h => (hheld.started str h).2⟩
  | send lines text info hserver hlt hlines hsplit hlast hheld =>
    refine ⟨by simp [hserver], fun str h => ?_⟩
    exact absurd (hheld.started str h).1 (Nat.ne_of_lt hlt)
  | check name hserver hlast hheld =>
    exact ⟨by simp [hserver], fun str h => (hheld.started str h).2⟩
  | returned names hserver hlast hheld =>
    exact ⟨by simp [hserver], fun str h => (hheld.started str h).2⟩

end Registration

end

/-- In every interleaving, if each line that is read has a second field and the last one that is
waited for has a configured name, nothing is indexed out of range and the extractor is started
only for all configured destinations, from the merge of their sets. -/
theorem robust_of_admissible (destNames : Finset String) {events : List Registration.Event}
    {s : Registration}
    (hadm : Machine.Along (Registration.step destNames) (Admissible destNames) events .initial)
    (hrun : Machine.run (Registration.step destNames) events .initial = some s) :
    Robust destNames s := by
  have hinv := Machine.run_invariant_along
    (P := fun s : Registration => s.Inv destNames ∧ ∀ name ∈ s.clients, name ∈ destNames)
    (fun e s s' h hQ hstep => ⟨h.1.step h.2 hQ hstep, Registration.clients_step h.2 hstep⟩)
    ⟨Registration.inv_initial, by simp [Registration.initial]⟩ hadm hrun
  exact hinv.1.robust

/-- Two destinations register, one after the other, and the extractor starts behind the smaller of
their sets. -/
theorem robust_twoDestinations :
    Robust {"a", "b"} ⟨["b@u:1-5", "a@u:1-3"], ["b", "a"], .returned, .started "u:1-3"⟩ := by
  let events : List Registration.Event :=
    [.accept (.line "b@u:1-5"), .handOver, .check false, .accept (.line "a@u:1-3"), .handOver,
      .extract [AList.singleton "u" 5, AList.singleton "u" 3], .check false, .ready]
  have hadm : Machine.Along (Registration.step {"a", "b"}) (Admissible {"a", "b"}) events
      .initial := by decide +kernel
  exact robust_of_admissible {"a", "b"} hadm (by decide +kernel)

/-- A connection that is closed before it sends a line ends the process, and the connection of a
stranger starts the extractor without the destination. -/
theorem not_robust_strangers :
    (∃ s, Machine.run (Registration.step {"a"}) [.accept .silent] .initial = some s ∧
      ¬ Robust {"a"} s) ∧
    ∃ s, Machine.run (Registration.step {"a"})
        [.accept (.line "stranger@"), .handOver, .extract [∅]] .initial = some s ∧
      ¬ Robust {"a"} s := by
  constructor
  · exact ⟨⟨[""], [], .panic, .receive []⟩, rfl, fun h => h.indexed rfl⟩
  · refine ⟨⟨["stranger@"], [], .check 0 "stranger", .started ""⟩, by decide +kernel, fun h => ?_⟩
    obtain ⟨dests, gtidSetss, hlines, -, hnames, -, -⟩ := h.registered "" rfl
    cases hlines with
    | cons hline hrest =>
      cases hrest
      obtain ⟨gtidSetsStr, rest, hsplit, -⟩ := hline
      have hname := (hnames "a").mpr (by simp)
      rw [List.map_singleton, List.mem_singleton] at hname
      have hfields : split "stranger@" '@' = ["stranger", ""] := by decide
      rw [hfields, ← hname] at hsplit
      exact absurd (List.cons.inj hsplit).1 (by decide)

end MysqlSync
