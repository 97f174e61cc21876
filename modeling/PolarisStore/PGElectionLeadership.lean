import PolarisStore.PGElectionVersion
import PolarisStore.PGElectionLease

/-! What a peer believes against what the table holds: `leaderFlag`, `leader` and
`version`, and the events a tick publishes. -/
namespace PolarisStore.Postgresql

open World LeaderElectionStateMachine

section Steps

variable (host : String) (now : Int) (fault : Option StoreError) (db : Table) (p : Peer)

theorem followLeader_events_length (l : String) (le : LeaderElectionStateMachine) :
    (followLeader host l le).2.length ≤ 1 := by
  unfold followLeader; dsimp only; split_ifs <;> simp_all

/-- A step publishes at most one event, and a step that publishes ends its tick. -/
theorem peerStep_events :
    (peerStep host now fault db p).events.length ≤ 1 ∧
      ((peerStep host now fault db p).events ≠ [] → (peerStep host now fault db p).peer.pc = .idle) := by
  cases hpc : p.pc <;>
    simp only [peerStep, hpc, tickBegin, tickHeartbeat, tickCheckLeaderDead, tickElect,
      tickElectCas] <;> (try split_ifs) <;>
    simp [followLeader_events_length, checkReleaseTickLimit]

theorem followLeader_version (l : String) (le : LeaderElectionStateMachine) :
    (followLeader host l le).1.version = le.version := by
  unfold followLeader; dsimp only; split_ifs <;> rfl

/-- The lease check writes nothing and keeps the version; it ends the tick or goes on
to `elect`. -/
theorem peerStep_checkLeaderDead (hp : p.pc = .checkLeaderDead) :
    (peerStep host now fault db p).db = db ∧
    (peerStep host now fault db p).peer.le.version = p.le.version ∧
    ((peerStep host now fault db p).peer.pc = .idle ∨ (peerStep host now fault db p).peer.pc = .elect) := by
  simp only [peerStep, hp, tickCheckLeaderDead]; split_ifs <;> simp [followLeader_version]

/-- `elect` up to its CAS writes nothing: it fails and ends the tick, or reads the row's
version and sets the next one. -/
theorem peerStep_elect_of_row (hp : p.pc = .elect) {row : LeaderElectionRow}
    (hr : db p.le.electKey = some row) :
    (peerStep host now fault db p).db = db ∧
    ((peerStep host now fault db p).peer = ⟨p.le, .idle⟩ ∨
      (peerStep host now fault db p).peer =
        ⟨{ p.le with version := row.version + 1 }, .electCas row.version⟩) := by
  cases fault <;> simp [peerStep, hp, tickElect, getVersion, hr]

/-- A failed heartbeat CAS leaves the peer one version ahead of its row, and neither the
lease check nor `elect` after it repairs that before the next CAS. -/
theorem heartbeat_error_leaves_version_ahead (e : StoreError) {row : LeaderElectionRow}
    (hpc : p.pc = .heartbeat) (hr : db p.le.electKey = some row) (hv : row.version = p.le.version)
    (now' now'' : Int) (fault' fault'' : Option StoreError) :
    (let s := peerStep host now (some e) db p
    let s' := peerStep host now' fault' s.db s.peer
    let s'' := peerStep host now'' fault'' s'.db s'.peer
    s.db = db ∧ s.peer.pc = .checkLeaderDead ∧ s.peer.le.version = row.version + 1 ∧
    s'.db = db ∧ s'.peer.le.version = row.version + 1 ∧
    (s'.peer.pc = .idle ∨ s'.peer.pc = .elect) ∧
    (s'.peer.pc = .elect → s''.db = db ∧ s''.peer.le.version = row.version + 1 ∧
      (s''.peer.pc = .idle ∨ s''.peer.pc = .electCas row.version))) := by
  have h1 : peerStep host now (some e) db p =
      ⟨⟨{ p.le with version := row.version + 1 }, .checkLeaderDead⟩, db,
        some (.heartbeat p.le.version (p.le.version + 1) false (some e)), []⟩ := by
    simp [peerStep, hpc, tickHeartbeat, hv]
  dsimp only
  rw [h1]
  obtain ⟨hd, hver, hpc'⟩ := peerStep_checkLeaderDead host now' fault' db
    ⟨{ p.le with version := row.version + 1 }, .checkLeaderDead⟩ rfl
  refine ⟨rfl, rfl, rfl, hd, hver, hpc', fun he => ?_⟩
  rw [hd]
  obtain ⟨hd'', hp''⟩ := peerStep_elect_of_row host now'' fault'' db _ he
    (by rw [peerStep_electKey]; exact hr)
  rw [hd'']
  rcases hp'' with h | h <;> rw [h]
  · exact ⟨rfl, hver, .inl rfl⟩
  · exact ⟨rfl, rfl, .inr rfl⟩

/-- `A` leads at version 1 and its heartbeat CAS fails: the row keeps version 1, and `A`
holds 2 through its lease check and its `GetVersion`. -/
theorem heartbeat_failure_at_version_one :
    (⟨⟨"k", true, 1, false, 0, "A"⟩, .heartbeat⟩ : Peer).pc = .heartbeat ∧
      Function.update (fun _ => none) "k" (some ⟨"A", 1, 0, 0⟩) "k" =
        some (⟨"A", 1, 0, 0⟩ : LeaderElectionRow) ∧
      (⟨"A", 1, 0, 0⟩ : LeaderElectionRow).version = (1 : BitVec 64) ∧
      (let s := peerStep "A" 14000000000 (some .failure)
        (Function.update (fun _ => none) "k" (some ⟨"A", 1, 0, 0⟩)) ⟨⟨"k", true, 1, false, 0, "A"⟩, .heartbeat⟩
      let s' := peerStep "A" 14000000000 none s.db s.peer
      let s'' := peerStep "A" 14000000000 none s'.db s'.peer
      s.db = Function.update (fun _ => none) "k" (some ⟨"A", 1, 0, 0⟩) ∧ s.peer.pc = .checkLeaderDead ∧
      s.peer.le.version = (⟨"A", 1, 0, 0⟩ : LeaderElectionRow).version + 1 ∧
      s'.db = Function.update (fun _ => none) "k" (some ⟨"A", 1, 0, 0⟩) ∧
      s'.peer.le.version = (⟨"A", 1, 0, 0⟩ : LeaderElectionRow).version + 1 ∧
      (s'.peer.pc = .idle ∨ s'.peer.pc = .elect) ∧
      (s'.peer.pc = .elect → s''.db = Function.update (fun _ => none) "k" (some ⟨"A", 1, 0, 0⟩) ∧
        s''.peer.le.version = (⟨"A", 1, 0, 0⟩ : LeaderElectionRow).version + 1 ∧
        (s''.peer.pc = .idle ∨ s''.peer.pc = .electCas (⟨"A", 1, 0, 0⟩ : LeaderElectionRow).version))) :=
  ⟨rfl, rfl, rfl, heartbeat_error_leaves_version_ahead "A" 14000000000 _ _ .failure rfl rfl rfl
    14000000000 14000000000 none none⟩

end Steps

section Replay

variable {hosts : Nat → String} {key : String} {v0 : BitVec 64} {l0 : String} {w : World}

/-- The host of the peer whose CAS applied last in a call log. -/
def lastAppliedHost (hosts : Nat → String) (calls : List (Nat × StoreCall)) : Option String :=
  (calls.filter fun c => c.2.applied.isSome).getLast?.map fun c => hosts c.1

/-- The row that the applied CASes of a log leave, from the created row `row`: the host
of the last one as leader, and one version per CAS. -/
def replayRow (hosts : Nat → String) (row : LeaderElectionRow) (calls : List (Nat × StoreCall)) :
    LeaderElectionRow :=
  { row with leader := (lastAppliedHost hosts calls).getD row.leader,
             version := row.version + BitVec.ofNat 64 (appliedCas calls).length }

theorem lastAppliedHost_append (calls : List (Nat × StoreCall)) (i : Nat) (c : Option StoreCall) :
    lastAppliedHost hosts (calls ++ (c.map (i, ·)).toList) =
      if (c.bind StoreCall.applied).isSome then some (hosts i) else lastAppliedHost hosts calls := by
  cases c with
  | none => simp [lastAppliedHost]
  | some c => cases h : c.applied <;> simp [lastAppliedHost, List.filter_append, h]

/-- The table's `leader` names the host whose CAS applied last, or `l0` before any. -/
def LeaderInv (hosts : Nat → String) (key l0 : String) (w : World) : Prop :=
  ∃ r, w.db key = some r ∧ r.leader = (lastAppliedHost hosts w.calls).getD l0

theorem LeaderInv.step (hv : VersionInv key v0 w) (h : LeaderInv hosts key l0 w) (a : Action) :
    LeaderInv hosts key l0 (w.step hosts a) := by
  cases a
  case release i => rwa [LeaderInv, (step_db_calls_of_not_tick (.release i) fun _ _ _ => nofun).1,
    (step_db_calls_of_not_tick (.release i) fun _ _ _ => nofun).2]
  case cancel i => exact h
  case done i => rwa [LeaderInv, (step_db_calls_of_not_tick (.done i) fun _ _ _ => nofun).1,
    (step_db_calls_of_not_tick (.done i) fun _ _ _ => nofun).2]
  case tick i now fault =>
    obtain ⟨r, hr, hl⟩ := h
    rcases peerStep_db (hosts i) now fault w.db (w.peers i) (hv.electCas i) with
      ⟨hdb, hc⟩ | ⟨row, -, hc, hdb⟩
    · exact ⟨r, by simpa [World.step, hdb] using hr,
        by simpa [World.step, lastAppliedHost_append, hc] using hl⟩
    · refine ⟨{ row with leader := hosts i, version := row.version + 1 }, ?_, ?_⟩
      · simp [World.step, hdb, hv.electKey i]
      · simp [World.step, lastAppliedHost_append, hc]

/-- Over every run, the stored row is the created one replayed through the applied CASes:
the last one's host, one version per CAS, the creation timestamps. -/
theorem stored_row_replays_applied_cas {db : Table} {row : LeaderElectionRow}
    (h : db key = some row) (acts : List Action) :
    ((init key db).run hosts acts).db key =
      some (replayRow hosts row ((init key db).run hosts acts).calls) := by
  have hI : VersionInv key row.version ((init key db).run hosts acts) ∧
      LeaderInv hosts key row.leader ((init key db).run hosts acts) :=
    run_invariant (I := fun w => VersionInv key row.version w ∧ LeaderInv hosts key row.leader w)
      (fun _ a hw => ⟨hw.1.step a, hw.2.step hw.1 a⟩) acts (init key db)
      ⟨versionInv_init h, row, h, by simp [init, lastAppliedHost]⟩
  obtain ⟨⟨-, -, ⟨r, hr, hv⟩, -⟩, r', hr', hl⟩ := hI
  have ht := run_rowTimes hosts acts (init key db) key
  rw [hr'] at hr; cases hr
  rw [hr', show (init key db).db = db from rfl, h] at ht
  rw [hr']
  cases r; cases row
  simp_all [replayRow, rowTimes]

/-- `A` is elected at 12 s and its first heartbeat applies: two applied CASes. -/
theorem stored_row_after_election_and_heartbeat :
    (Function.update (fun _ => none) "k" (some (newLeaderElectionRow 0)) : Table) "k" =
      some (newLeaderElectionRow 0) ∧
    ((World.created "k" 0).run (fun i => if i = 0 then "A" else "B")
        (List.replicate 6 (.tick 0 12000000000 none))).db "k" =
      some (replayRow (fun i => if i = 0 then "A" else "B") (newLeaderElectionRow 0)
        ((World.created "k" 0).run (fun i => if i = 0 then "A" else "B")
          (List.replicate 6 (.tick 0 12000000000 none))).calls) :=
  ⟨rfl, stored_row_replays_applied_cas rfl _⟩

end Replay

section Belief

variable {host : String}

/-- `le` is flagged leader exactly when it names `host` as the leader. -/
def Belief (host : String) (le : LeaderElectionStateMachine) : Prop :=
  le.leaderFlag = true ↔ le.leader = host

/-- An event that announces leadership exactly when it names `host`. -/
def EventAgrees (host : String) (e : LeaderChangeEvent) : Prop :=
  e.leader = true ↔ e.leaderHost = host

theorem belief_iff_agrees (le : LeaderElectionStateMachine) :
    Belief host le ↔ EventAgrees host le.publishLeaderChangeEvent := Iff.rfl

/-- A stretch of `tick` from `le` to `le'` publishing `evs`: it keeps the belief, publishes
agreeing events, and ends with the event `le'` would publish. -/
structure Transition (host : String) (le le' : LeaderElectionStateMachine)
    (evs : List LeaderChangeEvent) : Prop where
  belief : Belief host le'
  events : ∀ e ∈ evs, EventAgrees host e
  last : evs.getLast?.getD le.publishLeaderChangeEvent = le'.publishLeaderChangeEvent

namespace Transition

variable {le le₁ le₂ : LeaderElectionStateMachine} {evs evs' : List LeaderChangeEvent}

theorem nil (h : Belief host le) : Transition host le le [] := ⟨h, by simp, rfl⟩

/-- A change of fields that `publishLeaderChangeEvent` does not read. -/
theorem congr_publish (h : Transition host le le₁ evs)
    (hp : le₂.publishLeaderChangeEvent = le₁.publishLeaderChangeEvent) :
    Transition host le le₂ evs :=
  ⟨(belief_iff_agrees le₂).2 (hp ▸ (belief_iff_agrees le₁).1 h.belief), h.events, hp ▸ h.last⟩

theorem trans (h : Transition host le le₁ evs) (h' : Transition host le₁ le₂ evs') :
    Transition host le le₂ (evs ++ evs') where
  belief := h'.belief
  events e he := (List.mem_append.1 he).elim (h.events e) (h'.events e)
  last := by
    rw [List.getLast?_append, ← h'.last, ← h.last]
    cases evs'.getLast? <;> rfl

theorem changeToLeader (le : LeaderElectionStateMachine) :
    Transition host le (le.changeToLeader host).1 [(le.changeToLeader host).2] :=
  ⟨by simp [Belief], by simp [EventAgrees], rfl⟩

theorem changeToFollower {l : String} (hl : l ≠ host) (le : LeaderElectionStateMachine) :
    Transition host le (le.changeToFollower l).1 [(le.changeToFollower l).2] :=
  ⟨by simp [Belief, hl], by simp [EventAgrees, hl], rfl⟩

end Transition

open Transition

/-- The start of `tick`: the cooldown, and the release of a leader to follower of `""`. -/
theorem tickBegin_transition (hh : host ≠ "") (le : LeaderElectionStateMachine)
    (h : Belief host le) : Transition host le (tickBegin le).1.le (tickBegin le).2 := by
  unfold tickBegin
  by_cases hc : le.checkReleaseTickLimit.2
  · rw [if_pos hc]
    exact (nil h).congr_publish (by unfold checkReleaseTickLimit; split <;> rfl)
  · rw [if_neg hc]
    dsimp only
    have h0 : Transition host le le.checkAndClearReleaseSignal.1 [] := (nil h).congr_publish rfl
    by_cases hf : le.checkAndClearReleaseSignal.1.isLeader
    · rw [if_pos hf]
      by_cases hs : le.checkAndClearReleaseSignal.2
      · rw [if_pos hs]
        exact (h0.trans (Transition.changeToFollower hh.symm _)).congr_publish rfl
      · rw [if_neg hs]; exact h0
    · rw [if_neg hf]; exact h0

/-- The branch on an unexpired lease: `changeToLeader` when the lease is this host's,
then `changeToFollower(leader)` when the leader it names differs. -/
theorem followLeader_transition (l : String) (le : LeaderElectionStateMachine)
    (h : Belief host le) : Transition host le (followLeader host l le).1 (followLeader host l le).2 := by
  unfold followLeader
  by_cases hl : l = host
  · subst hl
    simp only [eq_self_iff_true, ↓reduceIte, changeToLeader_fst, ne_eq, not_true_eq_false]
    exact Transition.changeToLeader le
  · simp only [if_neg hl]
    by_cases hd : le.leader = l
    · simp only [hd, ne_eq, not_true_eq_false, if_false]; exact nil h
    · rw [if_pos hd]; exact (nil h).trans (Transition.changeToFollower hl le)

variable (now : Int) (fault : Option StoreError) (db : Table)

/-- Every step of a tick keeps the belief of a peer with a non-empty host. -/
theorem peerStep_transition (hh : host ≠ "") {p : Peer} (h : Belief host p.le) :
    Transition host p.le (peerStep host now fault db p).peer.le
      (peerStep host now fault db p).events := by
  cases hpc : p.pc with
  | idle => simp only [peerStep, hpc]; exact tickBegin_transition hh p.le h
  | heartbeat => simp only [peerStep, hpc]; exact (nil h).congr_publish rfl
  | checkLeaderDead =>
    simp only [peerStep, hpc, tickCheckLeaderDead]
    split_ifs
    · exact nil h
    · exact followLeader_transition _ _ h
    · exact nil h
  | elect => simp only [peerStep, hpc, tickElect]; split_ifs <;> exact (nil h).congr_publish rfl
  | electCas cur =>
    simp only [peerStep, hpc, tickElectCas]
    split_ifs
    · exact Transition.changeToLeader _
    · exact nil h
  | stopped => simp only [peerStep, hpc]; exact nil h

end Belief

section BeliefRun

variable {hosts : Nat → String} {key : String} {w : World}

/-- The event peer `i` published last for `key`; before its first tick, the one that
`mainLoop`'s `changeToFollower("")` published. -/
def lastPublished (key : String) (i : Nat) (w : World) : LeaderChangeEvent :=
  ((ownEntries i w.events).getLast?.map Prod.snd).getD ⟨key, false, ""⟩

theorem lastPublished_tick (i j : Nat) (now : Int) (fault : Option StoreError) :
    lastPublished key j (w.step hosts (.tick i now fault)) =
      if j = i then (peerStep (hosts i) now fault w.db (w.peers i)).events.getLast?.getD
        (lastPublished key j w) else lastPublished key j w := by
  by_cases hj : j = i
  · subst hj
    rw [if_pos rfl, lastPublished, lastPublished]
    simp only [World.step, ownEntries_append, ownEntries_map_self, List.getLast?_append,
      List.getLast?_map, Option.map_or]
    cases (peerStep (hosts j) now fault w.db (w.peers j)).events.getLast? <;> rfl
  · simp [if_neg hj, lastPublished, World.step, ownEntries_map_ne (Ne.symm hj)]

theorem lastPublished_done (i j : Nat) :
    lastPublished key j (w.step hosts (.done i)) =
      if j = i ∧ w.cancelled i = true ∧ (w.peers i).pc = .idle
      then ((w.peers i).le.changeToFollower "").2 else lastPublished key j w := by
  rw [lastPublished, lastPublished, step_done_events]
  by_cases hc : w.cancelled i = true ∧ (w.peers i).pc = .idle
  · rw [if_pos hc]
    by_cases hj : j = i
    · subst hj; simp [hc, ownEntries]
    · simp [hj, ownEntries, Ne.symm hj]
  · simp [hc]

/-- Each peer's belief against its own host, the events published so far, and each
peer's last event. -/
structure BeliefInv (hosts : Nat → String) (key : String) (w : World) : Prop where
  /-- Every peer is flagged leader exactly when it names its own host. -/
  belief : ∀ i, Belief (hosts i) (w.peers i).le
  /-- Every event announces leadership exactly when it names its publisher's host. -/
  events : ∀ e ∈ w.events, EventAgrees (hosts e.1) e.2
  /-- Each peer's last event is the one its state would publish. -/
  last : ∀ i, lastPublished key i w = (w.peers i).le.publishLeaderChangeEvent

theorem beliefInv_init (hh : ∀ i, hosts i ≠ "") (db : Table) : BeliefInv hosts key (init key db) where
  belief i := by simp [init, freshMachine, Belief, Ne.symm (hh i)]
  events := by simp [init]
  last _ := rfl

theorem BeliefInv.step (hh : ∀ i, hosts i ≠ "") (h : BeliefInv hosts key w) (a : Action) :
    BeliefInv hosts key (w.step hosts a) := by
  cases a with
  | release i =>
    refine ⟨step_release_peers_of (P := fun j p => Belief (hosts j) p.le) (fun _ => id) h.belief,
      by rw [step_release_events]; exact h.events, fun j => ?_⟩
    rw [lastPublished, step_release_events]
    exact step_release_peers_of (P := fun j p => lastPublished key j w = p.le.publishLeaderChangeEvent)
        (fun _ => id) h.last j
  | cancel i => exact ⟨h.belief, h.events, h.last⟩
  | done i =>
    refine ⟨step_done_peers_of (P := fun j p => Belief (hosts j) p.le)
        (fun _ _ _ => by simp [Belief, Ne.symm (hh i)]) h.belief, ?_, fun j => ?_⟩
    · rw [step_done_events]; split_ifs
      · simp only [List.mem_append, List.mem_singleton]
        rintro e (he | rfl)
        · exact h.events e he
        · simp [EventAgrees, Ne.symm (hh i)]
      · exact h.events
    · rw [step_done_peers, lastPublished_done]
      split_ifs
      · rfl
      · exact h.last j
  | tick i now fault =>
    have ht := peerStep_transition now fault w.db (hh i) (h.belief i)
    refine ⟨step_tick_peers_of (P := fun j p => Belief (hosts j) p.le) ht.belief h.belief, ?_, fun j => ?_⟩
    · simp only [World.step, List.mem_append, List.mem_map]
      rintro e (he | ⟨e, he, rfl⟩)
      · exact h.events e he
      · exact ht.events e he
    · rw [step_tick_peers, lastPublished_tick]; by_cases hj : j = i
      · rw [if_pos hj, if_pos hj]; subst hj; rw [h.last j]; exact ht.last
      · rw [if_neg hj, if_neg hj]; exact h.last j

end BeliefRun

/-- `A` leads from 12 s; at 14 s its heartbeat CAS and lease read fail, leaving `A` at
version 2 over a row at 1, so its error-free heartbeat at 16 s does not apply. -/
theorem heartbeat_error_blocks_next_heartbeat :
    (let w := (World.created "k" 0).run (fun i => if i = 0 then "A" else "B")
      (List.replicate 4 (.tick 0 12000000000 none) ++
        [.tick 0 14000000000 none, .tick 0 14000000000 (some .failure),
          .tick 0 14000000000 (some .failure), .tick 0 16000000000 none,
          .tick 0 16000000000 none])
    w.calls =
      [(0, .checkLeaderDead "" true none), (0, .getVersion 0 none), (0, .elect 0 1 true none),
        (0, .heartbeat 1 2 false (some .failure)),
        (0, .checkLeaderDead "" true (some .failure)), (0, .heartbeat 2 3 false none)] ∧
    w.db "k" = some ⟨"A", 1, 0, 0⟩) := by
  decide

/-- `A` leads from 12 s; at 14 s its heartbeat fails, the lease reads expired and `A` wins
again, publishing a second event though `(leaderFlag, leader)` stays `(1, A)`. -/
theorem reelection_republishes_unchanged_leader :
    (let hosts : Nat → String := fun i => if i = 0 then "A" else "B"
    let w := (World.created "k" 0).run hosts (List.replicate 4 (.tick 0 12000000000 none))
    let w' := w.run hosts
      [.tick 0 14000000000 none, .tick 0 14000000000 (some .failure), .tick 0 14000000000 none,
        .tick 0 14000000000 none, .tick 0 14000000000 none]
    w.peers 0 = ⟨⟨"k", true, 1, false, 0, "A"⟩, .idle⟩ ∧
      w.events = [(0, ⟨"k", true, "A"⟩)] ∧
      w'.peers 0 = ⟨⟨"k", true, 2, false, 0, "A"⟩, .idle⟩ ∧
      w'.events = [(0, ⟨"k", true, "A"⟩), (0, ⟨"k", true, "A"⟩)]) := by
  decide

end PolarisStore.Postgresql
