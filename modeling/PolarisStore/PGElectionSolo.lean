import PolarisStore.PGElectionLeadership

/-! One running machine per key. `StartLeaderElection` starts `mainLoop` only after its
`CreateLeaderElection` inserted the row, so of all the peers that try, one ticks, and
what its state says about the row rests on its own calls alone. -/
namespace PolarisStore.Postgresql

open World LeaderElectionStateMachine

section Calls

variable {fault : Option StoreError} {db : Table} {key : String}

theorem getVersion_ok (h : (getVersion fault db key).2 = none) :
    ∃ r, db key = some r ∧ (getVersion fault db key).1 = r.version := by
  cases fault <;> cases hr : db key <;> simp_all [getVersion]

theorem checkMtimeExpired_ok {lt now : Int} (h : (checkMtimeExpired fault db key lt now).2.2 = none) :
    ∃ r, db key = some r ∧ (checkMtimeExpired fault db key lt now).1 = r.leader := by
  cases fault <;> cases hr : db key <;> simp_all [checkMtimeExpired]

end Calls

section Follow

variable {host l : String} {le : LeaderElectionStateMachine}

/-- The unexpired-lease branch sets `leaderFlag` and `leader` only. -/
theorem followLeader_fst_eq :
    ∃ f l', (followLeader host l le).1 = { le with leaderFlag := f, leader := l' } := by
  unfold followLeader; dsimp only
  split_ifs <;> exact ⟨_, _, rfl⟩

/-- It leaves a peer flagged leader only for a lease held by the peer itself, or when
the peer was leader already. -/
theorem followLeader_leaderFlag (h : (followLeader host l le).1.leaderFlag = true) :
    l = host ∨ le.leaderFlag = true := by
  unfold followLeader at h; dsimp only at h
  split_ifs at h <;> simp_all

end Follow

/-- What the running peer's state says about the row of `key`. -/
structure SoloPeer (host key : String) (p : Peer) (db : Table) : Prop where
  electKey : p.le.electKey = key
  /-- The CAS that `elect` is about to issue expects the stored version. -/
  electCas : ∀ cur, p.pc = .electCas cur → ∃ r, db key = some r ∧ r.version = cur
  /-- Only a peer flagged leader heartbeats. -/
  heartbeat : p.pc = .heartbeat → p.le.leaderFlag = true
  /-- A peer flagged leader is the row's leader. -/
  leader : p.le.leaderFlag = true → ∃ r, db key = some r ∧ r.leader = host
  /-- A cooldown runs between ticks, as a follower. -/
  cooldown : 0 < p.le.releaseTickLimit → p.le.leaderFlag = false ∧ (p.pc = .idle ∨ p.pc = .stopped)

namespace SoloPeer

variable {host key : String} {p : Peer} {db : Table}

theorem update_electKey (hk : p.le.electKey = key) (x : Option LeaderElectionRow) :
    Function.update db p.le.electKey x key = x :=
  hk ▸ Function.update_same _ _ _

theorem limit_eq_zero (h : SoloPeer host key p db) (hi : p.pc ≠ .idle) (hs : p.pc ≠ .stopped) :
    p.le.releaseTickLimit = 0 :=
  Nat.eq_zero_of_not_pos fun hl => (h.cooldown hl).2.elim hi hs

theorem setReleaseSignal (h : SoloPeer host key p db) :
    SoloPeer host key ⟨p.le.setReleaseSignal, p.pc⟩ db :=
  ⟨h.electKey, h.electCas, h.heartbeat, h.leader, h.cooldown⟩

/-- `mainLoop`'s return: a follower of `""` that never ticks again. -/
theorem done (h : SoloPeer host key p db) :
    SoloPeer host key ⟨(p.le.changeToFollower "").1, .stopped⟩ db :=
  ⟨h.electKey, nofun, nofun, nofun, fun _ => ⟨rfl, .inr rfl⟩⟩

/-- The start of `tick` keeps the state's claims: it only spends the cooldown, steps
down on a release signal, or moves on to a store call. -/
theorem tickBegin {le : LeaderElectionStateMachine} (h : SoloPeer host key ⟨le, .idle⟩ db) :
    SoloPeer host key (tickBegin le).1 db := by
  unfold PolarisStore.Postgresql.tickBegin
  by_cases hc : le.checkReleaseTickLimit.2
  · have hl : 0 < le.releaseTickLimit := by
      by_contra h0; simp [checkReleaseTickLimit, h0] at hc
    have hf : le.leaderFlag = false := (h.cooldown hl).1
    rw [if_pos hc]
    simp only [checkReleaseTickLimit, if_pos hl]
    exact ⟨h.electKey, nofun, nofun, fun h' => by simp [hf] at h', fun _ => ⟨hf, .inl rfl⟩⟩
  · have hl : le.releaseTickLimit = 0 := by
      by_contra h0; simp [checkReleaseTickLimit, Nat.pos_of_ne_zero h0] at hc
    rw [if_neg hc]; dsimp only
    by_cases hf : le.checkAndClearReleaseSignal.1.isLeader
    · rw [if_pos hf]
      by_cases hs : le.checkAndClearReleaseSignal.2
      · rw [if_pos hs]
        exact ⟨h.electKey, nofun, nofun, nofun, fun _ => ⟨rfl, .inl rfl⟩⟩
      · rw [if_neg hs]
        exact ⟨h.electKey, nofun, fun _ => hf, h.leader, fun h' => by simp [hl] at h'⟩
    · rw [if_neg hf]
      exact ⟨h.electKey, nofun, nofun, fun h' => absurd h' hf, fun h' => by simp [hl] at h'⟩

/-- Every step of the running peer keeps the state's claims about the row. -/
theorem peerStep (h : SoloPeer host key p db) (now : Int) (fault : Option StoreError) :
    SoloPeer host key (peerStep host now fault db p).peer (peerStep host now fault db p).db := by
  have hl : p.pc ≠ .idle → p.pc ≠ .stopped → p.le.releaseTickLimit = 0 := h.limit_eq_zero
  obtain ⟨hk, hcas, hhb, hlead, hcool⟩ := h
  cases hpc : p.pc with
  | idle =>
    simp only [PolarisStore.Postgresql.peerStep, hpc]
    exact SoloPeer.tickBegin ⟨hk, nofun, nofun, hlead, fun hl => ⟨(hcool hl).1, .inl rfl⟩⟩
  | stopped => simp only [PolarisStore.Postgresql.peerStep, hpc]; exact ⟨hk, hcas, hhb, hlead, hcool⟩
  | heartbeat =>
    have hl := hl (by simp [hpc]) (by simp [hpc])
    simp only [PolarisStore.Postgresql.peerStep, hpc, tickHeartbeat]
    rcases @compareAndSwapVersion_succ_eq fault db p.le.electKey p.le.version host with
      ⟨e, hc⟩ | ⟨row, hr, -, hc⟩ <;> rw [hc]
    · exact ⟨hk, by simp, by simp, fun _ => hlead (hhb hpc), by simp [hl]⟩
    · exact ⟨hk, by simp, by simp, fun _ => ⟨_, update_electKey hk _, rfl⟩, by simp [hl]⟩
  | checkLeaderDead =>
    have hl := hl (by simp [hpc]) (by simp [hpc])
    simp only [PolarisStore.Postgresql.peerStep, hpc, tickCheckLeaderDead]
    split_ifs with he hx
    · exact ⟨hk, nofun, nofun, hlead, by simp [hl]⟩
    · obtain ⟨f, l', hfl⟩ := @followLeader_fst_eq host
        (checkMtimeExpired fault db p.le.electKey LeaseTime now).1 p.le
      refine ⟨by rw [hfl]; exact hk, nofun, nofun, fun hf => ?_, by simp [hfl, hl]⟩
      rcases followLeader_leaderFlag hf with hh | hf
      · obtain ⟨r, hr, hrl⟩ := checkMtimeExpired_ok (Option.not_isSome_iff_eq_none.mp he)
        exact ⟨r, hk ▸ hr, hrl ▸ hh⟩
      · exact hlead hf
    · exact ⟨hk, nofun, nofun, hlead, by simp [hl]⟩
  | elect =>
    have hl := hl (by simp [hpc]) (by simp [hpc])
    simp only [PolarisStore.Postgresql.peerStep, hpc, tickElect]
    split_ifs with he
    · exact ⟨hk, nofun, nofun, hlead, by simp [hl]⟩
    · obtain ⟨r, hr, hv⟩ := getVersion_ok (Option.not_isSome_iff_eq_none.mp he)
      refine ⟨hk, fun cur hc => ?_, nofun, hlead, by simp [hl]⟩
      cases hc; exact ⟨r, hk ▸ hr, hv.symm⟩
  | electCas cur =>
    have hl := hl (by simp [hpc]) (by simp [hpc])
    simp only [PolarisStore.Postgresql.peerStep, hpc, tickElectCas]
    rcases hc : compareAndSwapVersion fault db p.le.electKey cur p.le.version host with ⟨db', b, e⟩
    cases b
    · rw [compareAndSwapVersion_not_applied hc]
      simp only [Bool.and_false, Bool.false_eq_true, ite_false]
      exact ⟨hk, nofun, nofun, hlead, by simp [hl]⟩
    · obtain ⟨rfl, rfl, row, hr, -, rfl⟩ := compareAndSwapVersion_applied hc
      simp only [Option.isNone_none, Bool.and_self, ite_true]
      exact ⟨hk, nofun, nofun, fun _ => ⟨_, update_electKey hk _, rfl⟩, by simp [hl]⟩

/-- An error-free step that ends a tick leaves the running peer leader only after its own
applied CAS or a lease check naming it; its error-free election CAS applies. -/
theorem leader_at_tick_end (h : SoloPeer host key p db) (now : Int) :
    let s := PolarisStore.Postgresql.peerStep host now none db p
    (s.peer.pc = .idle → s.peer.le.leaderFlag = true →
      (∃ r, s.db key = some r ∧ r.leader = host ∧ (s.call.bind StoreCall.applied).isSome) ∨
      s.call = some (.checkLeaderDead host false none)) ∧
    ∀ cur new b, s.call = some (.elect cur new b none) → b = true ∧ s.peer.le.leaderFlag = true := by
  obtain ⟨hk, hcas, -, hlead, hcool⟩ := h
  cases hpc : p.pc with
  | idle =>
    simp only [PolarisStore.Postgresql.peerStep, hpc]
    refine ⟨fun hi hf => absurd hf ?_, by simp⟩
    unfold PolarisStore.Postgresql.tickBegin at hi ⊢
    by_cases hc : p.le.checkReleaseTickLimit.2
    · have hl : 0 < p.le.releaseTickLimit := by
        by_contra h0; simp [checkReleaseTickLimit, h0] at hc
      simp [checkReleaseTickLimit, hl, (hcool hl).1]
    · rw [if_neg hc] at hi ⊢; dsimp only at hi ⊢
      split_ifs at hi ⊢
      simp [setReleaseTickLimit]
  | stopped => simp [PolarisStore.Postgresql.peerStep, hpc]
  | heartbeat =>
    simp only [PolarisStore.Postgresql.peerStep, hpc, tickHeartbeat]
    rcases @compareAndSwapVersion_succ_eq none db p.le.electKey p.le.version host with
      ⟨e, hc⟩ | ⟨row, hr, -, hc⟩ <;> rw [hc]
    · simp
    · exact ⟨fun _ _ => .inl ⟨_, update_electKey hk _, rfl, by simp [StoreCall.applied]⟩, by simp⟩
  | checkLeaderDead =>
    simp only [PolarisStore.Postgresql.peerStep, hpc, tickCheckLeaderDead]
    split_ifs with he hx
    · refine ⟨fun _ hf => absurd he ?_, by simp⟩
      obtain ⟨r, hr, -⟩ := hlead hf
      rw [hk, checkMtimeExpired_of_row hr]; simp
    · refine ⟨fun _ hf => .inr ?_, by simp⟩
      obtain ⟨r, hr, hrl⟩ := checkMtimeExpired_ok (Option.not_isSome_iff_eq_none.mp he)
      have hl : (checkMtimeExpired none db p.le.electKey LeaseTime now).1 = host := by
        rcases followLeader_leaderFlag hf with hh | hf
        · exact hh
        · obtain ⟨r', hr', hl'⟩ := hlead hf
          rw [hk] at hr
          obtain rfl : r = r' := Option.some.inj (hr.symm.trans hr')
          rw [hrl, hl']
      simp only [Bool.not_eq_true', Option.not_isSome_iff_eq_none] at he hx
      rw [hl, he, hx]
    · simp
  | elect =>
    simp only [PolarisStore.Postgresql.peerStep, hpc, tickElect]
    split_ifs with he
    · refine ⟨fun _ hf => absurd he ?_, by simp⟩
      obtain ⟨r, hr, -⟩ := hlead hf
      simp [getVersion, hk, hr]
    · simp
  | electCas cur =>
    obtain ⟨row, hr, hv⟩ := hcas cur hpc
    simp only [PolarisStore.Postgresql.peerStep, hpc, tickElectCas,
      compareAndSwapVersion_of_row (hk ▸ hr), if_pos hv]
    exact ⟨fun _ _ => .inl ⟨_, update_electKey hk _, rfl, by simp [StoreCall.applied]⟩, by simp⟩

end SoloPeer

/-- Only peer 0 runs `mainLoop`, every call in the log is its own, and its state's
claims about the row hold. -/
structure SoloInv (hosts : Nat → String) (key : String) (w : World) : Prop where
  others : ∀ j, j ≠ 0 → (w.peers j).pc = .stopped
  calls : ∀ c ∈ w.calls, c.1 = 0
  peer : SoloPeer (hosts 0) key (w.peers 0) w.db

variable {hosts : Nat → String} {key : String} {w : World}

theorem soloInv_init (db : Table) : SoloInv hosts key (init key db) where
  others j hj := by simp [init, hj]
  calls := by simp [init]
  peer := ⟨rfl, by simp [init], by simp [init], by simp [init, freshMachine],
    by simp [init, freshMachine]⟩

theorem SoloInv.of_not_tick (h : SoloInv hosts key w) (a : Action)
    (ha : ∀ i now fault, a ≠ .tick i now fault) : SoloInv hosts key (w.step hosts a) := by
  obtain ⟨hdb, hc⟩ : (w.step hosts a).db = w.db ∧ (w.step hosts a).calls = w.calls :=
    step_db_calls_of_not_tick a ha
  have hp := @step_peers_of_not_tick hosts w
    (fun j p => (j ≠ 0 → p.pc = .stopped) ∧ (j = 0 → SoloPeer (hosts 0) key p w.db))
    (fun _ _ hp => ⟨hp.1, fun hj => (hp.2 hj).setReleaseSignal⟩)
    (fun _ _ _ hp => ⟨fun _ => rfl, fun hj => (hp.2 hj).done⟩)
    (fun j => ⟨h.others j, fun hj => hj ▸ h.peer⟩) a ha
  exact ⟨fun j hj => (hp j).1 hj, hc ▸ h.calls, hdb ▸ (hp 0).2 rfl⟩

theorem SoloInv.step (h : SoloInv hosts key w) (a : Action) : SoloInv hosts key (w.step hosts a) := by
  cases a
  case release i => exact h.of_not_tick _ fun _ _ _ => nofun
  case cancel i => exact h.of_not_tick _ fun _ _ _ => nofun
  case done i => exact h.of_not_tick _ fun _ _ _ => nofun
  case tick i now fault =>
    by_cases hi : i = 0
    · subst hi
      refine ⟨fun j hj => ?_, ?_, ?_⟩
      · rw [step_tick_peers, if_neg hj]; exact h.others j hj
      · simp only [World.step, List.mem_append]
        rintro c (hc | hc)
        · exact h.calls c hc
        · cases hs : (peerStep (hosts 0) now fault w.db (w.peers 0)).call <;> simp_all
      · rw [step_tick_peers, if_pos rfl]; exact h.peer.peerStep now fault
    · have hs : peerStep (hosts i) now fault w.db (w.peers i) = ⟨w.peers i, w.db, none, []⟩ := by
        simp [peerStep, h.others i hi]
      have hw : w.step hosts (.tick i now fault) = w := by
        simp only [World.step, hs, Function.update_eq_self, Option.map_none', Option.toList_none,
          List.append_nil, List.map_nil]
      rw [hw]; exact h

theorem soloInv_run (db : Table) (acts : List Action) : SoloInv hosts key ((init key db).run hosts acts) :=
  run_invariant (fun _ a hw => hw.step a) acts _ (soloInv_init db)

end PolarisStore.Postgresql
