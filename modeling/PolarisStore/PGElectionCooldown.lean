import PolarisStore.PGElectionSystem

/-! The release cooldown. A leader's tick that consumes the release signal steps down
and sets `releaseTickLimit`; each later tick of that machine then spends one unit of
the limit and returns before anything else, whatever the other peers do and whatever
`ReleaseLeaderElection` calls arrive. -/
namespace PolarisStore.Postgresql

open World LeaderElectionStateMachine

/-- Whether an action is a tick of peer `i`. -/
def Action.isTickOf (i : Nat) : Action → Bool
  | .tick j _ _ => j == i
  | _ => false

/-- A tick in cooldown spends one unit of it and returns: no store call, no event. -/
theorem peerStep_cooldown (host : String) (now : Int) (fault : Option StoreError) (db : Table)
    {p : Peer} {k : Nat} (hpc : p.pc = .idle) (hk : p.le.releaseTickLimit = k + 1) :
    peerStep host now fault db p = ⟨⟨{ p.le with releaseTickLimit := k }, .idle⟩, db, none, []⟩ := by
  simp [peerStep, hpc, tickBegin, checkReleaseTickLimit, hk]

/-- Peer `i` runs, is between ticks, not leader, with `k` ticks of cooldown to go. -/
structure Cooling (i k : Nat) (w : World) : Prop where
  live : w.cancelled i = false
  idle : (w.peers i).pc = .idle
  follower : (w.peers i).le.leaderFlag = false
  limit : (w.peers i).le.releaseTickLimit = k

section Cooldown

variable {hosts : Nat → String} {i k : Nat} {w : World}

/-- One action during the cooldown other than cancelling `i`: a tick of `i` spends a
unit, and no action writes an entry of `i` to the logs or clears its release signal. -/
theorem Cooling.step (h : Cooling i k w) (a : Action) (ha : a.isTickOf i → 0 < k)
    (hc : a ≠ .cancel i) :
    Cooling i (if a.isTickOf i then k - 1 else k) (w.step hosts a) ∧
      ownEntries i (w.step hosts a).calls = ownEntries i w.calls ∧
      ownEntries i (w.step hosts a).events = ownEntries i w.events ∧
      ((w.step hosts a).peers i).le.releaseSignal =
        ((w.peers i).le.releaseSignal || decide (a = .release i)) := by
  obtain ⟨hlive, hidle, hflag, hlim⟩ := h
  have hl : (w.step hosts a).cancelled i = false := by simp [step_cancelled, hlive, hc]
  cases a with
  | release j =>
    have hcalls : (w.step hosts (.release j)).calls = w.calls :=
      (step_db_calls_of_not_tick (.release j) fun _ _ _ => nofun).2
    by_cases hj : j = i
    · subst hj
      refine ⟨⟨hl, ?_, ?_, ?_⟩, by rw [hcalls], by rw [step_release_events], ?_⟩ <;>
        simp [step_release_peers, hidle, hlive, hflag, hlim, Action.isTickOf, setReleaseSignal]
    · refine ⟨⟨hl, ?_, ?_, ?_⟩, by rw [hcalls], by rw [step_release_events], ?_⟩ <;>
        simp [step_release_peers, Ne.symm hj, hidle, hflag, hlim, Action.isTickOf, hj]
  | cancel j => exact ⟨⟨hl, hidle, hflag, hlim⟩, rfl, rfl, by simp⟩
  | done j =>
    have hcalls : (w.step hosts (.done j)).calls = w.calls :=
      (step_db_calls_of_not_tick (.done j) fun _ _ _ => nofun).2
    have hp : (w.step hosts (.done j)).peers i = w.peers i := by
      rw [step_done_peers]; split_ifs with hj
      · rw [hj.1] at hlive; simp [hlive] at hj
      · rfl
    have he : ownEntries i (w.step hosts (.done j)).events = ownEntries i w.events := by
      rw [step_done_events]; split_ifs with hj
      · by_cases hji : j = i
        · rw [hji, hlive] at hj; simp at hj
        · simp [ownEntries, hji]
      · rfl
    exact ⟨⟨hl, by rw [hp, hidle], by rw [hp, hflag], by simp [hp, hlim, Action.isTickOf]⟩,
      by rw [hcalls], he, by simp [hp]⟩
  | tick j now fault =>
    by_cases hj : j = i
    · subst hj
      obtain ⟨k, rfl⟩ : ∃ k', k = k' + 1 := ⟨k - 1, by simp [Action.isTickOf] at ha; omega⟩
      have hs := peerStep_cooldown (hosts j) now fault w.db hidle hlim
      refine ⟨⟨hl, ?_, ?_, ?_⟩, ?_, ?_, ?_⟩ <;>
        simp [World.step, hs, hflag, Action.isTickOf]
    · refine ⟨⟨hl, ?_, ?_, ?_⟩, ?_, ?_, ?_⟩ <;>
        simp [World.step, Function.update_noteq (Ne.symm hj), hidle, hflag, hlim, Action.isTickOf, hj,
          ownEntries_map_ne hj, ownEntries_toList_ne hj]

/-- Over a run that does not cancel `i`, with at most `k` ticks of `i` in a cooldown of `k`,
`i` stays an idle follower, calls nothing, and keeps its release signals. -/
theorem Cooling.run (acts : List Action) (h : Cooling i k w) (hc : Action.cancel i ∉ acts)
    (hn : (acts.filter (Action.isTickOf i)).length ≤ k) :
    Cooling i (k - (acts.filter (Action.isTickOf i)).length) (w.run hosts acts) ∧
      ownEntries i (w.run hosts acts).calls = ownEntries i w.calls ∧
      ownEntries i (w.run hosts acts).events = ownEntries i w.events ∧
      ((w.run hosts acts).peers i).le.releaseSignal =
        ((w.peers i).le.releaseSignal || acts.contains (.release i)) := by
  induction acts generalizing w k with
  | nil => simpa using h
  | cons a acts ih =>
    have ha : a.isTickOf i → 0 < k := fun hi => by
      simp only [List.filter_cons, hi, if_true, List.length_cons] at hn; omega
    obtain ⟨hca, hcs⟩ := List.ne_and_not_mem_of_not_mem_cons hc
    obtain ⟨h1, hc1, he, hp⟩ := @Cooling.step hosts i k w h a ha (Ne.symm hca)
    obtain ⟨hn', hk⟩ : (acts.filter (Action.isTickOf i)).length ≤ (if a.isTickOf i then k - 1 else k) ∧
        (if a.isTickOf i then k - 1 else k) - (acts.filter (Action.isTickOf i)).length =
          k - ((a :: acts).filter (Action.isTickOf i)).length := by
      cases hi : a.isTickOf i <;> simp only [List.filter_cons, hi] at hn ⊢ <;> simp at hn ⊢ <;> omega
    obtain ⟨h2, hc2, he2, hs2⟩ := ih h1 hcs hn'
    refine ⟨hk ▸ h2, hc2.trans hc1, he2.trans he, ?_⟩
    rw [run_cons, hs2, hp]
    cases a <;> simp [Bool.or_assoc, eq_comm]

end Cooldown

/-- A leader's tick that consumes the release signal steps down and arms a 15-tick cooldown,
whose ticks make no store call, publish nothing and keep new signals pending. -/
theorem release_cooldown_skips_ticks (hosts : Nat → String) (w : World) (i : Nat) (now : Int)
    (fault : Option StoreError) (le : LeaderElectionStateMachine) (hp : w.peers i = ⟨le, .idle⟩)
    (hflag : le.leaderFlag = true) (hsig : le.releaseSignal = true) (hlim : le.releaseTickLimit = 0)
    (hlive : w.cancelled i = false) (acts : List Action) (hc : Action.cancel i ∉ acts)
    (hn : (acts.filter (Action.isTickOf i)).length ≤ 15) :
    (LeaseTime / TickTime * 3).toNat = 15 ∧
    (w.step hosts (.tick i now fault)).peers i =
      ⟨{ le with leaderFlag := false, leader := "", releaseSignal := false, releaseTickLimit := 15 },
        .idle⟩ ∧
    (w.step hosts (.tick i now fault)).calls = w.calls ∧
    (w.step hosts (.tick i now fault)).db = w.db ∧
    (w.step hosts (.tick i now fault)).events = w.events ++ [(i, ⟨le.electKey, false, ""⟩)] ∧
    (((w.step hosts (.tick i now fault)).run hosts acts).peers i).pc = .idle ∧
    (((w.step hosts (.tick i now fault)).run hosts acts).peers i).le.leaderFlag = false ∧
    (((w.step hosts (.tick i now fault)).run hosts acts).peers i).le.releaseTickLimit =
      15 - (acts.filter (Action.isTickOf i)).length ∧
    ownEntries i ((w.step hosts (.tick i now fault)).run hosts acts).calls = ownEntries i w.calls ∧
    ownEntries i ((w.step hosts (.tick i now fault)).run hosts acts).events =
      ownEntries i w.events ++ [(i, ⟨le.electKey, false, ""⟩)] ∧
    (((w.step hosts (.tick i now fault)).run hosts acts).peers i).le.releaseSignal =
      acts.contains (.release i) := by
  have hs : peerStep (hosts i) now fault w.db (w.peers i) =
      ⟨⟨{ le with leaderFlag := false, leader := "", releaseSignal := false, releaseTickLimit := 15 },
        .idle⟩, w.db, none, [⟨le.electKey, false, ""⟩]⟩ := by
    simp [hp, peerStep, tickBegin, checkReleaseTickLimit, hlim, hsig, hflag, setReleaseTickLimit,
      LeaseTime, TickTime]
  have hp1 : (w.step hosts (.tick i now fault)).peers i =
      ⟨{ le with leaderFlag := false, leader := "", releaseSignal := false, releaseTickLimit := 15 },
        .idle⟩ := by simp [World.step, hs]
  have hco : Cooling i 15 (w.step hosts (.tick i now fault)) :=
    ⟨hlive, by simp [hp1], by simp [hp1], by simp [hp1]⟩
  obtain ⟨⟨-, hidle, hfol, hlim'⟩, hcalls, hev, hsig'⟩ := hco.run acts hc hn
  refine ⟨by decide, hp1, by simp [World.step, hs], by simp [World.step, hs],
    by simp [World.step, hs], hidle, hfol, hlim', ?_, ?_, ?_⟩
  · rw [hcalls]; simp [World.step, hs]
  · rw [hev]; simp [World.step, hs, ownEntries]
  · rw [hsig', hp1]; simp

/-- `A` leads with a release signal pending; its tick at 14 s steps down, then it ticks
once more and is asked to release again. -/
theorem release_cooldown_from_pending_signal :
    (let hosts : Nat → String := fun _ => "A"
    let le : LeaderElectionStateMachine := ⟨"k", true, 1, true, 0, "A"⟩
    let w : World := ⟨fun _ => none, fun _ => ⟨le, .idle⟩, fun _ => false, [], []⟩
    let acts : List Action := [.tick 0 16000000000 none, .release 0]
    (w.peers 0 = ⟨le, .idle⟩ ∧ le.leaderFlag = true ∧ le.releaseSignal = true ∧
      le.releaseTickLimit = 0 ∧ w.cancelled 0 = false ∧ Action.cancel 0 ∉ acts ∧
      (acts.filter (Action.isTickOf 0)).length ≤ 15) ∧
    (LeaseTime / TickTime * 3).toNat = 15 ∧
    (w.step hosts (.tick 0 14000000000 none)).peers 0 =
      ⟨{ le with leaderFlag := false, leader := "", releaseSignal := false, releaseTickLimit := 15 },
        .idle⟩ ∧
    (w.step hosts (.tick 0 14000000000 none)).calls = w.calls ∧
    (w.step hosts (.tick 0 14000000000 none)).db = w.db ∧
    (w.step hosts (.tick 0 14000000000 none)).events = w.events ++ [(0, ⟨le.electKey, false, ""⟩)] ∧
    (((w.step hosts (.tick 0 14000000000 none)).run hosts acts).peers 0).pc = .idle ∧
    (((w.step hosts (.tick 0 14000000000 none)).run hosts acts).peers 0).le.leaderFlag = false ∧
    (((w.step hosts (.tick 0 14000000000 none)).run hosts acts).peers 0).le.releaseTickLimit =
      15 - (acts.filter (Action.isTickOf 0)).length ∧
    ownEntries 0 ((w.step hosts (.tick 0 14000000000 none)).run hosts acts).calls =
      ownEntries 0 w.calls ∧
    ownEntries 0 ((w.step hosts (.tick 0 14000000000 none)).run hosts acts).events =
      ownEntries 0 w.events ++ [(0, ⟨le.electKey, false, ""⟩)] ∧
    (((w.step hosts (.tick 0 14000000000 none)).run hosts acts).peers 0).le.releaseSignal =
      acts.contains (.release 0)) :=
  ⟨⟨rfl, rfl, rfl, rfl, rfl, by decide, by decide⟩, release_cooldown_skips_ticks (fun _ => "A")
    ⟨fun _ => none, fun _ => ⟨⟨"k", true, 1, true, 0, "A"⟩, .idle⟩, fun _ => false, [], []⟩ 0
    14000000000 none ⟨"k", true, 1, true, 0, "A"⟩ rfl rfl rfl rfl rfl [.tick 0 16000000000 none, .release 0]
    (by decide) (by decide)⟩

end PolarisStore.Postgresql
