import PolarisStore.PGElectionMachine

/-! Several peers running the election for one key against one table. A scheduler
action advances one peer's tick by one store call, at a clock reading and with the
error the database reports; sets a peer's release signal (`ReleaseLeaderElection`);
cancels its context (`StopLeaderElections`); or lets a cancelled `mainLoop` return.
The world keeps, as ghost state, every store call and every published event in order. -/
namespace PolarisStore.Postgresql

open LeaderElectionStateMachine

structure World where
  db : Table
  peers : Nat → Peer
  cancelled : Nat → Bool
  calls : List (Nat × StoreCall)
  events : List (Nat × LeaderChangeEvent)

inductive Action where
  | tick (peer : Nat) (now : Int) (fault : Option StoreError)
  | release (peer : Nat)
  | cancel (peer : Nat)
  | done (peer : Nat)
deriving DecidableEq, Repr

/-- The machine `StartLeaderElection` builds for `key`, as `mainLoop`'s
`changeToFollower("")` leaves it. -/
def freshMachine (key : String) : LeaderElectionStateMachine := ⟨key, false, 0, false, 0, ""⟩

namespace World

/-- Every peer's `StartLeaderElection` for `key`: peer 0 created the row of `db` and runs
`mainLoop`; every other peer's create failed, so it never started the loop. -/
def init (key : String) (db : Table) : World :=
  ⟨db, fun i => ⟨freshMachine key, if i = 0 then .idle else .stopped⟩, fun _ => false, [], []⟩

/-- One scheduler action, peer `i` running as `hosts i`; a release reaches only a running
machine still in `leMap`, and `mainLoop` sees `ctx.Done()` between ticks. -/
def step (hosts : Nat → String) (w : World) : Action → World
  | .tick i now fault =>
    let s := peerStep (hosts i) now fault w.db (w.peers i)
    ⟨s.db, Function.update w.peers i s.peer, w.cancelled, w.calls ++ (s.call.map (i, ·)).toList,
      w.events ++ s.events.map (i, ·)⟩
  | .release i =>
    let p := w.peers i
    if p.pc ≠ .stopped ∧ w.cancelled i = false then
      { w with peers := Function.update w.peers i (Peer.mk p.le.setReleaseSignal p.pc) }
    else w
  | .cancel i => { w with cancelled := Function.update w.cancelled i true }
  | .done i =>
    let p := w.peers i
    if w.cancelled i = true ∧ p.pc = .idle then
      { w with peers := Function.update w.peers i ⟨(p.le.changeToFollower "").1, .stopped⟩,
               events := w.events ++ [(i, (p.le.changeToFollower "").2)] }
    else w

def run (hosts : Nat → String) (w : World) (acts : List Action) : World :=
  acts.foldl (step hosts) w

/-- The world just after the first `StartLeaderElection` for `key` created its row at `t`. -/
def created (key : String) (t : Int) : World :=
  init key (Function.update (fun _ => none) key (some (newLeaderElectionRow t)))

variable {hosts : Nat → String} {w : World}

@[simp] theorem run_nil : w.run hosts [] = w := rfl

@[simp] theorem run_cons (a : Action) (acts : List Action) :
    w.run hosts (a :: acts) = (w.step hosts a).run hosts acts := rfl

theorem run_append (acts acts' : List Action) :
    w.run hosts (acts ++ acts') = (w.run hosts acts).run hosts acts' :=
  List.foldl_append _ _ _ _

/-- An invariant kept by every action holds after every run. -/
theorem run_invariant {I : World → Prop} (h : ∀ w a, I w → I (w.step hosts a)) :
    ∀ (acts : List Action) (w : World), I w → I (w.run hosts acts)
  | [], _, hw => hw
  | a :: acts, w, hw => run_invariant h acts _ (h w a hw)

theorem step_tick_peers (i : Nat) (now : Int) (fault : Option StoreError) (j : Nat) :
    (w.step hosts (.tick i now fault)).peers j =
      if j = i then (peerStep (hosts i) now fault w.db (w.peers i)).peer else w.peers j := by
  simp only [step, Function.update_apply]

theorem step_tick_peers_of {P : Nat → Peer → Prop} {i : Nat} {now : Int} {fault : Option StoreError}
    (hi : P i (peerStep (hosts i) now fault w.db (w.peers i)).peer) (h : ∀ j, P j (w.peers j))
    (j : Nat) : P j ((w.step hosts (.tick i now fault)).peers j) := by
  rw [step_tick_peers]
  by_cases hj : j = i
  · rw [if_pos hj]; subst hj; exact hi
  · rw [if_neg hj]; exact h j

theorem step_release_peers (i j : Nat) :
    (w.step hosts (.release i)).peers j =
      if j = i ∧ (w.peers i).pc ≠ .stopped ∧ w.cancelled i = false
      then ⟨(w.peers i).le.setReleaseSignal, (w.peers i).pc⟩ else w.peers j := by
  simp only [step]
  by_cases hc : (w.peers i).pc ≠ .stopped ∧ w.cancelled i = false
  · rw [if_pos hc]; simp only [Function.update_apply, hc, ne_eq, not_false_eq_true, and_true]
  · rw [if_neg hc]; simp only [hc, and_false, ite_false]

theorem step_release_peers_of {P : Nat → Peer → Prop} {i : Nat}
    (hs : ∀ p, P i p → P i ⟨p.le.setReleaseSignal, p.pc⟩) (h : ∀ j, P j (w.peers j)) (j : Nat) :
    P j ((w.step hosts (.release i)).peers j) := by
  rw [step_release_peers]
  split_ifs with hj
  · rw [hj.1]; exact hs _ (h i)
  · exact h j

@[simp] theorem step_cancel (i : Nat) :
    w.step hosts (.cancel i) = { w with cancelled := Function.update w.cancelled i true } := rfl

theorem step_done_peers (i j : Nat) :
    (w.step hosts (.done i)).peers j =
      if j = i ∧ w.cancelled i = true ∧ (w.peers i).pc = .idle
      then ⟨((w.peers i).le.changeToFollower "").1, .stopped⟩ else w.peers j := by
  simp only [step]
  by_cases hc : w.cancelled i = true ∧ (w.peers i).pc = .idle
  · rw [if_pos hc]; simp only [Function.update_apply, hc, and_true]
  · rw [if_neg hc]; simp only [hc, and_false, ite_false]

theorem step_done_peers_of {P : Nat → Peer → Prop} {i : Nat}
    (hs : ∀ p, p.pc = .idle → P i p → P i ⟨(p.le.changeToFollower "").1, .stopped⟩)
    (h : ∀ j, P j (w.peers j)) (j : Nat) : P j ((w.step hosts (.done i)).peers j) := by
  rw [step_done_peers]
  split_ifs with hj
  · rw [hj.1]; exact hs _ hj.2.2 (h i)
  · exact h j

/-- A property of every peer that a release signal and `mainLoop`'s return keep holds
after every action other than a tick. -/
theorem step_peers_of_not_tick {P : Nat → Peer → Prop}
    (hs : ∀ i p, P i p → P i ⟨p.le.setReleaseSignal, p.pc⟩)
    (hd : ∀ i p, p.pc = .idle → P i p → P i ⟨(p.le.changeToFollower "").1, .stopped⟩)
    (h : ∀ j, P j (w.peers j)) (a : Action) (ha : ∀ i now fault, a ≠ .tick i now fault) :
    ∀ j, P j ((w.step hosts a).peers j) := by
  cases a with
  | tick i now fault => exact absurd rfl (ha i now fault)
  | release i => exact step_release_peers_of (hs i) h
  | cancel i => exact h
  | done i => exact step_done_peers_of (hd i) h

@[simp] theorem step_release_events (i : Nat) : (w.step hosts (.release i)).events = w.events := by
  simp only [step]; split_ifs <;> rfl

theorem step_done_events (i : Nat) :
    (w.step hosts (.done i)).events =
      if w.cancelled i = true ∧ (w.peers i).pc = .idle
      then w.events ++ [(i, ((w.peers i).le.changeToFollower "").2)] else w.events := by
  simp only [step]; split_ifs <;> rfl

/-- Only `StopLeaderElections` cancels a machine's context, and nothing restores it. -/
theorem step_cancelled (a : Action) (i : Nat) :
    (w.step hosts a).cancelled i = (w.cancelled i || decide (a = .cancel i)) := by
  cases a with
  | tick j now fault => simp [step]
  | release j => simp only [step]; split_ifs <;> simp
  | cancel j => by_cases h : i = j <;> simp [step, Function.update_apply, h, eq_comm]
  | done j => simp only [step]; split_ifs <;> simp

theorem step_db_calls_of_not_tick (a : Action) (ha : ∀ i now fault, a ≠ .tick i now fault) :
    (w.step hosts a).db = w.db ∧ (w.step hosts a).calls = w.calls := by
  cases a with
  | tick i now fault => exact absurd rfl (ha i now fault)
  | release i => simp only [step]; split_ifs <;> exact ⟨rfl, rfl⟩
  | cancel i => exact ⟨rfl, rfl⟩
  | done i => simp only [step]; split_ifs <;> exact ⟨rfl, rfl⟩

theorem calls_prefix_step (a : Action) : w.calls <+: (w.step hosts a).calls := by
  cases a with
  | tick i now fault => exact List.prefix_append _ _
  | cancel i => exact List.prefix_refl _
  | release i => simp only [step]; split_ifs <;> exact List.prefix_refl _
  | done i => simp only [step]; split_ifs <;> exact List.prefix_refl _

theorem calls_prefix_run (acts : List Action) : w.calls <+: (w.run hosts acts).calls :=
  run_invariant (I := fun w' => w.calls <+: w'.calls) (fun _ a h => h.trans (calls_prefix_step a))
    acts w (List.prefix_refl _)

end World

/-- The entries of a log that peer `i` wrote. -/
def ownEntries {α : Type} (i : Nat) (log : List (Nat × α)) : List (Nat × α) :=
  log.filter fun e => e.1 = i

@[simp] theorem ownEntries_append {α : Type} (i : Nat) (l l' : List (Nat × α)) :
    ownEntries i (l ++ l') = ownEntries i l ++ ownEntries i l' := by
  simp [ownEntries]

theorem ownEntries_map_ne {α : Type} {i j : Nat} (h : j ≠ i) (l : List α) :
    ownEntries i (l.map (j, ·)) = [] := by
  simp [ownEntries, List.filter_map, Function.comp_def, h]

theorem ownEntries_map_self {α : Type} (i : Nat) (l : List α) :
    ownEntries i (l.map (i, ·)) = l.map (i, ·) := by
  unfold ownEntries; exact List.filter_eq_self.2 (by simp)

theorem ownEntries_toList_ne {α : Type} {i j : Nat} (h : j ≠ i) (c : Option α) :
    ownEntries i (c.map (j, ·)).toList = [] := by
  cases c <;> simp [ownEntries, h]

end PolarisStore.Postgresql
