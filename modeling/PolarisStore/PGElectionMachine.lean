import PolarisStore.PGElectionStore

/-! `leaderElectionStateMachine` and its `tick`, cut at the store calls: a `TickPc`
names the call the tick makes next, so that the calls of several peers interleave
at the database while the tick's own code between two calls runs at once. -/
namespace PolarisStore.Postgresql

/-- The fields `tick` reads and writes. The int32 flags `leaderFlag` and
`releaseSignal` only ever hold 0 or 1, here `false` or `true`. -/
structure LeaderElectionStateMachine where
  electKey : String
  leaderFlag : Bool
  version : BitVec 64
  releaseSignal : Bool
  releaseTickLimit : Nat
  leader : String
deriving DecidableEq, Repr

structure LeaderChangeEvent where
  key : String
  leader : Bool
  leaderHost : String
deriving DecidableEq, Repr

namespace LeaderElectionStateMachine

def isLeader (le : LeaderElectionStateMachine) : Bool := le.leaderFlag

def publishLeaderChangeEvent (le : LeaderElectionStateMachine) : LeaderChangeEvent :=
  ⟨le.electKey, le.isLeader, le.leader⟩

def changeToLeader (localHost : String) (le : LeaderElectionStateMachine) :
    LeaderElectionStateMachine × LeaderChangeEvent :=
  let le := { le with leaderFlag := true, leader := localHost }
  (le, le.publishLeaderChangeEvent)

def changeToFollower (leader : String) (le : LeaderElectionStateMachine) :
    LeaderElectionStateMachine × LeaderChangeEvent :=
  let le := { le with leaderFlag := false, leader := leader }
  (le, le.publishLeaderChangeEvent)

/-- `atomic.CompareAndSwapInt32(&le.releaseSignal, 1, 0)`. -/
def checkAndClearReleaseSignal (le : LeaderElectionStateMachine) :
    LeaderElectionStateMachine × Bool :=
  ({ le with releaseSignal := false }, le.releaseSignal)

def checkReleaseTickLimit (le : LeaderElectionStateMachine) :
    LeaderElectionStateMachine × Bool :=
  if le.releaseTickLimit > 0 then ({ le with releaseTickLimit := le.releaseTickLimit - 1 }, true)
  else (le, false)

def setReleaseTickLimit (le : LeaderElectionStateMachine) : LeaderElectionStateMachine :=
  { le with releaseTickLimit := (LeaseTime / TickTime * 3).toNat }

def setReleaseSignal (le : LeaderElectionStateMachine) : LeaderElectionStateMachine :=
  { le with releaseSignal := true }

section Lemmas

variable (le : LeaderElectionStateMachine) (h : String)

@[simp] theorem changeToLeader_fst :
    (le.changeToLeader h).1 = { le with leaderFlag := true, leader := h } := rfl

@[simp] theorem changeToLeader_snd : (le.changeToLeader h).2 = ⟨le.electKey, true, h⟩ := rfl

@[simp] theorem changeToFollower_fst :
    (le.changeToFollower h).1 = { le with leaderFlag := false, leader := h } := rfl

@[simp] theorem changeToFollower_snd : (le.changeToFollower h).2 = ⟨le.electKey, false, h⟩ := rfl

@[simp] theorem checkAndClearReleaseSignal_fst :
    le.checkAndClearReleaseSignal.1 = { le with releaseSignal := false } := rfl

@[simp] theorem checkAndClearReleaseSignal_snd :
    le.checkAndClearReleaseSignal.2 = le.releaseSignal := rfl

@[simp] theorem isLeader_eq : le.isLeader = le.leaderFlag := rfl

@[simp] theorem checkReleaseTickLimit_fst_electKey :
    le.checkReleaseTickLimit.1.electKey = le.electKey := by
  unfold checkReleaseTickLimit; split <;> rfl

end Lemmas

end LeaderElectionStateMachine

open LeaderElectionStateMachine

/-- Where a peer's tick stands: between ticks, before one of its store calls, or with no
`mainLoop` running (its `StartLeaderElection` failed, or the loop returned). -/
inductive TickPc where
  | idle
  | heartbeat
  | checkLeaderDead
  | elect
  | electCas (curVersion : BitVec 64)
  | stopped
deriving DecidableEq, Repr

/-- A store call of a tick with the answer it got. -/
inductive StoreCall where
  | heartbeat (curVersion newVersion : BitVec 64) (success : Bool) (err : Option StoreError)
  | checkLeaderDead (leader : String) (dead : Bool) (err : Option StoreError)
  | getVersion (version : BitVec 64) (err : Option StoreError)
  | elect (curVersion newVersion : BitVec 64) (success : Bool) (err : Option StoreError)
deriving DecidableEq, Repr

/-- The versions of a CAS that applied: the expected one and the one written. -/
def StoreCall.applied : StoreCall → Option (BitVec 64 × BitVec 64)
  | .heartbeat cur new true _ => some (cur, new)
  | .elect cur new true _ => some (cur, new)
  | _ => none

structure Peer where
  le : LeaderElectionStateMachine
  pc : TickPc
deriving DecidableEq, Repr

/-- One step of a peer: its new state, the table after its call, the call, and the
events it published. -/
structure PeerStep where
  peer : Peer
  db : Table
  call : Option StoreCall
  events : List LeaderChangeEvent

/-- `tick` up to its first store call. -/
def tickBegin (le : LeaderElectionStateMachine) : Peer × List LeaderChangeEvent :=
  if le.checkReleaseTickLimit.2 then (⟨le.checkReleaseTickLimit.1, .idle⟩, []) else
  let shouldRelease := le.checkAndClearReleaseSignal.2
  let le := le.checkAndClearReleaseSignal.1
  if le.isLeader then
    if shouldRelease then
      (⟨(le.changeToFollower "").1.setReleaseTickLimit, .idle⟩, [(le.changeToFollower "").2])
    else (⟨le, .heartbeat⟩, [])
  else (⟨le, .checkLeaderDead⟩, [])

/-- `heartbeat`, and the branch of `tick` on its answer. -/
def tickHeartbeat (localHost : String) (fault : Option StoreError) (db : Table)
    (le : LeaderElectionStateMachine) : PeerStep :=
  let curVersion := le.version
  let le := { le with version := curVersion + 1 }
  let cas := compareAndSwapVersion fault db le.electKey curVersion le.version localHost
  ⟨⟨le, if cas.2.2.isNone && cas.2.1 then .idle else .checkLeaderDead⟩, cas.1,
    some (.heartbeat curVersion le.version cas.2.1 cas.2.2), []⟩

/-- The branch of `tick` on an unexpired lease held by `leader`. -/
def followLeader (localHost leader : String) (le : LeaderElectionStateMachine) :
    LeaderElectionStateMachine × List LeaderChangeEvent :=
  let s : LeaderElectionStateMachine × List LeaderChangeEvent :=
    if leader = localHost then ((le.changeToLeader localHost).1, [(le.changeToLeader localHost).2])
    else (le, [])
  if s.1.leader ≠ leader then
    ((s.1.changeToFollower leader).1, s.2 ++ [(s.1.changeToFollower leader).2])
  else s

/-- `checkLeaderDead`, and the branch of `tick` on its answer. -/
def tickCheckLeaderDead (localHost : String) (now : Int) (fault : Option StoreError)
    (db : Table) (le : LeaderElectionStateMachine) : PeerStep :=
  let r := checkMtimeExpired fault db le.electKey LeaseTime now
  let call := some (.checkLeaderDead r.1 r.2.1 r.2.2)
  if r.2.2.isSome then ⟨⟨le, .idle⟩, db, call, []⟩
  else if !r.2.1 then
    ⟨⟨(followLeader localHost r.1 le).1, .idle⟩, db, call, (followLeader localHost r.1 le).2⟩
  else ⟨⟨le, .elect⟩, db, call, []⟩

/-- `elect` up to its CAS: `GetVersion`, then `le.version = curVersion + 1`. -/
def tickElect (fault : Option StoreError) (db : Table) (le : LeaderElectionStateMachine) :
    PeerStep :=
  let r := getVersion fault db le.electKey
  let call := some (.getVersion r.1 r.2)
  if r.2.isSome then ⟨⟨le, .idle⟩, db, call, []⟩
  else ⟨⟨{ le with version := r.1 + 1 }, .electCas r.1⟩, db, call, []⟩

/-- The CAS of `elect`, and the end of `tick`. -/
def tickElectCas (localHost : String) (fault : Option StoreError) (db : Table)
    (curVersion : BitVec 64) (le : LeaderElectionStateMachine) : PeerStep :=
  let cas := compareAndSwapVersion fault db le.electKey curVersion le.version localHost
  let call := some (.elect curVersion le.version cas.2.1 cas.2.2)
  if cas.2.2.isNone && cas.2.1 then
    ⟨⟨(le.changeToLeader localHost).1, .idle⟩, cas.1, call, [(le.changeToLeader localHost).2]⟩
  else ⟨⟨le, .idle⟩, cas.1, call, []⟩

/-- One step of a peer's tick, at clock `now`, against the table `db`. -/
def peerStep (localHost : String) (now : Int) (fault : Option StoreError) (db : Table)
    (p : Peer) : PeerStep :=
  match p.pc with
  | .idle => ⟨(tickBegin p.le).1, db, none, (tickBegin p.le).2⟩
  | .heartbeat => tickHeartbeat localHost fault db p.le
  | .checkLeaderDead => tickCheckLeaderDead localHost now fault db p.le
  | .elect => tickElect fault db p.le
  | .electCas curVersion => tickElectCas localHost fault db curVersion p.le
  | .stopped => ⟨p, db, none, []⟩

section Steps

variable (host : String) (now : Int) (fault : Option StoreError) (db : Table) (p : Peer)

theorem followLeader_electKey (l : String) (le : LeaderElectionStateMachine) :
    (followLeader host l le).1.electKey = le.electKey := by
  unfold followLeader; dsimp only; split_ifs <;> rfl

@[simp] theorem peerStep_electKey : (peerStep host now fault db p).peer.le.electKey = p.le.electKey := by
  cases hp : p.pc <;>
    simp only [peerStep, hp, tickBegin, tickHeartbeat, tickCheckLeaderDead, tickElect, tickElectCas,
      apply_ite PeerStep.peer, apply_ite Peer.le, apply_ite Prod.fst,
      apply_ite LeaderElectionStateMachine.electKey, followLeader_electKey, setReleaseTickLimit,
      checkReleaseTickLimit_fst_electKey, changeToFollower_fst, changeToLeader_fst,
      checkAndClearReleaseSignal_fst, ite_self]

/-- A step either leaves the table with no applied CAS, or applies one CAS on the peer's row,
from its version to the next; `electCas` needs `version = curVersion + 1`. -/
theorem peerStep_db (hp : ∀ cur, p.pc = .electCas cur → p.le.version = cur + 1) :
    let s := peerStep host now fault db p
    (s.db = db ∧ s.call.bind StoreCall.applied = none) ∨
    ∃ row, db p.le.electKey = some row ∧
      s.call.bind StoreCall.applied = some (row.version, row.version + 1) ∧
      s.db = Function.update db p.le.electKey
        (some { row with leader := host, version := row.version + 1 }) := by
  cases hpc : p.pc with
  | idle => exact .inl ⟨by simp [peerStep, hpc], by simp [peerStep, hpc]⟩
  | heartbeat =>
    rcases @compareAndSwapVersion_succ_eq fault db p.le.electKey p.le.version host with ⟨e, h⟩ | ⟨row, hr, hv, h⟩
    · left; simp only [peerStep, hpc, tickHeartbeat, h]; simp [StoreCall.applied]
    · right; refine ⟨row, hr, ?_⟩
      simp only [peerStep, hpc, tickHeartbeat, h]; simp [StoreCall.applied, hv]
  | checkLeaderDead =>
    left; simp [peerStep, hpc, tickCheckLeaderDead, apply_ite PeerStep.db, apply_ite PeerStep.call,
      StoreCall.applied]
  | elect =>
    left; simp [peerStep, hpc, tickElect, apply_ite PeerStep.db, apply_ite PeerStep.call,
      StoreCall.applied]
  | electCas cur =>
    rcases @compareAndSwapVersion_succ_eq fault db p.le.electKey cur host with ⟨e, h⟩ | ⟨row, hr, hv, h⟩
    · left; simp only [peerStep, hpc, tickElectCas, hp cur hpc, h]; simp [StoreCall.applied]
    · right; refine ⟨row, hr, ?_⟩
      simp only [peerStep, hpc, tickElectCas, hp cur hpc, h]; simp [StoreCall.applied, hv]
  | stopped => exact .inl ⟨by simp [peerStep, hpc], by simp [peerStep, hpc]⟩

/-- Only `elect` moves a peer to its CAS, and it sets `version = curVersion + 1` first. -/
theorem peerStep_electCas (cur : BitVec 64)
    (h : (peerStep host now fault db p).peer.pc = .electCas cur) :
    (peerStep host now fault db p).peer.le.version = cur + 1 := by
  cases hpc : p.pc <;>
    simp only [peerStep, hpc, tickBegin, tickHeartbeat, tickCheckLeaderDead, tickElect,
      tickElectCas, apply_ite PeerStep.peer, apply_ite Peer.pc, apply_ite Prod.fst,
      apply_ite (· = TickPc.electCas cur), reduceCtorEq, ite_self, TickPc.electCas.injEq] at h
  split_ifs at h with hc
  simp only [peerStep, hpc, tickElect, if_neg hc, h]

end Steps

end PolarisStore.Postgresql
