import Mathlib.Logic.Function.Basic
import Mathlib.Algebra.Group.Int

/-! The `leader_election` table and the `leaderElectionStore` calls of the election
state machine. Instants are nanoseconds since the Unix epoch; every call takes the
error the database reports for it, if any, and then changes nothing. -/
namespace PolarisStore.Postgresql

def TickTime : Int := 2

def LeaseTime : Int := 10

/-- `time.Time.Unix`: whole seconds since the epoch, rounded down. -/
def unix (t : Int) : Int := t / 1000000000

/-- Go's zero `time.Time`, which a failed `Scan` leaves in its destination. -/
def zeroTime : Int := -62135596800 * 1000000000

/-- Go's `int32(x)` for an `int64`: the low 32 bits, read signed. -/
def toInt32 (x : Int) : Int := (BitVec.ofInt 32 x).toInt

theorem toInt32_eq_self {x : Int} (hlo : -2 ^ 31 ≤ x) (hhi : x < 2 ^ 31) : toInt32 x = x := by
  rw [toInt32, BitVec.toInt_ofInt, Int.bmod_def]; split <;> omega

/-- Modelled from the spec, `CurrDiffTimeSecond` being absent from the sources: whole seconds
since the row's last modification, `time.Now().Unix() - mtime.Unix()`. -/
def currDiffTimeSecond (now mtime : Int) : Int := unix now - unix mtime

structure LeaderElectionRow where
  leader : String
  version : BitVec 64
  ctime : Int
  mtime : Int
deriving DecidableEq, Repr

/-- `leader_election`, keyed by `elect_key`. -/
abbrev Table := String → Option LeaderElectionRow

inductive StoreError where
  | errNoRows
  | errInFailedTransaction
  | failure
deriving DecidableEq, Repr

/-- Modelled from the spec, the schema being absent from the sources: a new row has version 0
and both timestamps at the insert time. -/
def newLeaderElectionRow (now : Int) : LeaderElectionRow := ⟨"", 0, now, now⟩

/-- `CreateLeaderElection`: a duplicate key fails the `INSERT`, and `Commit` of the aborted
transaction reports `ErrInFailedTransaction`. -/
def createLeaderElection (fault : Option StoreError) (db : Table) (key : String)
    (now : Int) : Table × Option StoreError :=
  match fault, db key with
  | some e, _ => (db, some e)
  | none, some _ => (db, some .errInFailedTransaction)
  | none, none => (Function.update db key (some (newLeaderElectionRow now)), none)

/-- `GetVersion`: `select version ... where elect_key = $1`; on an error `count` keeps 0. -/
def getVersion (fault : Option StoreError) (db : Table) (key : String) :
    BitVec 64 × Option StoreError :=
  match fault, db key with
  | some e, _ => (0, some e)
  | none, some row => (row.version, none)
  | none, none => (0, some .errNoRows)

/-- `CompareAndSwapVersion`: `update leader_election set leader = $1, version = $2
where elect_key = $3 and version = $4`, committed in its own transaction. -/
def compareAndSwapVersion (fault : Option StoreError) (db : Table) (key : String)
    (curVersion newVersion : BitVec 64) (leader : String) :
    Table × Bool × Option StoreError :=
  match fault, db key with
  | some e, _ => (db, false, some e)
  | none, some row =>
    if row.version = curVersion then
      (Function.update db key (some { row with leader := leader, version := newVersion }),
        true, none)
    else (db, false, none)
  | none, none => (db, false, none)

/-- `CheckMtimeExpired`: `select leader, mtime ... where elect_key = $1`, then
`int32(CurrDiffTimeSecond(mtime)) > leaseTime`, computed whether or not the read failed. -/
def checkMtimeExpired (fault : Option StoreError) (db : Table) (key : String)
    (leaseTime now : Int) : String × Bool × Option StoreError :=
  let (leader, mtime, err) : String × Int × Option StoreError :=
    match fault, db key with
    | some e, _ => ("", zeroTime, some e)
    | none, some row => (row.leader, row.mtime, none)
    | none, none => ("", zeroTime, some .errNoRows)
  (leader, decide (toInt32 (currDiffTimeSecond now mtime) > leaseTime), err)

/-- `checkLeaderValid`: the listing's `Valid` flag, from `mtime` in whole seconds. -/
def checkLeaderValid (now mtime : Int) : Bool := decide (unix now - mtime ≤ LeaseTime)

section Calls

variable {fault : Option StoreError} {db : Table} {key : String}

@[simp] theorem compareAndSwapVersion_fault (e : StoreError) (cur new : BitVec 64) (l : String) :
    compareAndSwapVersion (some e) db key cur new l = (db, false, some e) := rfl

theorem compareAndSwapVersion_of_row {row : LeaderElectionRow} (h : db key = some row)
    (cur new : BitVec 64) (l : String) :
    compareAndSwapVersion none db key cur new l =
      if row.version = cur then
        (Function.update db key (some { row with leader := l, version := new }), true, none)
      else (db, false, none) := by
  simp only [compareAndSwapVersion, h]

/-- What an applied CAS did: no error, the row held the expected version, and only
its `leader` and `version` were rewritten. -/
theorem compareAndSwapVersion_applied {cur new : BitVec 64} {l : String} {db' : Table}
    {err : Option StoreError}
    (h : compareAndSwapVersion fault db key cur new l = (db', true, err)) :
    fault = none ∧ err = none ∧ ∃ row, db key = some row ∧ row.version = cur ∧
      db' = Function.update db key (some { row with leader := l, version := new }) := by
  unfold compareAndSwapVersion at h
  split at h
  · cases h
  · split at h
    · cases h
      exact ⟨rfl, rfl, _, ‹_›, ‹_›, rfl⟩
    · cases h
  · cases h

theorem compareAndSwapVersion_not_applied {cur new : BitVec 64} {l : String} {db' : Table}
    {err : Option StoreError}
    (h : compareAndSwapVersion fault db key cur new l = (db', false, err)) : db' = db := by
  unfold compareAndSwapVersion at h
  split at h
  · cases h; rfl
  · split at h
    · cases h
    · cases h; rfl
  · cases h; rfl

/-- The outcomes of a CAS that writes the next version, as `heartbeat` and `elect` do. -/
theorem compareAndSwapVersion_succ_eq (cur : BitVec 64) (l : String) :
    (∃ e, compareAndSwapVersion fault db key cur (cur + 1) l = (db, false, e)) ∨
      ∃ row, db key = some row ∧ row.version = cur ∧
        compareAndSwapVersion fault db key cur (cur + 1) l =
          (Function.update db key (some { row with leader := l, version := row.version + 1 }),
            true, none) := by
  rcases h : compareAndSwapVersion fault db key cur (cur + 1) l with ⟨db', b, e⟩
  cases b
  · exact .inl ⟨e, by rw [compareAndSwapVersion_not_applied h]⟩
  · obtain ⟨-, rfl, row, hr, rfl, rfl⟩ := compareAndSwapVersion_applied h
    exact .inr ⟨row, hr, rfl, rfl⟩

end Calls

end PolarisStore.Postgresql
