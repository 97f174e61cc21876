import PolarisStore.PGElectionSystem

/-! The lease clock. `CheckMtimeExpired` reads `mtime`, and no statement the election
issues after the insert writes it: `CompareAndSwapVersion` sets `leader` and
`version` only. -/
namespace PolarisStore.Postgresql

open World

/-- The timestamps of a row. -/
def rowTimes (r : Option LeaderElectionRow) : Option (Int × Int) := r.map fun r => (r.ctime, r.mtime)

theorem compareAndSwapVersion_rowTimes (fault : Option StoreError) (db : Table) (key : String)
    (cur new : BitVec 64) (l k : String) :
    rowTimes ((compareAndSwapVersion fault db key cur new l).1 k) = rowTimes (db k) := by
  unfold compareAndSwapVersion
  split
  · rfl
  · split
    · by_cases hk : k = key
      · subst hk; simp_all [rowTimes]
      · simp [Function.update_noteq hk]
    · rfl
  · rfl

theorem peerStep_rowTimes (host : String) (now : Int) (fault : Option StoreError) (db : Table)
    (p : Peer) (k : String) :
    rowTimes ((peerStep host now fault db p).db k) = rowTimes (db k) := by
  cases hpc : p.pc with
  | idle => simp [peerStep, hpc]
  | heartbeat => simp only [peerStep, hpc, tickHeartbeat, compareAndSwapVersion_rowTimes]
  | checkLeaderDead => simp only [peerStep, hpc, tickCheckLeaderDead]; split_ifs <;> rfl
  | elect => simp only [peerStep, hpc, tickElect]; split_ifs <;> rfl
  | electCas cur =>
    simp only [peerStep, hpc, tickElectCas]; split_ifs <;> simp only [compareAndSwapVersion_rowTimes]
  | stopped => simp [peerStep, hpc]

/-- Over every run, every row keeps the timestamps it was created with. -/
theorem run_rowTimes (hosts : Nat → String) (acts : List Action) (w : World) (k : String) :
    rowTimes ((w.run hosts acts).db k) = rowTimes (w.db k) :=
  run_invariant (I := fun w' => rowTimes (w'.db k) = rowTimes (w.db k))
    (fun w' a h => by
      cases a with
      | tick i now fault => rw [← h]; exact peerStep_rowTimes _ _ _ _ _ k
      | release i => rw [(step_db_calls_of_not_tick (.release i) fun _ _ _ => nofun).1]; exact h
      | cancel i => exact h
      | done i => rw [(step_db_calls_of_not_tick (.done i) fun _ _ _ => nofun).1]; exact h) acts w rfl

theorem checkMtimeExpired_of_row {db : Table} {key : String} {row : LeaderElectionRow}
    (h : db key = some row) (now : Int) :
    checkMtimeExpired none db key LeaseTime now =
      (row.leader, decide (toInt32 (currDiffTimeSecond now row.mtime) > LeaseTime), none) := by
  simp [checkMtimeExpired, h]

/-- Every run keeps the row's `ctime` and `mtime`, so `LeaseTime` seconds after creation
every error-free `CheckMtimeExpired` reports the lease expired. -/
theorem lease_expires_whatever_heartbeats (hosts : Nat → String) (key : String) (db : Table)
    (row : LeaderElectionRow) (h : db key = some row) (acts : List Action) (now : Int)
    (hlo : LeaseTime < unix now - unix row.mtime) (hhi : unix now - unix row.mtime < 2 ^ 31) :
    ∃ row', ((init key db).run hosts acts).db key = some row' ∧
      row'.ctime = row.ctime ∧ row'.mtime = row.mtime ∧
      checkMtimeExpired none ((init key db).run hosts acts).db key LeaseTime now =
        (row'.leader, true, none) := by
  have ht := run_rowTimes hosts acts (init key db) key
  rw [show (init key db).db = db from rfl, h] at ht
  simp only [rowTimes, Option.map_some'] at ht
  obtain ⟨row', hr, hrt⟩ := Option.map_eq_some'.mp ht
  obtain ⟨hc, hm⟩ := Prod.mk.inj hrt
  refine ⟨row', hr, hc, hm, ?_⟩
  rw [checkMtimeExpired_of_row hr]
  have hd : toInt32 (currDiffTimeSecond now row'.mtime) = unix now - unix row.mtime := by
    rw [currDiffTimeSecond, hm, toInt32_eq_self (by unfold LeaseTime at hlo; omega) hhi]
  simp [hd, hlo]

/-- `A` is elected and heartbeats through 14 s on a row created at 0; the lease read
at 100 s reports it expired. -/
theorem lease_expired_at_hundred_seconds :
    (World.created "k" 0).db "k" = some (newLeaderElectionRow 0) ∧
      LeaseTime < unix 100000000000 - unix (newLeaderElectionRow 0).mtime ∧
      unix 100000000000 - unix (newLeaderElectionRow 0).mtime < 2 ^ 31 ∧
      ∃ row', ((World.created "k" 0).run (fun _ => "A")
          [.tick 0 12000000000 none, .tick 0 12000000000 none, .tick 0 12000000000 none,
            .tick 0 12000000000 none, .tick 0 14000000000 none, .tick 0 14000000000 none]).db "k" =
          some row' ∧
        row'.ctime = (newLeaderElectionRow 0).ctime ∧ row'.mtime = (newLeaderElectionRow 0).mtime ∧
        checkMtimeExpired none ((World.created "k" 0).run (fun _ => "A")
          [.tick 0 12000000000 none, .tick 0 12000000000 none, .tick 0 12000000000 none,
            .tick 0 12000000000 none, .tick 0 14000000000 none, .tick 0 14000000000 none]).db
          "k" LeaseTime 100000000000 = (row'.leader, true, none) :=
  ⟨rfl, by decide, by decide,
    lease_expires_whatever_heartbeats _ "k" _ _ rfl _ 100000000000 (by decide) (by decide)⟩

/-- A heartbeat CAS applies yet the lease reads expired at once: at 100 s on a row of 0 s,
and in a run where `A` is elected at 12 s and heartbeats at 14 s. -/
theorem heartbeat_does_not_renew_lease :
    (compareAndSwapVersion none (World.created "k" 0).db "k" 0 1 "A").2 = (true, none) ∧
    checkMtimeExpired none (compareAndSwapVersion none (World.created "k" 0).db "k" 0 1 "A").1
      "k" LeaseTime 100000000000 = ("A", true, none) ∧
    (let w := (World.created "k" 0).run (fun _ => "A")
      [.tick 0 12000000000 none, .tick 0 12000000000 none, .tick 0 12000000000 none,
        .tick 0 12000000000 none, .tick 0 14000000000 none, .tick 0 14000000000 none]
    w.calls =
      [(0, .checkLeaderDead "" true none), (0, .getVersion 0 none), (0, .elect 0 1 true none),
        (0, .heartbeat 1 2 true none)] ∧
    checkMtimeExpired none w.db "k" LeaseTime 14000000000 = ("A", true, none)) := by
  decide

section Listing

/-- `CAST(EXTRACT(EPOCH FROM mtime) AS INTEGER)` of `ListLeaderElections`: seconds rounded
half away from zero, or the query's error outside int4. -/
def epochInteger (t : Int) : Option Int :=
  let r := if 0 ≤ t then (t + 500000000) / 1000000000 else -((-t + 500000000) / 1000000000)
  if -2 ^ 31 ≤ r ∧ r < 2 ^ 31 then some r else none

/-- The `Valid` flag that `fetchLeaderElectionRows` sets on a row listed at `now`:
`checkLeaderValid` of its rounded `mtime`; `none` when the listing fails. -/
def listedValid (now mtime : Int) : Option Bool := (epochInteger mtime).map (checkLeaderValid now)

/-- After the epoch, the cast reads the whole seconds of `mtime`, one more from the
second half of a second on. -/
theorem epochInteger_of_nonneg {t : Int} (h0 : 0 ≤ t) (hr : unix t < 2 ^ 31 - 1) :
    epochInteger t = some (unix t + if t % 1000000000 < 500000000 then 0 else 1) := by
  have hround : (t + 500000000) / 1000000000 =
      unix t + if t % 1000000000 < 500000000 then 0 else 1 := by
    unfold unix; split <;> omega
  have hrange : -2 ^ 31 ≤ (t + 500000000) / 1000000000 ∧ (t + 500000000) / 1000000000 < 2 ^ 31 := by
    rw [hround]; unfold unix at hr ⊢; split <;> omega
  rw [epochInteger, if_pos h0, if_pos hrange, hround]

/-- Within int32 range, the listing's `Valid` negates `CheckMtimeExpired`'s flag exactly when
`mtime` is in the first half of its second or the whole seconds between are not 11. -/
theorem listedValid_eq_not_expired_iff {db : Table} {key : String} {row : LeaderElectionRow}
    (h : db key = some row) (now : Int) (h0 : 0 ≤ row.mtime) (hr : unix row.mtime < 2 ^ 31 - 1)
    (hlo : -2 ^ 31 ≤ unix now - unix row.mtime) (hhi : unix now - unix row.mtime < 2 ^ 31) :
    listedValid now row.mtime = some (!(checkMtimeExpired none db key LeaseTime now).2.1) ↔
      row.mtime % 1000000000 < 500000000 ∨ unix now - unix row.mtime ≠ 11 := by
  rw [listedValid, epochInteger_of_nonneg h0 hr, checkMtimeExpired_of_row h, currDiffTimeSecond,
    toInt32_eq_self hlo hhi]
  simp only [Option.map_some', Option.some.injEq, checkLeaderValid, LeaseTime, ← decide_not,
    decide_eq_decide]
  unfold unix at *
  split <;> omega

/-- A row modified 0.6 s after the epoch, listed and checked at 11.7 s. -/
theorem listedValid_eq_not_expired_iff_at_six_tenths :
    (Function.update (fun _ => none) "k" (some ⟨"A", 1, 0, 600000000⟩) : Table) "k" =
      some ⟨"A", 1, 0, 600000000⟩ ∧
    (0 : Int) ≤ 600000000 ∧ unix 600000000 < 2 ^ 31 - 1 ∧
    -2 ^ 31 ≤ unix 11700000000 - unix 600000000 ∧ unix 11700000000 - unix 600000000 < 2 ^ 31 ∧
    (listedValid 11700000000 600000000 = some (!(checkMtimeExpired none
        (Function.update (fun _ => none) "k" (some ⟨"A", 1, 0, 600000000⟩)) "k" LeaseTime
          11700000000).2.1) ↔
      (600000000 : Int) % 1000000000 < 500000000 ∨ unix 11700000000 - unix 600000000 ≠ 11) :=
  ⟨rfl, by decide, by decide, by decide, by decide,
    @listedValid_eq_not_expired_iff _ "k" ⟨"A", 1, 0, 600000000⟩ rfl 11700000000 (by decide)
      (by decide) (by decide) (by decide)⟩

/-- The listing rounds an `mtime` of 0.6 s to 1 s and reports valid at 11.7 s a lease the
lease check reports expired; `2^31` s later the lease is neither. -/
theorem listing_disagrees_with_lease_check :
    listedValid 11700000000 600000000 = some true ∧
      checkMtimeExpired none (Function.update (fun _ => none) "k" (some ⟨"A", 1, 0, 600000000⟩))
        "k" LeaseTime 11700000000 = ("A", true, none) ∧
    listedValid (2 ^ 31 * 1000000000) 0 = some false ∧
      checkMtimeExpired none (Function.update (fun _ => none) "k" (some ⟨"A", 1, 0, 0⟩))
        "k" LeaseTime (2 ^ 31 * 1000000000) = ("A", false, none) := by
  decide

end Listing

end PolarisStore.Postgresql
