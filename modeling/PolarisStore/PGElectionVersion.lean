import Mathlib.Data.List.Nodup
import PolarisStore.PGElectionSystem

/-! Version accounting over every run: `heartbeat` and `elect` both pass
`curVersion + 1`, and nothing else writes `version`, so each applied CAS moves the
stored version to the next int64. -/
namespace PolarisStore.Postgresql

open World LeaderElectionStateMachine

/-- The applied CASes of a call log, in order: expected and written version. -/
def appliedCas (calls : List (Nat × StoreCall)) : List (BitVec 64 × BitVec 64) :=
  calls.filterMap fun c => c.2.applied

theorem appliedCas_append (calls : List (Nat × StoreCall)) (i : Nat) (c : Option StoreCall) :
    appliedCas (calls ++ (c.map (i, ·)).toList) = appliedCas calls ++ (c.bind StoreCall.applied).toList := by
  cases c with
  | none => simp [appliedCas]
  | some c => cases h : c.applied <;> simp [appliedCas, List.filterMap_append, h]

/-- The stored version after `n` applied CASes from `v0`, and the log of those CASes. -/
structure VersionInv (key : String) (v0 : BitVec 64) (w : World) : Prop where
  electKey : ∀ i, (w.peers i).le.electKey = key
  electCas : ∀ i cur, (w.peers i).pc = .electCas cur → (w.peers i).le.version = cur + 1
  row : ∃ row, w.db key = some row ∧
    row.version = v0 + BitVec.ofNat 64 (appliedCas w.calls).length
  applied : appliedCas w.calls = (List.range (appliedCas w.calls).length).map
    fun j => (v0 + BitVec.ofNat 64 j, v0 + BitVec.ofNat 64 j + 1)

variable {hosts : Nat → String} {key : String} {v0 : BitVec 64}

theorem versionInv_init {db : Table} {row : LeaderElectionRow} (h : db key = some row) :
    VersionInv key row.version (init key db) where
  electKey _ := rfl
  electCas i _ hc := by by_cases hi : i = 0 <;> simp [init, hi] at hc
  row := ⟨row, h, by simp [init, appliedCas]⟩
  applied := by simp [init, appliedCas]

theorem VersionInv.of_not_tick {w : World} (h : VersionInv key v0 w) (a : Action)
    (ha : ∀ i now fault, a ≠ .tick i now fault) : VersionInv key v0 (w.step hosts a) := by
  obtain ⟨hdb, hc⟩ : (w.step hosts a).db = w.db ∧ (w.step hosts a).calls = w.calls :=
    step_db_calls_of_not_tick a ha
  refine ⟨step_peers_of_not_tick (P := fun _ p => p.le.electKey = key) (fun _ _ => id)
      (fun _ _ _ => id) h.electKey a ha,
    step_peers_of_not_tick (P := fun _ p => ∀ cur, p.pc = .electCas cur → p.le.version = cur + 1)
      (fun _ _ => id) (fun _ _ _ _ _ hc => nomatch hc) h.electCas a ha, ?_, ?_⟩
  · rw [hdb, hc]; exact h.row
  · rw [hc]; exact h.applied

theorem VersionInv.step {w : World} (h : VersionInv key v0 w) (a : Action) :
    VersionInv key v0 (w.step hosts a) := by
  cases a
  case release i => exact h.of_not_tick _ fun _ _ _ => nofun
  case cancel i => exact h.of_not_tick _ fun _ _ _ => nofun
  case done i => exact h.of_not_tick _ fun _ _ _ => nofun
  case tick i now fault =>
    have hk := h.electKey i
    refine ⟨step_tick_peers_of (P := fun _ p => p.le.electKey = key)
        ((peerStep_electKey _ _ _ _ _).trans hk) h.electKey,
      step_tick_peers_of (P := fun _ p => ∀ cur, p.pc = .electCas cur → p.le.version = cur + 1)
        (peerStep_electCas _ _ _ _ _) h.electCas, ?_, ?_⟩
    all_goals
      obtain ⟨row', hr', hv'⟩ := h.row
      rcases peerStep_db (hosts i) now fault w.db (w.peers i) (h.electCas i) with
        ⟨hdb, hc⟩ | ⟨row, hr, hc, hdb⟩
    · exact ⟨row', by simpa [World.step, hdb], by simpa [World.step, appliedCas_append, hc]⟩
    · rw [hk, hr'] at hr; cases hr
      refine ⟨{ row' with leader := hosts i, version := row'.version + 1 }, ?_, ?_⟩
      · simp [World.step, hdb, hk]
      · simp [World.step, appliedCas_append, hc, hv', BitVec.ofNat_add, BitVec.add_assoc]
    · simpa [World.step, appliedCas_append, hc] using h.applied
    · rw [hk, hr'] at hr; cases hr
      simp only [World.step, appliedCas_append, hc, Option.toList_some, List.length_append,
        List.length_singleton, List.range_succ, List.map_append, List.map_singleton, hv']
      rw [← h.applied]

theorem versionInv_run {db : Table} {row : LeaderElectionRow} (h : db key = some row)
    (acts : List Action) : VersionInv key row.version ((init key db).run hosts acts) :=
  run_invariant (fun _ a hw => hw.step a) acts _ (versionInv_init h)

/-- Read signed, the stored version counts up by one per applied CAS while it stays
below the int64 maximum. -/
theorem toInt_add_ofNat {v : BitVec 64} {j : Nat} (h : v.toInt + j < 2 ^ 63) :
    (v + BitVec.ofNat 64 j).toInt = v.toInt + j := by
  have hv := BitVec.toInt_eq_toNat_cond v
  have hlt := v.isLt
  rw [BitVec.toInt_eq_toNat_cond, BitVec.toNat_add, BitVec.toNat_ofNat]
  split_ifs at hv ⊢ <;> omega

/-- The `j`-th applied CAS of a run expects `v0 + j`, and the stored version moves once per
applied CAS; below the int64 maximum it reads signed as `v0 + j` and never decreases. -/
theorem applied_cas_versions_consecutive (hosts : Nat → String) (key : String) (db : Table)
    (row : LeaderElectionRow) (h : db key = some row) (acts acts' : List Action) :
    (let w := (init key db).run hosts acts
    let n := (appliedCas w.calls).length
    (∃ row', w.db key = some row' ∧ row'.version = row.version + BitVec.ofNat 64 n) ∧
    appliedCas w.calls = (List.range n).map
      (fun j => (row.version + BitVec.ofNat 64 j, row.version + BitVec.ofNat 64 j + 1)) ∧
    (n ≤ 2 ^ 64 → ((appliedCas w.calls).map Prod.fst).Nodup) ∧
    (row.version.toInt + (appliedCas (w.run hosts acts').calls).length < 2 ^ 63 →
      (∀ j ≤ n, (row.version + BitVec.ofNat 64 j).toInt = row.version.toInt + j) ∧
      ∃ r r', w.db key = some r ∧ (w.run hosts acts').db key = some r' ∧
        r.version.toInt ≤ r'.version.toInt)) := by
  dsimp only
  have hi : VersionInv key row.version ((init key db).run hosts acts) := versionInv_run h acts
  have hi' : VersionInv key row.version (((init key db).run hosts acts).run hosts acts') := by
    rw [← run_append]; exact versionInv_run h _
  have hle : (appliedCas ((init key db).run hosts acts).calls).length ≤
      (appliedCas (((init key db).run hosts acts).run hosts acts').calls).length :=
    ((calls_prefix_run acts').filterMap _).length_le
  refine ⟨hi.row, hi.applied, fun hn => ?_, fun hb => ⟨fun j hj => toInt_add_ofNat (by omega), ?_⟩⟩
  · rw [hi.applied, List.map_map]
    refine List.Nodup.map_on (fun x hx y hy hxy => ?_) (List.nodup_range _)
    have hxy' := congrArg BitVec.toNat hxy
    simp only [Function.comp_apply, BitVec.toNat_add, BitVec.toNat_ofNat] at hxy'
    rw [List.mem_range] at hx hy
    omega
  · obtain ⟨r, hr, hv⟩ := hi.row
    obtain ⟨r', hr', hv'⟩ := hi'.row
    refine ⟨r, r', hr, hr', ?_⟩
    rw [hv, hv', toInt_add_ofNat (by omega), toInt_add_ofNat hb]
    omega

theorem applied_cas_versions_consecutive_created :
    (Function.update (fun _ => none) "k" (some (newLeaderElectionRow 0)) : Table) "k" =
      some (newLeaderElectionRow 0) ∧
    (let w := (World.created "k" 0).run (fun _ => "A") [.tick 0 12000000000 none]
    let n := (appliedCas w.calls).length
    (∃ row', w.db "k" = some row' ∧
      row'.version = (newLeaderElectionRow 0).version + BitVec.ofNat 64 n) ∧
    appliedCas w.calls = (List.range n).map (fun j => ((newLeaderElectionRow 0).version +
      BitVec.ofNat 64 j, (newLeaderElectionRow 0).version + BitVec.ofNat 64 j + 1)) ∧
    (n ≤ 2 ^ 64 → ((appliedCas w.calls).map Prod.fst).Nodup) ∧
    ((newLeaderElectionRow 0).version.toInt +
        (appliedCas (w.run (fun _ => "A") (List.replicate 5 (.tick 0 14000000000 none))).calls).length
        < 2 ^ 63 →
      (∀ j ≤ n, ((newLeaderElectionRow 0).version + BitVec.ofNat 64 j).toInt =
        (newLeaderElectionRow 0).version.toInt + j) ∧
      ∃ r r', w.db "k" = some r ∧
        (w.run (fun _ => "A") (List.replicate 5 (.tick 0 14000000000 none))).db "k" = some r' ∧
        r.version.toInt ≤ r'.version.toInt)) :=
  ⟨rfl, applied_cas_versions_consecutive _ "k" _ _ rfl _ _⟩

end PolarisStore.Postgresql
