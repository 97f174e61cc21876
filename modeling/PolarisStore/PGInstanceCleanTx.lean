import PolarisStore.PGInstanceClean

/-! `BatchCleanDeletedInstances` statement by statement, as PostgreSQL runs it under
READ COMMITTED: each statement is atomic and reads what was committed before it began,
so other transactions may commit between two statements of the cleanup. The cleanup's
deletes act on the tables at once and are kept for the deferred `Rollback`; another
transaction is any committed change of the tables. -/
namespace PolarisStore.Postgresql

/-- The statement the cleanup runs next; `done` once the closure has returned. -/
inductive CleanPc where
  | loadWaitDel
  | cleanMeta
  | cleanCheck
  | cleanIns
  | commit
  | done
deriving DecidableEq, Repr

/-- The locals of the transaction's closure that later statements read, and the rows
its deletes removed, which `Rollback` restores until `Commit`. -/
structure CleanTx where
  pc : CleanPc
  waitDelIds : List String
  inSql : Sql
  metaDeleted : List String
  checkDeleted : List String
  insDeleted : List InstanceRow
  tRows : Nat
  err : Option CleanError
deriving DecidableEq, Repr

def CleanTx.start : CleanTx := ⟨.loadWaitDel, [], [], [], [], [], 0, none⟩

/-- The deferred `Rollback` after a failed statement: the deleted rows come back. -/
def CleanTx.rollback (tx : CleanTx) (db : InstanceTables) : InstanceTables :=
  ⟨db.instance ++ tx.insDeleted, db.instanceMetadata ++ tx.metaDeleted, db.healthCheck ++ tx.checkDeleted⟩

/-- The committed tables and the cleanup transaction. -/
structure CleanWorld where
  db : InstanceTables
  tx : CleanTx
deriving DecidableEq, Repr

inductive CleanAction where
  /-- The cleanup runs its next statement; `fault` is an error of the selecting query. -/
  | clean (fault : Option StoreError)
  /-- Another transaction commits its change of the tables. -/
  | commit (c : InstanceTables → InstanceTables)

/-- One statement of the cleanup, on the tables as committed when it starts. -/
def cleanStep (lim : Limit InstanceRow) (cutoff : Int) (batchSize : Nat) (fault : Option StoreError)
    (db : InstanceTables) (tx : CleanTx) : InstanceTables × CleanTx :=
  match tx.pc with
  | .loadWaitDel =>
    match fault with
    | some e => (db, { tx with pc := .done, err := some (.store e) })
    | none =>
      let (waitDelIds, placeholders) := waitDelPlaceholders (loadWaitDel lim db cutoff batchSize)
      if waitDelIds.length = 0 then (db, { tx with pc := .done })
      else
        let inSql := [SqlPiece.lit ","].intercalate placeholders
        (db, { tx with pc := .cleanMeta, waitDelIds := waitDelIds, inSql := inSql })
  | .cleanMeta =>
    match bindArgs (cleanMetaStr tx.inSql) tx.waitDelIds with
    | .error (got, required) =>
      (tx.rollback db, { tx with pc := .done, err := some (.bindCount got required) })
    | .ok meta =>
      ({ db with instanceMetadata := db.instanceMetadata.filter (· ∉ meta) },
        { tx with pc := .cleanCheck, metaDeleted := db.instanceMetadata.filter (· ∈ meta) })
  | .cleanCheck =>
    match bindArgs (cleanCheckStr tx.inSql) tx.waitDelIds with
    | .error (got, required) =>
      (tx.rollback db, { tx with pc := .done, err := some (.bindCount got required) })
    | .ok chk =>
      ({ db with healthCheck := db.healthCheck.filter (· ∉ chk) },
        { tx with pc := .cleanIns, checkDeleted := db.healthCheck.filter (· ∈ chk) })
  | .cleanIns =>
    match bindArgs (cleanInsStr tx.inSql) tx.waitDelIds with
    | .error (got, required) =>
      (tx.rollback db, { tx with pc := .done, err := some (.bindCount got required) })
    | .ok ins =>
      let gone (r : InstanceRow) : Bool := r.flag = 1 ∧ r.id ∈ ins
      ({ db with «instance» := db.instance.filter (!gone ·) },
        { tx with pc := .commit, insDeleted := db.instance.filter gone, tRows := db.instance.countP gone })
  | .commit => (db, { tx with pc := .done })
  | .done => (db, tx)

namespace CleanWorld

variable (lim : Limit InstanceRow) (cutoff : Int) (batchSize : Nat)

def step (w : CleanWorld) : CleanAction → CleanWorld
  | .clean fault =>
    ⟨(cleanStep lim cutoff batchSize fault w.db w.tx).1, (cleanStep lim cutoff batchSize fault w.db w.tx).2⟩
  | .commit c => { w with db := c w.db }

def run (w : CleanWorld) (acts : List CleanAction) : CleanWorld :=
  acts.foldl (step lim cutoff batchSize) w

@[simp] theorem run_nil (w : CleanWorld) : w.run lim cutoff batchSize [] = w := rfl

@[simp] theorem run_cons (w : CleanWorld) (a : CleanAction) (acts : List CleanAction) :
    w.run lim cutoff batchSize (a :: acts) =
      (w.step lim cutoff batchSize a).run lim cutoff batchSize acts := rfl

end CleanWorld

/-- Every id whose metadata or health-check rows the cleanup deleted is the id of an
instance row it deleted. -/
def CleanTx.pairsDeleted (tx : CleanTx) : Prop :=
  ∀ x ∈ tx.metaDeleted ++ tx.checkDeleted, x ∈ tx.insDeleted.map (·.id)

instance (tx : CleanTx) : Decidable tx.pairsDeleted := by unfold CleanTx.pairsDeleted; infer_instance

section Sequential

variable (lim : Limit InstanceRow) (db : InstanceTables) (cutoff : Int) (batchSize : Nat)

/-- Run with no other transaction in between, the five statements give what the
sequential model of `BatchCleanDeletedInstances` gives. -/
theorem clean_sequential_eq_batchClean (fault : Option StoreError) :
    (let w := (⟨db, .start⟩ : CleanWorld).run lim cutoff batchSize
      [.clean fault, .clean none, .clean none, .clean none, .clean none]
    w.tx.pc = .done ∧ (w.db, w.tx.tRows, w.tx.err) = batchCleanDeletedInstances fault lim db cutoff batchSize) := by
  cases fault with
  | some e => simp [CleanWorld.step, cleanStep, CleanTx.start, batchCleanDeletedInstances]
  | none =>
    rcases h : loadWaitDel lim db cutoff batchSize with _ | ⟨x, _ | ⟨y, rest⟩⟩
    · simp [CleanWorld.step, cleanStep, CleanTx.start, batchCleanDeletedInstances, h,
        waitDelPlaceholders_eq]
    · rw [batchCleanDeletedInstances_single lim db cutoff batchSize h]
      simp [CleanWorld.step, cleanStep, CleanTx.start, h, waitDelPlaceholders_eq, bindArgs,
        Sql.paramCount, cleanMetaStr, cleanCheckStr, cleanInsStr, Sql.params, List.intercalate]
    · rw [batchCleanDeletedInstances_refused lim db cutoff batchSize (by simp [h])]
      have hb : bindArgs (cleanMetaStr ([SqlPiece.lit ","].intercalate
          (List.replicate (rest.length + 1 + 1) [SqlPiece.param 1]))) (x :: y :: rest) =
            .error (rest.length + 1 + 1, 1) :=
        (bindArgs_of_params_ones (clean_params _ _) (List.cons_ne_nil x (y :: rest))).trans
          (if_neg (by simp))
      simp [CleanWorld.step, cleanStep, CleanTx.start, h, waitDelPlaceholders_eq, hb, CleanTx.rollback]

end Sequential

section Interleaved

variable {α : Type} (lim : Limit InstanceRow) (cutoff : Int) (batchSize : Nat)

/-- A statement whose placeholders are all `$1` binds, when it binds at all, exactly its
arguments. -/
theorem bindArgs_ones_ok {q : Sql} {args vals : List α} (h : q.params = List.replicate args.length 1)
    (hok : bindArgs q args = .ok vals) : vals = args := by
  cases args with
  | nil =>
    simp only [bindArgs, Sql.paramCount, h, List.length_nil, List.replicate_zero, List.foldr_nil,
      if_true, List.filterMap_nil, Except.ok.injEq] at hok
    exact hok.symm
  | cons a args =>
    rw [bindArgs_of_params_ones h (List.cons_ne_nil a args)] at hok
    split at hok
    · exact (Except.ok.inj hok).symm
    · cases hok

theorem loadWaitDel_soft_deleted {db : InstanceTables} {x : String}
    (hx : x ∈ loadWaitDel lim db cutoff batchSize) : ∃ r ∈ db.instance, r.id = x ∧ r.flag = 1 := by
  obtain ⟨r, hr, rfl⟩ := List.mem_map.1 hx
  have hr := List.mem_filter.1 ((lim.subperm _ batchSize).subset hr)
  exact ⟨r, hr.1, rfl, (of_decide_eq_true hr.2).1⟩

/-- What holds before each statement while other commits keep soft-deleted rows: the `IN`
list and the selected rows stand, and deletes so far are of selected ids. -/
def CleanInv (w : CleanWorld) : Prop :=
  match w.tx.pc with
  | .loadWaitDel => w.tx.metaDeleted = [] ∧ w.tx.checkDeleted = []
  | .cleanMeta | .cleanCheck | .cleanIns =>
    w.tx.inSql = [SqlPiece.lit ","].intercalate (List.replicate w.tx.waitDelIds.length [SqlPiece.param 1]) ∧
    (∀ x ∈ w.tx.waitDelIds, ∃ r ∈ w.db.instance, r.id = x ∧ r.flag = 1) ∧
    ∀ x ∈ w.tx.metaDeleted ++ w.tx.checkDeleted, x ∈ w.tx.waitDelIds
  | .commit => w.tx.pairsDeleted
  | .done => w.tx.err = none → w.tx.pairsDeleted

/-- A committed change that keeps every soft-deleted instance row. -/
def KeepsSoftDeleted (c : InstanceTables → InstanceTables) : Prop :=
  ∀ d : InstanceTables, ∀ r ∈ d.instance, r.flag = 1 → r ∈ (c d).instance

theorem CleanInv.commit {w : CleanWorld} (h : CleanInv w) {c : InstanceTables → InstanceTables}
    (hc : KeepsSoftDeleted c) : CleanInv (w.step lim cutoff batchSize (.commit c)) := by
  unfold CleanInv at h ⊢
  simp only [CleanWorld.step]
  split at h
  all_goals first
    | exact h
    | exact ⟨h.1, fun x hx => let ⟨r, hr, hid, hf⟩ := h.2.1 x hx; ⟨r, hc _ r hr hf, hid, hf⟩, h.2.2⟩

theorem CleanInv.clean {w : CleanWorld} (h : CleanInv w) (fault : Option StoreError) :
    CleanInv (w.step lim cutoff batchSize (.clean fault)) := by
  obtain ⟨db, tx⟩ := w
  unfold CleanInv at h ⊢
  simp only [CleanWorld.step]
  cases hpc : tx.pc <;> simp only [hpc] at h <;> simp only [cleanStep, hpc]
  · cases fault with
    | some e => simp
    | none =>
      simp only [waitDelPlaceholders_eq]
      by_cases hl : (loadWaitDel lim db cutoff batchSize).length = 0
      · rw [if_pos hl]; simp [CleanTx.pairsDeleted, h.1, h.2]
      · rw [if_neg hl]
        exact ⟨rfl, fun x hx => loadWaitDel_soft_deleted lim cutoff batchSize hx, by simp [h.1, h.2]⟩
  · cases hb : bindArgs (cleanMetaStr tx.inSql) tx.waitDelIds with
    | error e => simp
    | ok meta =>
      have hm := bindArgs_ones_ok (by rw [h.1]; exact clean_params _ _) hb
      refine ⟨h.1, h.2.1, fun x hx => ?_⟩
      simp only [List.mem_append, List.mem_filter, decide_eq_true_eq, hm] at hx
      exact hx.elim (·.2) (h.2.2 x <| List.mem_append_right _ ·)
  · cases hb : bindArgs (cleanCheckStr tx.inSql) tx.waitDelIds with
    | error e => simp
    | ok chk =>
      have hm := bindArgs_ones_ok (by rw [h.1]; exact clean_params _ _) hb
      refine ⟨h.1, h.2.1, fun x hx => ?_⟩
      simp only [List.mem_append, List.mem_filter, decide_eq_true_eq, hm] at hx
      exact hx.elim (h.2.2 x <| List.mem_append_left _ ·) (·.2)
  · cases hb : bindArgs (cleanInsStr tx.inSql) tx.waitDelIds with
    | error e => simp
    | ok ins =>
      have hm := bindArgs_ones_ok (by rw [h.1]; exact clean_params _ _) hb
      intro x hx
      obtain ⟨r, hr, rfl, hf⟩ := h.2.1 x (h.2.2 x hx)
      exact List.mem_map_of_mem _ (List.mem_filter.2 ⟨hr, by simp [hf, hm, h.2.2 _ hx]⟩)
  · exact fun _ => h
  · exact h

/-- Over any interleaving whose committed changes keep the soft-deleted instance rows,
every state of the cleanup satisfies the invariant. -/
theorem CleanInv.run (acts : List CleanAction) {w : CleanWorld}
    (hc : ∀ c, CleanAction.commit c ∈ acts → KeepsSoftDeleted c) (h : CleanInv w) :
    CleanInv (w.run lim cutoff batchSize acts) := by
  induction acts generalizing w with
  | nil => exact h
  | cons a acts ih =>
    refine ih (fun c hm => hc c (List.mem_cons_of_mem _ hm)) ?_
    cases a with
    | clean fault => exact h.clean lim cutoff batchSize fault
    | commit c => exact h.commit lim cutoff batchSize (hc c (List.mem_cons_self _ _))

/-- If no other commit changes a soft-deleted instance row, an error-free cleanup deletes
metadata and health checks only of instances whose rows it deletes. -/
theorem clean_pairs_deleted_without_revival (db : InstanceTables) (acts : List CleanAction)
    (hc : ∀ c, CleanAction.commit c ∈ acts → KeepsSoftDeleted c) :
    (let w := (⟨db, .start⟩ : CleanWorld).run lim cutoff batchSize acts
    w.tx.pc = .done → w.tx.err = none → w.tx.pairsDeleted) := by
  intro w hpc
  have h : CleanInv w := CleanInv.run lim cutoff batchSize acts hc ⟨rfl, rfl⟩
  rwa [CleanInv, hpc] at h

/-- Another transaction adds a metadata row for `i2` between the selection and the
deletes of the cleanup of `i1`. -/
theorem clean_pairs_deleted_with_insert :
    (∀ c, CleanAction.commit c ∈ [.clean none,
        .commit fun d => { d with instanceMetadata := d.instanceMetadata ++ ["i2"] },
        .clean none, .clean none, .clean none, .clean none] → KeepsSoftDeleted c) ∧
    (let w := (⟨⟨[⟨"i1", 1, 0⟩, ⟨"i2", 0, 0⟩], ["i1"], ["i1"]⟩, .start⟩ : CleanWorld).run .tableOrder 100 10
      [.clean none, .commit fun d => { d with instanceMetadata := d.instanceMetadata ++ ["i2"] },
        .clean none, .clean none, .clean none, .clean none]
    w.tx.pc = .done → w.tx.err = none → w.tx.pairsDeleted) := by
  have hc : ∀ c, CleanAction.commit c ∈ [.clean none,
      .commit fun d => { d with instanceMetadata := d.instanceMetadata ++ ["i2"] },
      .clean none, .clean none, .clean none, .clean none] → KeepsSoftDeleted c := by
    intro c hm
    obtain rfl : c = fun d => { d with instanceMetadata := d.instanceMetadata ++ ["i2"] } := by
      simpa using hm
    exact fun _ _ hr _ => hr
  exact ⟨hc, clean_pairs_deleted_without_revival .tableOrder 100 10 _ _ hc⟩

end Interleaved

section Selected

variable (lim : Limit InstanceRow) (cutoff : Int) (batchSize : Nat)

/-- Once the cleanup has selected its rows, its statements no longer read the choice of
rows, and it never selects again. -/
theorem cleanStep_selected {tx : CleanTx} (h : tx.pc ≠ .loadWaitDel) (lim' : Limit InstanceRow)
    (fault : Option StoreError) (db : InstanceTables) :
    cleanStep lim' cutoff batchSize fault db tx = cleanStep lim cutoff batchSize fault db tx ∧
      (cleanStep lim cutoff batchSize fault db tx).2.pc ≠ .loadWaitDel := by
  unfold cleanStep
  cases hpc : tx.pc with
  | loadWaitDel => exact absurd hpc h
  | done => exact ⟨rfl, by simp [hpc]⟩
  | commit => exact ⟨rfl, by simp⟩
  | _ => exact ⟨rfl, by dsimp only; split <;> simp⟩

theorem CleanWorld.run_selected {w : CleanWorld} (h : w.tx.pc ≠ .loadWaitDel) (lim' : Limit InstanceRow)
    (acts : List CleanAction) : w.run lim' cutoff batchSize acts = w.run lim cutoff batchSize acts := by
  induction acts generalizing w with
  | nil => rfl
  | cons a acts ih =>
    have hs : w.step lim' cutoff batchSize a = w.step lim cutoff batchSize a ∧
        (w.step lim cutoff batchSize a).tx.pc ≠ .loadWaitDel := by
      cases a with
      | clean fault =>
        obtain ⟨he, hp⟩ := cleanStep_selected lim cutoff batchSize h lim' fault w.db
        exact ⟨by simp only [CleanWorld.step, he], hp⟩
      | commit c => exact ⟨rfl, h⟩
    rw [CleanWorld.run_cons, CleanWorld.run_cons, hs.1, ih hs.2]

end Selected

/-- Modelled from the spec: another transaction revives instance `id`, setting its
`flag` back to 0, and commits. -/
def reviveInstance (id : String) (db : InstanceTables) : InstanceTables :=
  { db with «instance» := db.instance.map fun r => if r.id = id then { r with flag := 0 } else r }

/-- `i1` is revived between the cleanup's selection and its deletes: the cleanup commits
with `i1` live again but its metadata and health check gone. -/
theorem revive_during_cleanup_loses_metadata (lim : Limit InstanceRow) :
    (let w := (⟨⟨[⟨"i1", 1, 0⟩], ["i1"], ["i1"]⟩, .start⟩ : CleanWorld).run lim 100 10
      [.clean none, .commit (reviveInstance "i1"), .clean none, .clean none, .clean none, .clean none]
    w.tx.pc = .done ∧ w.tx.err = none ∧ w.tx.metaDeleted = ["i1"] ∧ w.tx.checkDeleted = ["i1"] ∧
      w.tx.insDeleted = [] ∧ w.db = ⟨[⟨"i1", 0, 0⟩], [], []⟩ ∧ ¬w.tx.pairsDeleted) := by
  have hl : loadWaitDel lim ⟨[⟨"i1", 1, 0⟩], ["i1"], ["i1"]⟩ 100 10 = ["i1"] := by
    simp [loadWaitDel, lim.pick_singleton]
  have h1 : (⟨⟨[⟨"i1", 1, 0⟩], ["i1"], ["i1"]⟩, .start⟩ : CleanWorld).step lim 100 10 (.clean none) =
      ⟨⟨[⟨"i1", 1, 0⟩], ["i1"], ["i1"]⟩, ⟨.cleanMeta, ["i1"], [.param 1], [], [], [], 0, none⟩⟩ := by
    simp [CleanWorld.step, cleanStep, CleanTx.start, hl, waitDelPlaceholders_eq, List.intercalate]
  rw [CleanWorld.run_cons, h1, CleanWorld.run_selected .tableOrder 100 10 (by decide) lim]
  decide

end PolarisStore.Postgresql
