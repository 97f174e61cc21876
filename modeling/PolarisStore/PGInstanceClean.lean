import Mathlib.Data.List.Nodup
import PolarisStore.PGSqlText
import PolarisStore.PGElectionStore

/-! `adminStore.BatchCleanDeletedInstances`: one transaction that selects up to
`batchSize` soft-deleted instances older than the timeout and deletes them, their
`instance_metadata` rows and their `health_check` rows through one `IN` list; and
`adminStore.BatchCleanDeletedClients`, which does the same for `client` in one statement. -/
namespace PolarisStore.Postgresql

structure InstanceRow where
  id : String
  flag : Nat
  mtime : Int
deriving DecidableEq, Repr

/-- The three tables the cleanup touches; a metadata or health-check row is kept as
the instance id it belongs to. -/
structure InstanceTables where
  «instance» : List InstanceRow
  instanceMetadata : List String
  healthCheck : List String
deriving DecidableEq, Repr

inductive CleanError where
  | store (e : StoreError)
  /-- A `Bind` with `got` values for a statement of `required` parameters. -/
  | bindCount (got required : Nat)
deriving DecidableEq, Repr

/-- The rows a `LIMIT n` with no `ORDER BY` returns: `min n` of the matching rows, which
and in what order the database chooses. -/
structure Limit (α : Type) where
  pick : List α → Nat → List α
  subperm : ∀ l n, (pick l n).Subperm l
  length_pick : ∀ l n, (pick l n).length = min n l.length

/-- The first rows in table order, as a sequential scan returns them. -/
def Limit.tableOrder {α : Type} : Limit α :=
  ⟨fun l n => l.take n, fun l n => (List.take_sublist n l).subperm, fun l n => List.length_take n l⟩

theorem Limit.pick_singleton {α : Type} (lim : Limit α) (a : α) {n : Nat} (hn : 0 < n) :
    lim.pick [a] n = [a] :=
  List.perm_singleton.1 ((lim.subperm [a] n).perm_of_length_le (by simp [lim.length_pick]; omega))

/-- `SELECT id FROM instance WHERE flag = 1 AND mtime <= $1 limit $2`. -/
def loadWaitDel (lim : Limit InstanceRow) (db : InstanceTables) (cutoff : Int) (batchSize : Nat) :
    List String :=
  (lim.pick (db.instance.filter fun r => r.flag = 1 ∧ r.mtime ≤ cutoff) batchSize).map (·.id)

/-- The scan loop: it appends each id and `fmt.Sprintf("$%d", idx)`, with `idx := 1`
never advanced. -/
def waitDelPlaceholders (ids : List String) : List String × List Sql :=
  let idx := 1
  ids.foldl (fun (ws, ps) id => (ws ++ [id], ps ++ [[SqlPiece.param idx]])) ([], [])

def cleanMetaStr (inSql : Sql) : Sql :=
  [.lit "DELETE FROM instance_metadata WHERE id IN ("] ++ inSql ++ [.lit ")"]

def cleanCheckStr (inSql : Sql) : Sql :=
  [.lit "DELETE FROM health_check WHERE id IN ("] ++ inSql ++ [.lit ")"]

def cleanInsStr (inSql : Sql) : Sql :=
  [.lit "DELETE FROM instance WHERE flag = 1 AND id IN ("] ++ inSql ++ [.lit ")"]

/-- `BatchCleanDeletedInstances(timeout, batchSize)` with `cutoff = now - timeout`; `fault`
fails the selecting query, and every failure is rolled back. -/
def batchCleanDeletedInstances (fault : Option StoreError) (lim : Limit InstanceRow) (db : InstanceTables)
    (cutoff : Int) (batchSize : Nat) : InstanceTables × Nat × Option CleanError :=
  match fault with
  | some e => (db, 0, some (.store e))
  | none =>
    let (waitDelIds, placeholders) := waitDelPlaceholders (loadWaitDel lim db cutoff batchSize)
    if waitDelIds.length = 0 then (db, 0, none) else
    let inSql := [SqlPiece.lit ","].intercalate placeholders
    let tx : Except (Nat × Nat) (InstanceTables × Nat) := do
      let meta ← bindArgs (cleanMetaStr inSql) waitDelIds
      let chk ← bindArgs (cleanCheckStr inSql) waitDelIds
      let ins ← bindArgs (cleanInsStr inSql) waitDelIds
      let gone (r : InstanceRow) : Bool := r.flag = 1 ∧ r.id ∈ ins
      pure (⟨db.instance.filter (!gone ·), db.instanceMetadata.filter (· ∉ meta),
        db.healthCheck.filter (· ∉ chk)⟩, db.instance.countP gone)
    match tx with
    | .ok (db', tRows) => (db', tRows, none)
    | .error (got, required) => (db, 0, some (.bindCount got required))

section Placeholders

variable {α : Type}

theorem waitDelPlaceholders_eq (ids : List String) :
    waitDelPlaceholders ids = (ids, List.replicate ids.length [SqlPiece.param 1]) := by
  suffices ∀ ws ps, ids.foldl (fun (ws, ps) id => (ws ++ [id], ps ++ [[SqlPiece.param 1]]))
      (ws, ps) = (ws ++ ids, ps ++ List.replicate ids.length [SqlPiece.param 1]) from this [] []
  induction ids with
  | nil => simp
  | cons id ids ih => intro ws ps; simp [ih, List.replicate_succ]

/-- The `IN` list names `$1` once per id. -/
theorem inSql_params (n : Nat) :
    Sql.params ([SqlPiece.lit ","].intercalate (List.replicate n [SqlPiece.param 1])) =
      List.replicate n 1 := by
  induction n with
  | zero => rfl
  | succ n ih =>
    cases n with
    | zero => rfl
    | succ n =>
      have : [SqlPiece.lit ","].intercalate (List.replicate (n + 2) [SqlPiece.param 1]) =
          [.param 1, .lit ","] ++ [SqlPiece.lit ","].intercalate
            (List.replicate (n + 1) [SqlPiece.param 1]) := rfl
      rw [this, Sql.params_append, ih]; rfl

theorem foldr_max_replicate_one (n : Nat) : (List.replicate (n + 1) 1).foldr max 0 = 1 := by
  induction n with
  | zero => rfl
  | succ n ih => rw [List.replicate_succ, List.foldr_cons, ih]; rfl

/-- A statement whose placeholders are all `$1` has one parameter: it binds a single
argument and refuses any other count. -/
theorem bindArgs_of_params_ones {q : Sql} {args : List α}
    (h : q.params = List.replicate args.length 1) (hn : args ≠ []) :
    bindArgs q args = if args.length = 1 then .ok args else .error (args.length, 1) := by
  obtain ⟨a, args, rfl⟩ := List.exists_cons_of_ne_nil hn
  have hc : q.paramCount = 1 := by
    rw [Sql.paramCount, h, List.length_cons, foldr_max_replicate_one]
  cases args with
  | nil => simp [bindArgs, hc, h]
  | cons b args => simp [bindArgs, hc]

end Placeholders

section Clean

variable (lim : Limit InstanceRow) (db : InstanceTables) (cutoff : Int) (batchSize : Nat)

theorem clean_params (pre : String) (n : Nat) :
    Sql.params ([SqlPiece.lit pre] ++ [SqlPiece.lit ","].intercalate
      (List.replicate n [SqlPiece.param 1]) ++ [SqlPiece.lit ")"]) = List.replicate n 1 := by
  simp [inSql_params]

theorem batchCleanDeletedInstances_refused (h : 2 ≤ (loadWaitDel lim db cutoff batchSize).length) :
    batchCleanDeletedInstances none lim db cutoff batchSize =
      (db, 0, some (.bindCount (loadWaitDel lim db cutoff batchSize).length 1)) := by
  have hne : loadWaitDel lim db cutoff batchSize ≠ [] := by rintro h'; simp [h'] at h
  simp only [batchCleanDeletedInstances, waitDelPlaceholders_eq, cleanMetaStr,
    bindArgs_of_params_ones (clean_params _ _) hne]
  simp [Bind.bind, Except.bind, show (loadWaitDel lim db cutoff batchSize).length ≠ 0 by omega,
    show (loadWaitDel lim db cutoff batchSize).length ≠ 1 by omega]

theorem batchCleanDeletedInstances_single {id : String} (h : loadWaitDel lim db cutoff batchSize = [id]) :
    batchCleanDeletedInstances none lim db cutoff batchSize =
      (⟨db.instance.filter fun r => !(r.flag = 1 ∧ r.id = id), db.instanceMetadata.filter (· ≠ id),
        db.healthCheck.filter (· ≠ id)⟩, db.instance.countP fun r => r.flag = 1 ∧ r.id = id, none) := by
  simp [batchCleanDeletedInstances, waitDelPlaceholders_eq, h, bindArgs, Sql.paramCount,
    cleanMetaStr, cleanCheckStr, cleanInsStr, Sql.params, List.intercalate, Bind.bind, Except.bind, Pure.pure, Except.pure]

/-- With two or more instances selected, every `Bind` is refused: nothing is deleted and the
call reports the mismatch. -/
theorem batchCleanDeletedInstances_of_two_le (h : 2 ≤ (loadWaitDel lim db cutoff batchSize).length) :
    batchCleanDeletedInstances none lim db cutoff batchSize =
      (db, 0, some (.bindCount (loadWaitDel lim db cutoff batchSize).length 1)) :=
  batchCleanDeletedInstances_refused lim db cutoff batchSize h

/-- Three soft-deleted instances, two of them past the cutoff. -/
theorem batch_clean_three_instances_two_due :
    2 ≤ (loadWaitDel .tableOrder ⟨[⟨"i1", 1, 0⟩, ⟨"i2", 0, 0⟩, ⟨"i3", 1, 50⟩, ⟨"i4", 1, 200⟩], ["i1", "i3"], []⟩
      100 10).length ∧
    batchCleanDeletedInstances none .tableOrder ⟨[⟨"i1", 1, 0⟩, ⟨"i2", 0, 0⟩, ⟨"i3", 1, 50⟩, ⟨"i4", 1, 200⟩],
        ["i1", "i3"], []⟩ 100 10 =
      (⟨[⟨"i1", 1, 0⟩, ⟨"i2", 0, 0⟩, ⟨"i3", 1, 50⟩, ⟨"i4", 1, 200⟩], ["i1", "i3"], []⟩, 0,
        some (.bindCount (loadWaitDel .tableOrder ⟨[⟨"i1", 1, 0⟩, ⟨"i2", 0, 0⟩, ⟨"i3", 1, 50⟩, ⟨"i4", 1, 200⟩],
          ["i1", "i3"], []⟩ 100 10).length 1)) :=
  ⟨by decide, batchCleanDeletedInstances_of_two_le _ _ 100 10 (by decide)⟩

/-- With one instance selected, its metadata, health-check and instance rows go. -/
theorem batchCleanDeletedInstances_of_one {id : String} (h : loadWaitDel lim db cutoff batchSize = [id]) :
    batchCleanDeletedInstances none lim db cutoff batchSize =
      (⟨db.instance.filter fun r => !(r.flag = 1 ∧ r.id = id), db.instanceMetadata.filter (· ≠ id),
        db.healthCheck.filter (· ≠ id)⟩, db.instance.countP fun r => r.flag = 1 ∧ r.id = id, none) :=
  batchCleanDeletedInstances_single lim db cutoff batchSize h

/-- A batch of one: `i1` is cleaned, the live `i2` stays. -/
theorem batch_clean_single_instance :
    loadWaitDel .tableOrder ⟨[⟨"i1", 1, 0⟩, ⟨"i2", 0, 0⟩], ["i1", "i2"], ["i1"]⟩ 100 10 = ["i1"] ∧
    batchCleanDeletedInstances none .tableOrder ⟨[⟨"i1", 1, 0⟩, ⟨"i2", 0, 0⟩], ["i1", "i2"], ["i1"]⟩ 100 10 =
      (⟨[⟨"i1", 1, 0⟩, ⟨"i2", 0, 0⟩].filter fun r => !(r.flag = 1 ∧ r.id = "i1"),
        ["i1", "i2"].filter (· ≠ "i1"), ["i1"].filter (· ≠ "i1")⟩,
        [⟨"i1", 1, 0⟩, ⟨"i2", 0, 0⟩].countP (fun r : InstanceRow => r.flag = 1 ∧ r.id = "i1"), none) :=
  ⟨by decide, batchCleanDeletedInstances_of_one _ _ 100 10 (by decide)⟩

end Clean

/-- Two soft-deleted instances, in either order: the `IN` list reads `$1,$1`, PostgreSQL
refuses the two-value `Bind`, and all rows stay. -/
theorem batch_clean_two_instances_fails (lim : Limit InstanceRow) :
    (cleanMetaStr ([SqlPiece.lit ","].intercalate (waitDelPlaceholders ["i1", "i2"]).2)).render =
      "DELETE FROM instance_metadata WHERE id IN ($1,$1)" ∧
    batchCleanDeletedInstances none lim ⟨[⟨"i1", 1, 0⟩, ⟨"i2", 1, 0⟩], ["i1", "i2"], ["i1", "i2"]⟩
      100 10 = (⟨[⟨"i1", 1, 0⟩, ⟨"i2", 1, 0⟩], ["i1", "i2"], ["i1", "i2"]⟩, 0, some (.bindCount 2 1)) := by
  have hl : (loadWaitDel lim ⟨[⟨"i1", 1, 0⟩, ⟨"i2", 1, 0⟩], ["i1", "i2"], ["i1", "i2"]⟩ 100 10).length = 2 := by
    simp [loadWaitDel, lim.length_pick]
  refine ⟨by decide, ?_⟩
  rw [batchCleanDeletedInstances_refused _ _ _ _ hl.ge, hl]

/-- A row of `client`; `flag = 1` marks it deleted. -/
structure ClientRow where
  id : String
  flag : Nat
  mtime : Int
deriving DecidableEq, Repr

/-- The clients the CTE `deleted_clients` selects from: soft-deleted, with `mtime <= cutoff`. -/
def ClientRow.due (cutoff : Int) (r : ClientRow) : Bool := r.flag = 1 ∧ r.mtime ≤ cutoff

/-- The CTE `deleted_clients`: the ids of up to `batchSize` due clients. -/
def deletedClients (lim : Limit ClientRow) (clients : List ClientRow) (cutoff : Int) (batchSize : Nat) :
    List String :=
  (lim.pick (clients.filter (·.due cutoff)) batchSize).map (·.id)

/-- `BatchCleanDeletedClients(timeout, batchSize)` with `cutoff = NOW() - timeout`: the
clients left, `uint32(rows)`, and the error; `fault` is rolled back. -/
def batchCleanDeletedClients (fault : Option StoreError) (lim : Limit ClientRow) (clients : List ClientRow)
    (cutoff : Int) (batchSize : Nat) : List ClientRow × Nat × Option StoreError :=
  match fault with
  | some e => (clients, 0, some e)
  | none =>
    let ids := deletedClients lim clients cutoff batchSize
    (clients.filter (·.id ∉ ids), clients.countP (·.id ∈ ids) % 2 ^ 32, none)

section Clients

variable {α : Type} (f : α → String)

/-- Over a table whose ids are unique, the rows whose id is among those of a sublist
are that sublist. -/
theorem filter_mem_ids_of_sublist {m l : List α} (hm : m.Sublist l) (hn : (l.map f).Nodup) :
    l.filter (fun r => f r ∈ m.map f) = m := by
  induction hm with
  | slnil => rfl
  | @cons m l a hs ih =>
    rw [List.map_cons, List.nodup_cons] at hn
    have ha : f a ∉ m.map f := fun h => hn.1 ((hs.map f).subset h)
    rw [List.filter_cons_of_neg (by simpa using ha), ih hn.2]
  | cons₂ a _ ih =>
    rw [List.map_cons, List.nodup_cons] at hn
    rw [List.filter_cons_of_pos (by simp), List.filter_congr fun x hx => ?_, ih hn.2]
    simp only [List.map_cons, List.mem_cons, decide_eq_decide, or_iff_right_iff_imp]
    exact fun h => absurd (h ▸ List.mem_map_of_mem f hx) hn.1

theorem length_filter_mem_ids_of_subperm {m l : List α} (hm : m.Subperm l) (hn : (l.map f).Nodup) :
    (l.filter fun r => f r ∈ m.map f).length = m.length := by
  obtain ⟨m', hp, hs⟩ := hm
  have hf : (l.filter fun r => f r ∈ m.map f) = m' := by
    rw [← filter_mem_ids_of_sublist f hs hn]
    exact List.filter_congr fun r _ => by simp only [(hp.map f).mem_iff]
  rw [hf, hp.length_eq]

theorem length_filter_not_mem_ids_of_subperm {m l : List α} (hm : m.Subperm l) (hn : (l.map f).Nodup) :
    (l.filter fun r => f r ∉ m.map f).length = l.length - m.length := by
  have h := List.length_eq_length_filter_add (l := l) (fun r => f r ∈ m.map f)
  rw [length_filter_mem_ids_of_subperm f hm hn] at h
  simp only [decide_not]
  omega

variable (cutoff : Int) (lim : Limit ClientRow) (clients : List ClientRow) (n : Nat)

theorem subperm_deletedClients :
    (lim.pick (clients.filter (·.due cutoff)) n).Subperm clients :=
  (lim.subperm _ n).trans (List.filter_sublist clients).subperm

/-- One error-free `BatchCleanDeletedClients` over unique ids: it deletes only clients,
as many as the CTE selects, `min n` of the due ones, and keeps every client not due. -/
theorem batchCleanDeletedClients_spec (hn : (clients.map (·.id)).Nodup) :
    (let r := batchCleanDeletedClients none lim clients cutoff n
    let due := clients.filter (·.due cutoff)
    r.1.Sublist clients ∧ r.2.1 = min n due.length % 2 ^ 32 ∧
      (r.1.filter (·.due cutoff)).length = due.length - min n due.length ∧
      r.1.filter (!·.due cutoff) = clients.filter (!·.due cutoff)) := by
  have hpick := lim.length_pick (clients.filter (·.due cutoff)) n
  have hdue : ((clients.filter (·.due cutoff)).map (·.id)).Nodup := hn.sublist ((List.filter_sublist _).map _)
  simp only [batchCleanDeletedClients]
  refine ⟨List.filter_sublist _, ?_, ?_, ?_⟩
  · rw [List.countP_eq_length_filter, ← hpick]
    exact congrArg (· % 2 ^ 32)
      (length_filter_mem_ids_of_subperm ClientRow.id (subperm_deletedClients cutoff lim clients n) hn)
  · rw [List.filter_comm, ← hpick]
    exact length_filter_not_mem_ids_of_subperm ClientRow.id (lim.subperm _ n) hdue
  · rw [List.filter_comm, List.filter_eq_self]
    intro r hr
    simp only [List.mem_filter, Bool.not_eq_true'] at hr
    refine decide_eq_true fun hm => ?_
    obtain ⟨q, hq, hid⟩ := List.mem_map.1 hm
    have hq' := (subperm_deletedClients cutoff lim clients n).subset hq
    rw [List.inj_on_of_nodup_map hn hq' hr.1 hid] at hq
    exact absurd (List.mem_filter.1 ((lim.subperm _ n).subset hq)).2 (by simp [hr.2])

/-- Batches of `a` and then `b` out of `e` take as many as one batch of `a + b`. -/
theorem min_batches (a b e : Nat) :
    min a e + min b (e - min a e) = min (a + b) e ∧ e - min a e - min b (e - min a e) = e - min (a + b) e := by
  simp only [Nat.min_def]
  split_ifs <;> omega

end Clients

/-- Over unique ids, batches of `a` and `b` and one of `a + b`, each choosing its own rows,
count alike, leave as many due clients, and keep every client not due. -/
theorem clean_clients_in_two_batches (lim1 lim2 lim : Limit ClientRow) (clients : List ClientRow)
    (cutoff : Int) (a b : Nat) (hn : (clients.map (·.id)).Nodup) (hab : a + b < 2 ^ 32) :
    (let r1 := batchCleanDeletedClients none lim1 clients cutoff a
    let r2 := batchCleanDeletedClients none lim2 r1.1 cutoff b
    let r := batchCleanDeletedClients none lim clients cutoff (a + b)
    r1.2.1 + r2.2.1 = r.2.1 ∧
      (r2.1.filter (·.due cutoff)).length = (r.1.filter (·.due cutoff)).length ∧
      r2.1.filter (!·.due cutoff) = clients.filter (!·.due cutoff) ∧
      r.1.filter (!·.due cutoff) = clients.filter (!·.due cutoff)) := by
  obtain ⟨hs1, hc1, hd1, hk1⟩ := batchCleanDeletedClients_spec cutoff lim1 clients a hn
  obtain ⟨-, hc2, hd2, hk2⟩ := batchCleanDeletedClients_spec cutoff lim2 _ b (hn.sublist (hs1.map _))
  obtain ⟨-, hc, hd, hk⟩ := batchCleanDeletedClients_spec cutoff lim clients (a + b) hn
  have hm := min_batches a b (clients.filter (·.due cutoff)).length
  have hlt {m n : Nat} (h : m ≤ a + b) : min m n % 2 ^ 32 = min m n :=
    Nat.mod_eq_of_lt ((min_le_left m n).trans_lt (h.trans_lt hab))
  refine ⟨?_, by rw [hd2, hd, hd1, hm.2], hk2.trans hk1, hk⟩
  rw [hc1, hc2, hc, hd1, hlt (Nat.le_add_right a b), hlt (Nat.le_add_left b a), hlt le_rfl, hm.1]

/-- Three soft-deleted clients, two past the cutoff, cleaned one at a time. -/
theorem clean_clients_in_two_batches_of_four :
    (let clients : List ClientRow := [⟨"c1", 1, 0⟩, ⟨"c2", 0, 0⟩, ⟨"c3", 1, 5⟩, ⟨"c4", 1, 50⟩]
    let r1 := batchCleanDeletedClients none .tableOrder clients 10 1
    let r2 := batchCleanDeletedClients none .tableOrder r1.1 10 1
    let r := batchCleanDeletedClients none .tableOrder clients 10 (1 + 1)
    r1.2.1 + r2.2.1 = r.2.1 ∧
      (r2.1.filter (·.due 10)).length = (r.1.filter (·.due 10)).length ∧
      r2.1.filter (!·.due 10) = clients.filter (!·.due 10) ∧
      r.1.filter (!·.due 10) = clients.filter (!·.due 10)) :=
  clean_clients_in_two_batches .tableOrder .tableOrder .tableOrder _ 10 1 1 (by decide) (by omega)

end PolarisStore.Postgresql
