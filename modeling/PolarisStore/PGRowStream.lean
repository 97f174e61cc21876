import PolarisStore.PGElectionStore

/-! The `for rows.Next() { ... }` loops of the store. A cursor yields rows until the
result set ends or the connection fails; `rows.Err()` tells the two apart, and only
the loops that call it can. Each loop decodes a row with its `Scan`, which may fail,
and folds the record into its result. -/
namespace PolarisStore.Postgresql

/-- A `*sql.Rows` cursor as a loop sees it: the rows `Next` yields, then the error that
stopped it, which `rows.Err()` reports; `none` when the result set ended. -/
structure Rows (α : Type) where
  rows : List α
  err : Option StoreError

variable {α β γ : Type}

/-- The shared row loop: `scan` each row, returning a failed `Scan`'s error, fold it in with
`add`, and, when `checkErr`, return `rows.Err()` after the loop. -/
def collectRows (checkErr : Bool) (scan : α → Except StoreError β) (add : γ → β → γ) (init : γ)
    (rs : Rows α) : Except StoreError γ :=
  match rs.rows.foldlM (fun acc r => add acc <$> scan r) init, checkErr, rs.err with
  | .error e, _, _ => .error e
  | .ok _, true, some e => .error e
  | .ok out, _, _ => .ok out

/-- A loop that appends each record to a slice. -/
def collectList (checkErr : Bool) (scan : α → Except StoreError β) (rs : Rows α) :
    Except StoreError (List β) :=
  collectRows checkErr scan (fun out b => out ++ [b]) [] rs

/-- `ret[namespce] = cnt`. -/
def putCount (ret : String → Option Int) : String × Int → String → Option Int
  | (namespce, cnt) => Function.update ret namespce (some cnt)

/-- `ret[namespce][group] = cnt`, creating the inner map when `namespce` is new. -/
def putGroupCount (ret : String → Option (String → Option Int)) :
    String × String × Int → String → Option (String → Option Int)
  | (namespce, group, cnt) =>
    Function.update ret namespce (some (Function.update ((ret namespce).getD fun _ => none) group
      (some cnt)))

section Loop

variable {scan : α → Except StoreError β}

/-- Appending each record as it is scanned collects `mapM scan` after the prefix. -/
theorem foldlM_append_eq_mapM (rows : List α) (init : List β) :
    rows.foldlM (fun out r => (fun b => out ++ [b]) <$> scan r) init =
      (init ++ ·) <$> rows.mapM scan := by
  induction rows generalizing init with
  | nil => exact congrArg Except.ok (List.append_nil init).symm
  | cons r rows ih =>
    rw [List.foldlM_cons, List.mapM_cons]
    cases scan r with
    | error e => rfl
    | ok b =>
      show List.foldlM _ (init ++ [b]) rows = _
      rw [ih]
      cases rows.mapM scan with
      | error e => rfl
      | ok bs => exact congrArg Except.ok (List.append_assoc init [b] bs)

/-- A checked slice loop succeeds exactly on a clean cursor whose rows all scan, and
then returns one record per row, in row order. -/
theorem collectList_true_ok (rs : Rows α) (out : List β) :
    collectList true scan rs = .ok out ↔ rs.err = none ∧ rs.rows.mapM scan = .ok out := by
  unfold collectList collectRows
  rw [foldlM_append_eq_mapM]
  cases hm : rs.rows.mapM scan <;> cases he : rs.err <;>
    simp [Functor.map, Except.map]

end Loop

section Members

variable (scan : α → Except StoreError β)

/-! Loops that call `rows.Err()`. The functions that run their own query take its
outcome, `query`. -/

def fetchRoutingConfigV2Rows := collectList true scan
def fetchRateLimitRows := collectList true scan
def fetchRateLimitCacheRows := collectList true scan
def fetchBriefRateLimitRows := collectList true scan
def fetchExpandRateLimitRows := collectList true scan
def fetchCircuitBreakerRows := collectList true scan
def fetchCircuitBreakerRelationRows := collectList true scan
def fetchCircuitBreakerAndServiceRows := collectList true scan
def fetchCircuitBreakerRuleRows := collectList true scan
def fetchBriefCircuitBreakerRules := collectList true scan
def fetchFullCircuitBreakerRules := collectList true scan
def fetchLeaderElectionRows := collectList true scan
def ConfigFileGroupStore.transferRows := collectList true scan
def ConfigFileReleaseStore.transferRows := collectList true scan
def ConfigFileStore.transferRows := collectList true scan
def ConfigFileTemplateStore.transferRows := collectList true scan

def getCircuitBreakerVersions (query : Except StoreError (Rows α)) :=
  query >>= collectList true scan

def getUnHealthyInstances (query : Except StoreError (Rows α)) :=
  query >>= collectList true scan

/-! Loops that do not. -/

/-- `collectUsers`, behind `GetUsersForCache`, `listUsers` and `listGroupUsers`. -/
def collectUsers (query : Except StoreError (Rows α)) :=
  query >>= collectList false scan

def getUserByIds (ids : List String) (query : Except StoreError (Rows α)) :
    Except StoreError (List β) :=
  if ids.length = 0 then .ok [] else query >>= collectList false scan

/-- The rows loop of `ListReleaseCircuitBreakers`, once its count query returned `total`. -/
def listReleaseCircuitBreakers (total : Nat) (query : Except StoreError (Rows α)) :
    Except StoreError (Nat × List β) :=
  query >>= fun rs => (total, ·) <$> collectList false scan rs

end Members

section Counts

variable (query : Except StoreError (Rows α))

def countGroupEachNamespace (scan : α → Except StoreError (String × Int)) :=
  query >>= collectRows false scan putCount fun _ => none

def countConfigFileEachGroup (scan : α → Except StoreError (String × String × Int)) :=
  query >>= collectRows false scan putGroupCount fun _ => none

def countConfigFileReleaseEachGroup (scan : α → Except StoreError (String × String × Int)) :=
  query >>= collectRows false scan putGroupCount fun _ => none

end Counts

/-- A cursor yields one row and then loses its connection: every loop without `rows.Err()`
returns the one row as complete, while `fetchRoutingConfigV2Rows` returns the error. -/
theorem unchecked_loops_return_truncated :
    collectUsers Except.ok (.ok ⟨["u1"], some .failure⟩) = .ok ["u1"] ∧
    getUserByIds Except.ok ["u1", "u2"] (.ok ⟨["u1"], some .failure⟩) = .ok ["u1"] ∧
    listReleaseCircuitBreakers Except.ok 2 (.ok ⟨["r1"], some .failure⟩) = .ok (2, ["r1"]) ∧
    countGroupEachNamespace (.ok ⟨[("ns1", 3)], some .failure⟩) Except.ok =
      .ok (putCount (fun _ => none) ("ns1", 3)) ∧
    countConfigFileEachGroup (.ok ⟨[("ns1", "g1", 3)], some .failure⟩) Except.ok =
      .ok (putGroupCount (fun _ => none) ("ns1", "g1", 3)) ∧
    countConfigFileReleaseEachGroup (.ok ⟨[("ns1", "g1", 3)], some .failure⟩) Except.ok =
      .ok (putGroupCount (fun _ => none) ("ns1", "g1", 3)) ∧
    fetchRoutingConfigV2Rows (Except.ok : String → Except StoreError String)
      ⟨["c1"], some .failure⟩ = .error .failure :=
  ⟨rfl, rfl, rfl, rfl, rfl, rfl, rfl⟩

end PolarisStore.Postgresql
