import PolarisStore.PGSqlText

/-! The filter builders of the list queries: each loops over a filter map, in whatever
order `range` visits it, appending a conjunct to the SQL text and the values it
compares with to the arguments. A map is the list of its entries in that order. -/
namespace PolarisStore.Postgresql

/-- The state of a filter loop: the text so far, its arguments, and the next
placeholder number. -/
structure SqlBuild where
  str : Sql
  args : List Arg
  idx : Nat
deriving DecidableEq, Repr

section RateLimit

def queryKeyToDbColumn : List (String × String) :=
  [("id", "ratelimit_config.id"), ("name", "ratelimit_config.name"),
    ("method", "ratelimit_config.method"), ("labels", "ratelimit_config.labels"),
    ("disable", "ratelimit_config.disable")]

/-- One iteration of `genFilterRateLimitSQL`; a key the table lacks maps to `""` and is
skipped. -/
def genFilterRateLimitStep (b : SqlBuild) : String × String → SqlBuild
  | (key, value) =>
    let sqlKey := (queryKeyToDbColumn.lookup key).getD ""
    if sqlKey.length = 0 then b
    else if key = "name" ∨ key = "method" ∨ key = "labels" then
      ⟨b.str ++ [.lit " and ", .lit sqlKey, .lit " like ", .param b.idx],
        b.args ++ [.str ("%" ++ value ++ "%")], b.idx + 1⟩
    else if key = "disable" then
      ⟨b.str ++ [.lit " and ", .lit sqlKey, .lit " = ", .param b.idx],
        b.args ++ [.bool (parseBool value)], b.idx + 1⟩
    else
      ⟨b.str ++ [.lit " and ", .lit sqlKey, .lit " = ", .param b.idx], b.args ++ [.str value],
        b.idx + 1⟩

def genFilterRateLimitSQL (query : List (String × String)) (index : Nat) : SqlBuild :=
  query.foldl genFilterRateLimitStep ⟨[], [], index⟩

end RateLimit

section CircuitBreaker

def blurQueryKeys : List String :=
  ["name", "description", "srcService", "srcNamespace", "dstService", "dstNamespace", "dstMethod"]

def svcSpecificQueryKeyService : String := "service"

def svcSpecificQueryKeyNamespace : String := "serviceNamespace"

def exactName : String := "exactName"

def excludeId : String := "excludeId"

/-- One iteration of `placeholders`'s loop: `$idx,`. -/
def placeholdersStep (r : Sql × Nat) (_ : Nat) : Sql × Nat := (r.1 ++ [.param r.2, .lit ","], r.2 + 1)

/-- `placeholders(n, idx)`: `$idx,` for all but the last of `n`, then `$idx`, and the
next number. -/
def placeholders (n idx : Nat) : Sql × Nat :=
  let r := (List.range (n - 1)).foldl placeholdersStep ([], idx)
  if n > 0 then (r.1 ++ [.param r.2], r.2 + 1) else r

/-- The state of `genCircuitBreakerRuleSQL`'s loop. -/
structure CircuitBreakerRuleBuild where
  str : Sql
  args : List Arg
  idx : Nat
  svcNamespaceQueryValue : String
  svcQueryValue : String
deriving DecidableEq, Repr

variable (toUnderscoreName : String → String)

/-- What `genCircuitBreakerRuleSQL` appends for a key other than the service keys, for any
`toUnderscoreName`, which is absent from the sources. -/
def circuitBreakerRuleConjunct (key value : String) (idx : Nat) : Sql × List Arg × Nat :=
  let storeKey := toUnderscoreName key
  if key ∈ blurQueryKeys then
    ([.lit " and ", .key storeKey, .lit " like ", .param idx], [.str ("%" ++ value ++ "%")], idx)
  else if key = "enable" then
    ([.lit " and ", .key storeKey, .lit " = ", .param idx], [.bool (parseBool value)], idx)
  else if key = "level" then
    let tokens := value.splitOn ","
    let r := placeholders tokens.length idx
    ([.lit " and ", .key storeKey, .lit " in ("] ++ r.1 ++ [.lit ")"], tokens.map .str, r.2)
  else if key = exactName then ([.lit " and name = ", .param idx], [.str value], idx)
  else if key = excludeId then ([.lit " and id != ", .param idx], [.str value], idx)
  else ([.lit " and ", .key storeKey, .lit " = ", .param idx], [.str value], idx)

/-- One iteration of `genCircuitBreakerRuleSQL`: the conjunct, then `idx++`. -/
def genCircuitBreakerRuleStep (s : CircuitBreakerRuleBuild) :
    String × String → CircuitBreakerRuleBuild
  | (key, value) =>
    if value.length = 0 then s
    else if key = svcSpecificQueryKeyService then { s with svcQueryValue := value }
    else if key = svcSpecificQueryKeyNamespace then { s with svcNamespaceQueryValue := value }
    else
      let c := circuitBreakerRuleConjunct toUnderscoreName key value s.idx
      { s with str := s.str ++ c.1, args := s.args ++ c.2.1, idx := c.2.2 + 1 }

def genCircuitBreakerRuleSQL (query : List (String × String)) : SqlBuild :=
  let s := query.foldl (genCircuitBreakerRuleStep toUnderscoreName) ⟨[], [], 1, "", ""⟩
  let b : SqlBuild := ⟨s.str, s.args, s.idx⟩
  let b : SqlBuild := if s.svcQueryValue.length > 0 then
      ⟨b.str ++ [.lit " and (dst_service = ", .param b.idx, .lit " or dst_service = \x27*\x27)"],
        b.args ++ [.str s.svcQueryValue], b.idx + 1⟩
    else b
  if s.svcNamespaceQueryValue.length > 0 then
    ⟨b.str ++ [.lit " and (dst_namespace = ", .param b.idx,
        .lit " or dst_namespace = \x27*\x27)"], b.args ++ [.str s.svcNamespaceQueryValue], b.idx + 1⟩
  else b

end CircuitBreaker

section Users

/-- `NameAttribute`, `OwnerAttribute` and `GroupIDAttribute` are absent from the
sources; they are the keys of `userAttributeMapping`. -/
def NameAttribute : String := "name"

def OwnerAttribute : String := "owner"

def GroupIDAttribute : String := "group_id"

/-- `utils.IsPrefixWildName` is absent from the sources; taken as its callers read it,
a name ending in `*`, which they strip with `v[:len(v)-1]`. -/
def isPrefixWildName (name : String) : Bool := name.data.getLast? = some '*'

def userLinkGroupAttributeMapping : List (String × String) :=
  [("user_id", "ul.user_id"), ("group_name", "ug.name"), ("group_id", "ug.group_id"),
    ("owner", "ug.owner")]

def listUsersGetSql : String :=
  "\n\t  SELECT id, name, password, owner, comment, source\n\t\t  , token, token_enable, user_type, ctime\n\t\t  , mtime, flag, mobile, email\n\t  FROM user\n\t  WHERE flag = 0 \n\t  "

def listUsersCountSql : String := "SELECT COUNT(*) FROM user WHERE flag = 0 "

def listGroupUsersQuerySql : String :=
  "\n\t\t  SELECT u.id, name, password, owner, u.comment, source\n\t\t\t  , token, token_enable, user_type, u.ctime\n\t\t\t  , u.mtime, u.flag, u.mobile, u.email\n\t\t  FROM user_group_relation ug\n\t\t\t  LEFT JOIN user u ON ug.user_id = u.id AND u.flag = 0\n\t\t  WHERE 1=1 \n\t  "

def listGroupUsersCountSql : String :=
  "\n\t\t  SELECT COUNT(*)\n\t\t  FROM user_group_relation ug\n\t\t\t  LEFT JOIN user u ON ug.user_id = u.id AND u.flag = 0 \n\t\t  WHERE 1=1 \n\t  "

/-- The state of a user filter loop: both statements, the arguments, the next number. -/
structure UserFilterBuild where
  getSql : Sql
  countSql : Sql
  args : List Arg
  index : Nat
deriving DecidableEq, Repr

/-- The two statements a user listing runs, each with its arguments. -/
structure UserListQueries where
  countSql : Sql
  countArgs : List Arg
  pageSql : Sql
  pageArgs : List Arg
deriving DecidableEq, Repr

/-- Appends the same text to both statements. -/
def UserFilterBuild.push (s : UserFilterBuild) (q : Sql) : UserFilterBuild :=
  { s with getSql := s.getSql ++ q, countSql := s.countSql ++ q }

@[simp] theorem UserFilterBuild.push_getSql (s : UserFilterBuild) (q : Sql) :
    (s.push q).getSql = s.getSql ++ q := rfl

@[simp] theorem UserFilterBuild.push_countSql (s : UserFilterBuild) (q : Sql) :
    (s.push q).countSql = s.countSql ++ q := rfl

/-- One iteration of `listUsers`'s loop. The owner branch uses two placeholders and
`continue`s past the loop's `index++`. -/
def listUsersStep (s : UserFilterBuild) : String × String → UserFilterBuild
  | (k, v) =>
    let s := s.push [.lit " AND "]
    if k = NameAttribute then
      if isPrefixWildName v then
        { s.push [.lit " ", .key k, .lit " like ", .param s.index, .lit " "] with
          args := s.args ++ [.str ("%" ++ v.dropRight 1 ++ "%")], index := s.index + 1 }
      else
        { s.push [.lit " ", .key k, .lit " = ", .param s.index, .lit " "] with
          args := s.args ++ [.str v], index := s.index + 1 }
    else if k = OwnerAttribute then
      { s.push [.lit " (id = ", .param s.index, .lit " OR owner = ", .param (s.index + 1),
          .lit ") "] with
        index := s.index + 1, args := s.args ++ [.str v, .str v] }
    else
      { s.push [.lit " ", .key k, .lit " = ", .param s.index, .lit " "] with
        args := s.args ++ [.str v], index := s.index + 1 }

/-- The statements `listUsers(filters, offset, limit)` builds; unquoted, `FROM user` is the
`USER` function, which has no column `flag`, so both fail when run. -/
def listUsersSql (filters : List (String × String)) (offset limit : Nat) : UserListQueries :=
  let hide := filters.lookup "hide_admin" = some "true"
  let filters := if hide then filters.filter (·.1 ≠ "hide_admin") else filters
  let s : UserFilterBuild := ⟨[.lit listUsersGetSql], [.lit listUsersCountSql], [], 1⟩
  let s := if hide then s.push [.lit "  AND user_type != 0 "] else s
  let s := filters.foldl listUsersStep s
  ⟨s.countSql, s.args,
    s.getSql ++ [.lit " ORDER BY mtime LIMIT ", .param s.index, .lit " OFFSET ", .param (s.index + 1)],
    s.args ++ [.uint limit, .uint offset]⟩

/-- The column `listGroupUsers` writes for `k`: its `userLinkGroupAttributeMapping` column,
with `ug.owner` read as `u.owner`, or `k` itself. -/
def listGroupUsersColumn (k : String) : SqlPiece :=
  match userLinkGroupAttributeMapping.lookup k with
  | some newK => if newK = "ug.owner" then .lit "u.owner" else .lit newK
  | none => if k = "ug.owner" then .lit "u.owner" else .key k

/-- One iteration of `listGroupUsers`'s loop. -/
def listGroupUsersStep (s : UserFilterBuild) : String × String → UserFilterBuild
  | (k, v) =>
    if isPrefixWildName v then
      { s.push [.lit " AND ", listGroupUsersColumn k, .lit " like ", .param s.index] with
        args := s.args ++ [.str (v.dropRight 1 ++ "%")], index := s.index + 1 }
    else
      { s.push [.lit " AND ", listGroupUsersColumn k, .lit " = ", .param s.index] with
        args := s.args ++ [.str v], index := s.index + 1 }

/-- The statements `listGroupUsers(filters, offset, limit)` builds, or its error; their
`LEFT JOIN user u` reads the `USER` function, so both fail when run. -/
def listGroupUsersSql (filters : List (String × String)) (offset limit : Nat) :
    Except String UserListQueries :=
  if (filters.lookup GroupIDAttribute).isNone then .error "group_id is missing" else
  let hide := filters.lookup "hide_admin" = some "true"
  let filters := if hide then filters.filter (·.1 ≠ "hide_admin") else filters
  let s : UserFilterBuild := ⟨[.lit listGroupUsersQuerySql], [.lit listGroupUsersCountSql], [], 1⟩
  let s := if hide then s.push [.lit " AND u.user_type != 0 "] else s
  let s := filters.foldl listGroupUsersStep s
  .ok ⟨s.countSql, s.args,
    s.getSql ++ [.lit " ORDER BY u.mtime LIMIT ", .param s.index, .lit " OFFSET ", .param (s.index + 1)],
    s.args ++ [.uint limit, .uint offset]⟩

end Users

section Provenance

/-- A placeholder, a literal among `words`, or text taken from one of `keys`. -/
def SqlPiece.drawnFrom (words keys : List String) : SqlPiece → Prop
  | .lit s => s ∈ words
  | .key s => s ∈ keys
  | .param _ => True

/-- Every piece of `q` is a placeholder, a literal among `words`, or text taken from
one of `keys`. -/
def Sql.drawnFrom (words keys : List String) (q : Sql) : Prop := ∀ p ∈ q, p.drawnFrom words keys

variable {words keys : List String}

@[simp] theorem SqlPiece.drawnFrom_lit {s : String} : (SqlPiece.lit s).drawnFrom words keys ↔ s ∈ words :=
  Iff.rfl

@[simp] theorem SqlPiece.drawnFrom_key {s : String} : (SqlPiece.key s).drawnFrom words keys ↔ s ∈ keys :=
  Iff.rfl

@[simp] theorem SqlPiece.drawnFrom_param {i : Nat} : (SqlPiece.param i).drawnFrom words keys :=
  trivial

@[simp] theorem Sql.drawnFrom_nil : Sql.drawnFrom words keys [] := by simp [Sql.drawnFrom]

@[simp] theorem Sql.drawnFrom_cons {p : SqlPiece} {q : Sql} :
    Sql.drawnFrom words keys (p :: q) ↔ p.drawnFrom words keys ∧ q.drawnFrom words keys :=
  List.forall_mem_cons

@[simp] theorem Sql.drawnFrom_append {q q' : Sql} :
    (q ++ q').drawnFrom words keys ↔ q.drawnFrom words keys ∧ q'.drawnFrom words keys :=
  List.forall_mem_append

theorem lookup_mem_map_snd {l : List (String × String)} {k v : String} (h : l.lookup k = some v) :
    v ∈ l.map Prod.snd := by
  obtain ⟨l₁, l₂, rfl, -⟩ := List.lookup_eq_some_iff.mp h
  simp

/-- The text `genFilterRateLimitSQL` writes: its operators and the table's columns. -/
def rateLimitFilterWords : List String := [" and ", " like ", " = "] ++ queryKeyToDbColumn.map Prod.snd

/-- The text `genCircuitBreakerRuleSQL` writes. -/
def circuitBreakerRuleFilterWords : List String :=
  [" and ", " like ", " = ", " in (", ",", ")", " and name = ", " and id != ",
    " and (dst_service = ", " or dst_service = \x27*\x27)", " and (dst_namespace = ",
    " or dst_namespace = \x27*\x27)"]

/-- The text `listUsers` writes. -/
def listUsersWords : List String :=
  [listUsersGetSql, listUsersCountSql, "  AND user_type != 0 ", " AND ", " ", " like ", " = ",
    " (id = ", " OR owner = ", ") ", " ORDER BY mtime LIMIT ", " OFFSET "]

/-- The text `listGroupUsers` writes, the mapped columns included. -/
def listGroupUsersWords : List String :=
  [listGroupUsersQuerySql, listGroupUsersCountSql, " AND u.user_type != 0 ", " AND ", " like ",
    " = ", " ORDER BY u.mtime LIMIT ", " OFFSET ", "u.owner"] ++
    userLinkGroupAttributeMapping.map Prod.snd

theorem Sql.drawnFrom.mono {q : Sql} {keys' : List String} (h : q.drawnFrom words keys)
    (hk : ∀ k ∈ keys, k ∈ keys') : q.drawnFrom words keys' := by
  intro p hp
  have := h p hp
  cases p <;> simp_all [SqlPiece.drawnFrom]

theorem Sql.drawnFrom.mem_keys {q : Sql} (h : q.drawnFrom words keys) : ∀ k ∈ q.keys, k ∈ keys := by
  intro k hk
  obtain ⟨p, hp, hpk⟩ := List.mem_filterMap.mp hk
  cases p <;> simp only [reduceCtorEq, Option.some.injEq] at hpk
  exact hpk ▸ h _ hp

section RateLimitText

theorem genFilterRateLimitStep_str {b : SqlBuild} (hb : b.str.drawnFrom rateLimitFilterWords [])
    (kv : String × String) : (genFilterRateLimitStep b kv).str.drawnFrom rateLimitFilterWords [] := by
  obtain ⟨key, value⟩ := kv
  have hw : " and " ∈ rateLimitFilterWords ∧ " like " ∈ rateLimitFilterWords ∧
      " = " ∈ rateLimitFilterWords := by decide
  simp only [genFilterRateLimitStep]
  by_cases h0 : ((queryKeyToDbColumn.lookup key).getD "").length = 0
  · rw [if_pos h0]; exact hb
  have hc : (queryKeyToDbColumn.lookup key).getD "" ∈ rateLimitFilterWords := by
    cases h : queryKeyToDbColumn.lookup key with
    | none => simp [h] at h0
    | some c => exact List.mem_append_right _ (lookup_mem_map_snd h)
  rw [if_neg h0]
  simp only [apply_ite SqlBuild.str, apply_ite (Sql.drawnFrom rateLimitFilterWords []), ite_prop_iff_and]
  simp [hb, hc, hw]

theorem genFilterRateLimitSQL_str (query : List (String × String)) (index : Nat) :
    (genFilterRateLimitSQL query index).str.drawnFrom rateLimitFilterWords [] :=
  List.foldlRecOn (motive := fun b => b.str.drawnFrom rateLimitFilterWords []) query
    genFilterRateLimitStep ⟨[], [], index⟩ Sql.drawnFrom_nil
    fun _ hb kv _ => genFilterRateLimitStep_str hb kv

/-- A key that `queryKeyToDbColumn` lacks changes nothing: not the text, not the
arguments, not the next number. -/
theorem genFilterRateLimitSQL_filter (query : List (String × String)) (index : Nat) :
    genFilterRateLimitSQL query index =
      genFilterRateLimitSQL (query.filter fun kv => (queryKeyToDbColumn.lookup kv.1).isSome) index := by
  unfold genFilterRateLimitSQL
  generalize (⟨[], [], index⟩ : SqlBuild) = b
  induction query generalizing b with
  | nil => rfl
  | cons kv query ih =>
    obtain ⟨key, value⟩ := kv
    cases h : queryKeyToDbColumn.lookup key with
    | none => simpa [h, genFilterRateLimitStep] using ih b
    | some c => simpa [h] using ih _

end RateLimitText

section CircuitBreakerText

variable (toUnderscoreName : String → String)

theorem placeholders_str (n idx : Nat) :
    (placeholders n idx).1.drawnFrom circuitBreakerRuleFilterWords [] := by
  have hfold := List.foldlRecOn
    (motive := fun r : Sql × Nat => r.1.drawnFrom circuitBreakerRuleFilterWords [])
    (List.range (n - 1)) placeholdersStep ([], idx) Sql.drawnFrom_nil
    fun r hr _ _ => by simp [placeholdersStep, hr, show "," ∈ circuitBreakerRuleFilterWords by decide]
  unfold placeholders
  split_ifs <;> simp [hfold]

theorem circuitBreakerRuleConjunct_str (key value : String) (idx : Nat) :
    (circuitBreakerRuleConjunct toUnderscoreName key value idx).1.drawnFrom
      circuitBreakerRuleFilterWords [toUnderscoreName key] := by
  have hw : " and " ∈ circuitBreakerRuleFilterWords ∧ " like " ∈ circuitBreakerRuleFilterWords ∧
      " = " ∈ circuitBreakerRuleFilterWords ∧ " in (" ∈ circuitBreakerRuleFilterWords ∧
      ")" ∈ circuitBreakerRuleFilterWords ∧ " and name = " ∈ circuitBreakerRuleFilterWords ∧
      " and id != " ∈ circuitBreakerRuleFilterWords := by decide
  have hp : ∀ n idx, (placeholders n idx).1.drawnFrom circuitBreakerRuleFilterWords
      [toUnderscoreName key] := fun n idx => (placeholders_str n idx).mono fun _ h => absurd h
    (List.not_mem_nil _)
  simp only [circuitBreakerRuleConjunct, apply_ite Prod.fst,
    apply_ite (Sql.drawnFrom circuitBreakerRuleFilterWords [toUnderscoreName key]), ite_prop_iff_and]
  simp [hw, hp]

theorem genCircuitBreakerRuleStep_str {keys : List String} {s : CircuitBreakerRuleBuild}
    (hs : s.str.drawnFrom circuitBreakerRuleFilterWords keys) {kv : String × String}
    (hk : toUnderscoreName kv.1 ∈ keys) :
    (genCircuitBreakerRuleStep toUnderscoreName s kv).str.drawnFrom circuitBreakerRuleFilterWords keys := by
  obtain ⟨key, value⟩ := kv
  have hc : (circuitBreakerRuleConjunct toUnderscoreName key value s.idx).1.drawnFrom
      circuitBreakerRuleFilterWords keys :=
    (circuitBreakerRuleConjunct_str _ _ _ _).mono (by simpa using hk)
  simp only [genCircuitBreakerRuleStep, apply_ite CircuitBreakerRuleBuild.str,
    apply_ite (Sql.drawnFrom circuitBreakerRuleFilterWords keys), ite_prop_iff_and]
  simp [hs, hc]

theorem genCircuitBreakerRuleSQL_str (query : List (String × String)) :
    (genCircuitBreakerRuleSQL toUnderscoreName query).str.drawnFrom circuitBreakerRuleFilterWords
      (query.map fun kv => toUnderscoreName kv.1) := by
  have hfold := List.foldlRecOn (motive := fun s : CircuitBreakerRuleBuild =>
      s.str.drawnFrom circuitBreakerRuleFilterWords
        (query.map fun kv : String × String => toUnderscoreName kv.1))
    query (genCircuitBreakerRuleStep toUnderscoreName) ⟨[], [], 1, "", ""⟩ Sql.drawnFrom_nil
    fun _ hs _ hkv => genCircuitBreakerRuleStep_str toUnderscoreName hs
      (List.mem_map_of_mem (fun kv : String × String => toUnderscoreName kv.1) hkv)
  have hw : " and (dst_service = " ∈ circuitBreakerRuleFilterWords ∧
      " or dst_service = \x27*\x27)" ∈ circuitBreakerRuleFilterWords ∧
      " and (dst_namespace = " ∈ circuitBreakerRuleFilterWords ∧
      " or dst_namespace = \x27*\x27)" ∈ circuitBreakerRuleFilterWords := by decide
  simp only [genCircuitBreakerRuleSQL, apply_ite SqlBuild.str, Sql.drawnFrom_append,
    apply_ite (Sql.drawnFrom circuitBreakerRuleFilterWords (query.map fun kv => toUnderscoreName kv.1)),
    ite_prop_iff_and]
  simp [hfold, hw]

end CircuitBreakerText

section UsersText

variable {keys : List String}

/-- Both statements of a user listing draw on `words` and `keys`. -/
def UserFilterBuild.drawnFrom (words keys : List String) (s : UserFilterBuild) : Prop :=
  s.getSql.drawnFrom words keys ∧ s.countSql.drawnFrom words keys

/-- A user filter loop keeps both statements drawn from `words` and `keys` when each
step does for the entries it meets. -/
theorem foldl_drawnFrom {words : List String} (step : UserFilterBuild → String × String → UserFilterBuild)
    {P : String × String → Prop} (hstep : ∀ s kv, P kv → s.drawnFrom words keys → (step s kv).drawnFrom words keys)
    (fs : List (String × String)) (s : UserFilterBuild) (hfs : ∀ kv ∈ fs, P kv)
    (hs : s.drawnFrom words keys) : (fs.foldl step s).drawnFrom words keys :=
  List.foldlRecOn (motive := fun s => s.drawnFrom words keys) fs step s hs
    fun _ h kv hkv => hstep _ kv (hfs kv hkv) h

theorem listUsersStep_drawnFrom {s : UserFilterBuild} (hs : s.drawnFrom listUsersWords keys)
    {kv : String × String} (hk : kv.1 ∈ keys) : (listUsersStep s kv).drawnFrom listUsersWords keys := by
  obtain ⟨k, v⟩ := kv
  obtain ⟨hg, hc⟩ := hs
  have hw : " AND " ∈ listUsersWords ∧ " " ∈ listUsersWords ∧ " like " ∈ listUsersWords ∧
      " = " ∈ listUsersWords ∧ " (id = " ∈ listUsersWords ∧ " OR owner = " ∈ listUsersWords ∧
      ") " ∈ listUsersWords := by decide
  simp only [listUsersStep, apply_ite (UserFilterBuild.drawnFrom listUsersWords keys), ite_prop_iff_and]
  simp [UserFilterBuild.drawnFrom, hg, hc, hw, hk]

theorem listGroupUsersStep_drawnFrom {s : UserFilterBuild} (hs : s.drawnFrom listGroupUsersWords keys)
    {kv : String × String} (hk : userLinkGroupAttributeMapping.lookup kv.1 = none → kv.1 ∈ keys) :
    (listGroupUsersStep s kv).drawnFrom listGroupUsersWords keys := by
  obtain ⟨k, v⟩ := kv
  obtain ⟨hg, hc⟩ := hs
  have hw : " AND " ∈ listGroupUsersWords ∧ " like " ∈ listGroupUsersWords ∧
      " = " ∈ listGroupUsersWords ∧ "u.owner" ∈ listGroupUsersWords := by decide
  have hcol : (listGroupUsersColumn k).drawnFrom listGroupUsersWords keys := by
    unfold listGroupUsersColumn
    split <;> rw [apply_ite (SqlPiece.drawnFrom listGroupUsersWords keys), ite_prop_iff_and]
    · next newK h => exact ⟨fun _ => hw.2.2.2, fun _ => List.mem_append_right _ (lookup_mem_map_snd h)⟩
    · next h => exact ⟨fun _ => hw.2.2.2, fun _ => hk h⟩
  simp only [listGroupUsersStep, apply_ite (UserFilterBuild.drawnFrom listGroupUsersWords keys),
    ite_prop_iff_and]
  simp [UserFilterBuild.drawnFrom, hg, hc, hw, hcol]

theorem listUsersSql_drawnFrom (filters : List (String × String)) (offset limit : Nat) :
    (listUsersSql filters offset limit).countSql.drawnFrom listUsersWords (filters.map Prod.fst) ∧
      (listUsersSql filters offset limit).pageSql.drawnFrom listUsersWords (filters.map Prod.fst) := by
  have hrun := foldl_drawnFrom listUsersStep (P := (· ∈ filters))
    fun _ kv hkv hs => listUsersStep_drawnFrom hs (List.mem_map_of_mem Prod.fst hkv)
  have hw : listUsersGetSql ∈ listUsersWords ∧ listUsersCountSql ∈ listUsersWords ∧
      "  AND user_type != 0 " ∈ listUsersWords ∧ " ORDER BY mtime LIMIT " ∈ listUsersWords ∧
      " OFFSET " ∈ listUsersWords := by
    simp only [listUsersWords, List.mem_cons, true_or, or_true, and_self]
  unfold listUsersSql
  dsimp only
  split_ifs <;>
  refine ⟨(hrun _ _ ?_ ?_).2, Sql.drawnFrom_append.mpr ⟨(hrun _ _ ?_ ?_).1, by simp [hw]⟩⟩ <;>
  first
    | exact fun _ h => (List.mem_filter.mp h).1
    | exact fun _ h => h
    | simp [UserFilterBuild.drawnFrom, UserFilterBuild.push, hw]

theorem listGroupUsersSql_drawnFrom (filters : List (String × String)) (offset limit : Nat) :
    ∀ r ∈ (listGroupUsersSql filters offset limit).toOption,
      r.countSql.drawnFrom listGroupUsersWords
        ((filters.filter fun kv => (userLinkGroupAttributeMapping.lookup kv.1).isNone).map Prod.fst) ∧
      r.pageSql.drawnFrom listGroupUsersWords
        ((filters.filter fun kv => (userLinkGroupAttributeMapping.lookup kv.1).isNone).map Prod.fst) := by
  have hrun := foldl_drawnFrom listGroupUsersStep (P := (· ∈ filters)) fun _ kv hkv hs =>
    listGroupUsersStep_drawnFrom hs fun hn =>
      List.mem_map_of_mem Prod.fst (List.mem_filter.mpr ⟨hkv, Option.isNone_iff_eq_none.mpr hn⟩)
  have hw : listGroupUsersQuerySql ∈ listGroupUsersWords ∧ listGroupUsersCountSql ∈ listGroupUsersWords ∧
      " AND u.user_type != 0 " ∈ listGroupUsersWords ∧ " ORDER BY u.mtime LIMIT " ∈ listGroupUsersWords ∧
      " OFFSET " ∈ listGroupUsersWords := by
    simp only [listGroupUsersWords, List.mem_append, List.mem_cons, true_or, or_true, and_self]
  unfold listGroupUsersSql
  dsimp only
  split_ifs
  · rintro _ ⟨⟩
  all_goals
    rintro _ ⟨⟩
    refine ⟨(hrun _ _ ?_ ?_).2, Sql.drawnFrom_append.mpr ⟨(hrun _ _ ?_ ?_).1, by simp [hw]⟩⟩ <;>
    first
      | exact fun _ h => (List.mem_filter.mp h).1
      | exact fun _ h => h
      | simp [UserFilterBuild.drawnFrom, UserFilterBuild.push, hw]

end UsersText

end Provenance

/-- Filter values reach the statements only as arguments: the four builders write source
literals, placeholders, and text of filter keys alone. -/
theorem filter_values_bound_keys_spliced (toUnderscoreName : String → String)
    (query filters : List (String × String)) (index offset limit : Nat) :
    (genFilterRateLimitSQL query index).str.drawnFrom rateLimitFilterWords [] ∧
    genFilterRateLimitSQL query index =
      genFilterRateLimitSQL (query.filter fun kv => (queryKeyToDbColumn.lookup kv.1).isSome) index ∧
    (genCircuitBreakerRuleSQL toUnderscoreName query).str.drawnFrom circuitBreakerRuleFilterWords
      (query.map fun kv => toUnderscoreName kv.1) ∧
    (listUsersSql filters offset limit).countSql.drawnFrom listUsersWords (filters.map Prod.fst) ∧
    (listUsersSql filters offset limit).pageSql.drawnFrom listUsersWords (filters.map Prod.fst) ∧
    ∀ r ∈ (listGroupUsersSql filters offset limit).toOption,
      r.countSql.drawnFrom listGroupUsersWords
        ((filters.filter fun kv => (userLinkGroupAttributeMapping.lookup kv.1).isNone).map Prod.fst) ∧
      r.pageSql.drawnFrom listGroupUsersWords
        ((filters.filter fun kv => (userLinkGroupAttributeMapping.lookup kv.1).isNone).map Prod.fst) :=
  ⟨genFilterRateLimitSQL_str query index, genFilterRateLimitSQL_filter query index,
    genCircuitBreakerRuleSQL_str toUnderscoreName query, (listUsersSql_drawnFrom filters offset limit).1,
    (listUsersSql_drawnFrom filters offset limit).2, listGroupUsersSql_drawnFrom filters offset limit⟩

/-- A filter key outside every column set is written into the SQL of `listUsers`, and
into the filter that `listGroupUsers` appends to its count query. -/
theorem user_filter_key_reaches_sql :
    (listUsersSql [("1=1 OR id", "x")] 0 10).countSql.render =
      "SELECT COUNT(*) FROM user WHERE flag = 0  AND  1=1 OR id = $1 " ∧
    (listGroupUsersSql [("group_id", "g1"), ("1=1 OR u.id", "x")] 0 10).toOption.map
      (fun r => Sql.render (r.countSql.drop 1)) = some " AND ug.group_id = $1 AND 1=1 OR u.id = $2" := by
  decide

end PolarisStore.Postgresql
