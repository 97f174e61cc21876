import PolarisStore.PGFilterSql

/-! The list queries built on the filter loops, and what the driver binds for them.
Each loop is followed through `Numbering`: every branch appends text numbered from the
current index, and the numbers a loop skips or reuses decide whether the page query,
`limit $idx offset $idx+1` after the filter, binds its arguments in order. -/
namespace PolarisStore.Postgresql

section RateLimit

def getBriefRateLimitsSql : String :=
  "select ratelimit_config.id, ratelimit_config.name, ratelimit_config.disable,\n            ratelimit_config.service_id, ratelimit_config.method, ratelimit_config.ctime, \n\t\t\tratelimit_config.mtime, ratelimit_config.etime \n\t\t\tfrom ratelimit_config where ratelimit_config.flag = 0"

def getExpandRateLimitsSql : String :=
  "select ratelimit_config.id, ratelimit_config.name, ratelimit_config.disable,\n            ratelimit_config.service_id, ratelimit_config.method, ratelimit_config.labels, \n            ratelimit_config.priority, ratelimit_config.rule, ratelimit_config.revision, \n            ratelimit_config.ctime, ratelimit_config.mtime, ratelimit_config.etime \n\t\t\tfrom ratelimit_config \n\t\t\twhere ratelimit_config.flag = 0"

def getExpandRateLimitsCountSql : String :=
  "select count(*) from ratelimit_config where ratelimit_config.flag = 0"

/-- The statement and arguments a rate-limit list query hands to `Query`: the filter
numbered from `$1`, then `limit` and `offset`. -/
def rateLimitsPage (head : String) (filter : List (String × String)) (offset limit : Nat) :
    Sql × List Arg :=
  let b := genFilterRateLimitSQL filter 1
  ([.lit head] ++ b.str ++ [.lit " order by ratelimit_config.mtime desc limit ", .param b.idx,
      .lit " offset ", .param (b.idx + 1)], b.args ++ [.uint limit, .uint offset])

def getBriefRateLimits (filter : List (String × String)) (offset limit : Nat) : Sql × List Arg :=
  rateLimitsPage getBriefRateLimitsSql filter offset limit

def getExpandRateLimits (filter : List (String × String)) (offset limit : Nat) : Sql × List Arg :=
  rateLimitsPage getExpandRateLimitsSql filter offset limit

def getExpandRateLimitsCount (filter : List (String × String)) : Sql × List Arg :=
  let b := genFilterRateLimitSQL filter 1
  ([.lit getExpandRateLimitsCountSql] ++ b.str, b.args)

/-- The conjunct ` and <column> <op> $k` and its argument for each mapped key of `query`, in
the map's order, `k` counting from `index`. -/
def rateLimitFilterSpec (query : List (String × String)) (index : Nat) : SqlBuild :=
  let cs := query.filterMap fun (key, value) => (queryKeyToDbColumn.lookup key).map fun col =>
    if key = "name" ∨ key = "method" ∨ key = "labels" then (col, " like ", Arg.str ("%" ++ value ++ "%"))
    else if key = "disable" then (col, " = ", .bool (parseBool value)) else (col, " = ", .str value)
  ⟨(cs.enumFrom index).flatMap fun (k, col, op, _) => [.lit " and ", .lit col, .lit op, .param k],
    cs.map fun c => c.2.2, index + cs.length⟩

theorem queryKeyToDbColumn_ne_empty {key col : String} (h : queryKeyToDbColumn.lookup key = some col) :
    col.length ≠ 0 := by
  have hc := lookup_mem_map_snd h
  simp only [queryKeyToDbColumn, List.map_cons, List.map_nil, List.mem_cons, List.not_mem_nil,
    or_false] at hc
  rcases hc with rfl | rfl | rfl | rfl | rfl <;> decide

/-- The loop of `genFilterRateLimitSQL` from any state appends the spec's conjuncts and
arguments, numbered from the state's index. -/
theorem foldl_genFilterRateLimitStep (query : List (String × String)) (b : SqlBuild) :
    query.foldl genFilterRateLimitStep b =
      ⟨b.str ++ (rateLimitFilterSpec query b.idx).str, b.args ++ (rateLimitFilterSpec query b.idx).args,
        (rateLimitFilterSpec query b.idx).idx⟩ := by
  induction query generalizing b with
  | nil => simp [rateLimitFilterSpec]
  | cons kv query ih =>
    obtain ⟨key, value⟩ := kv
    rw [List.foldl_cons, ih]
    cases h : queryKeyToDbColumn.lookup key with
    | none => simp [genFilterRateLimitStep, h, rateLimitFilterSpec]
    | some col =>
      have hc := queryKeyToDbColumn_ne_empty h
      simp only [genFilterRateLimitStep, h, Option.getD_some, if_neg hc, rateLimitFilterSpec,
        List.filterMap_cons, Option.map_some']
      by_cases h1 : key = "name" ∨ key = "method" ∨ key = "labels"
      · simp [h1, Nat.add_assoc, Nat.add_comm 1]
      · by_cases h2 : key = "disable" <;> simp [h1, h2, Nat.add_assoc, Nat.add_comm 1]

theorem rateLimitFilterSpec_params (query : List (String × String)) (index : Nat) :
    (rateLimitFilterSpec query index).str.params =
      List.range' index (rateLimitFilterSpec query index).args.length := by
  simp only [rateLimitFilterSpec, List.length_map]
  generalize query.filterMap _ = cs
  induction cs generalizing index with
  | nil => rfl
  | cons c cs ih => simp [List.flatMap_cons, ih, List.range'_succ]

theorem genFilterRateLimitSQL_numbering (query : List (String × String)) (index : Nat) :
    Numbering (genFilterRateLimitSQL query index).str index
      (genFilterRateLimitSQL query index).args.length 0 0 (genFilterRateLimitSQL query index).idx := by
  rw [genFilterRateLimitSQL, foldl_genFilterRateLimitStep]
  simpa [rateLimitFilterSpec] using
    Numbering.of_params (rateLimitFilterSpec_params query index)

theorem rateLimitsPage_bindArgs (head : String) (filter : List (String × String)) (offset limit : Nat) :
    bindArgs (rateLimitsPage head filter offset limit).1 (rateLimitsPage head filter offset limit).2 =
      .ok (rateLimitsPage head filter offset limit).2 := by
  simpa using Numbering.bindArgs_page ((genFilterRateLimitSQL_numbering filter 1).lit_cons head)
    (.inl rfl) " order by ratelimit_config.mtime desc limit " " offset " (Arg.uint limit) (Arg.uint offset)

/-- For every filter map and start index, `genFilterRateLimitSQL` writes the spec's conjuncts
numbered from `$index`, and the list and count queries bind in order. -/
theorem rate_limit_filter_numbered_from_index (query : List (String × String))
    (index offset limit : Nat) :
    genFilterRateLimitSQL query index = rateLimitFilterSpec query index ∧
    (genFilterRateLimitSQL query index).idx = index + (genFilterRateLimitSQL query index).args.length ∧
    (genFilterRateLimitSQL query index).str.params =
      List.range' index (genFilterRateLimitSQL query index).args.length ∧
    bindArgs (getBriefRateLimits query offset limit).1 (getBriefRateLimits query offset limit).2 =
      .ok ((genFilterRateLimitSQL query 1).args ++ [.uint limit, .uint offset]) ∧
    bindArgs (getExpandRateLimits query offset limit).1 (getExpandRateLimits query offset limit).2 =
      .ok ((genFilterRateLimitSQL query 1).args ++ [.uint limit, .uint offset]) ∧
    (getExpandRateLimitsCount query).1 = .lit getExpandRateLimitsCountSql :: (rateLimitFilterSpec query 1).str ∧
    bindArgs (getExpandRateLimitsCount query).1 (getExpandRateLimitsCount query).2 =
      .ok (genFilterRateLimitSQL query 1).args := by
  have hspec : ∀ i, genFilterRateLimitSQL query i = rateLimitFilterSpec query i := fun i => by
    simpa using foldl_genFilterRateLimitStep query ⟨[], [], i⟩
  have hn := genFilterRateLimitSQL_numbering query index
  refine ⟨hspec index, by have := hn.next_eq; omega, hn.exact rfl rfl,
    rateLimitsPage_bindArgs _ _ _ _, rateLimitsPage_bindArgs _ _ _ _,
    by simp [getExpandRateLimitsCount, hspec], ?_⟩
  exact Numbering.bindArgs_eq ((genFilterRateLimitSQL_numbering query 1).lit_cons _)

end RateLimit

section CircuitBreaker

def queryCircuitBreakerRuleBriefSql : String :=
  "select id, name, namespace, enable, revision, level, src_service, src_namespace, \n\t\t\tdst_service, dst_namespace, dst_method, ctime, mtime, etime\n\t\t\tfrom circuitbreaker_rule_v2 where flag = 0"

def queryCircuitBreakerRuleFullSql : String :=
  "select id, name, namespace, enable, revision, description, level, src_service, \n\t\t\tsrc_namespace, dst_service, dst_namespace, dst_method, config, ctime, mtime, etime \n\t\t\tfrom circuitbreaker_rule_v2 where flag = 0"

variable (toUnderscoreName : String → String)

/-- The statement and arguments a circuit-breaker rule list query hands to `Query`. -/
def circuitBreakerRulesPage (head : String) (filter : List (String × String)) (offset limit : Nat) :
    Sql × List Arg :=
  let b := genCircuitBreakerRuleSQL toUnderscoreName filter
  ([.lit head] ++ b.str ++ [.lit " order by mtime desc limit ", .param b.idx, .lit " offset ",
      .param (b.idx + 1)], b.args ++ [.uint limit, .uint offset])

def getBriefCircuitBreakerRules (filter : List (String × String)) (offset limit : Nat) :
    Sql × List Arg :=
  circuitBreakerRulesPage toUnderscoreName queryCircuitBreakerRuleBriefSql filter offset limit

def getFullCircuitBreakerRules (filter : List (String × String)) (offset limit : Nat) :
    Sql × List Arg :=
  circuitBreakerRulesPage toUnderscoreName queryCircuitBreakerRuleFullSql filter offset limit

/-- The entries that `genCircuitBreakerRuleSQL` writes as an `in (...)` list. -/
def levelEntries (query : List (String × String)) : List (String × String) :=
  query.filter fun kv => kv.1 = "level" ∧ kv.2.length ≠ 0

theorem foldl_placeholdersStep (l : List Nat) (r : Sql × Nat) :
    (l.foldl placeholdersStep r).1.params = r.1.params ++ List.range' r.2 l.length ∧
      (l.foldl placeholdersStep r).2 = r.2 + l.length := by
  induction l generalizing r with
  | nil => simp
  | cons _ l ih =>
    rw [List.foldl_cons, (ih _).1, (ih _).2]
    simp [placeholdersStep, List.range'_succ, Nat.add_assoc, Nat.add_comm 1]

/-- `placeholders(n, idx)` writes `$idx, ..., $(idx + n - 1)` and returns `idx + n`. -/
theorem placeholders_params (n idx : Nat) :
    (placeholders n idx).1.params = List.range' idx n ∧ (placeholders n idx).2 = idx + n := by
  have h := foldl_placeholdersStep (List.range (n - 1)) ([], idx)
  simp only [Sql.params_nil, List.nil_append, List.length_range] at h
  unfold placeholders
  cases n with
  | zero => simp
  | succ n =>
    rw [Nat.add_sub_cancel] at h
    simp only [Nat.add_sub_cancel, if_pos (Nat.succ_pos n), Sql.params_append, h.1, h.2,
      Sql.params_param, Sql.params_nil, List.range'_1_concat, true_and]
    omega

/-- Every branch but `level` writes one placeholder, `$idx`, for one argument. -/
theorem circuitBreakerRuleConjunct_of_ne_level {key : String} (value : String) (idx : Nat)
    (hl : key ≠ "level") : ∃ (q : Sql) (a : Arg),
      circuitBreakerRuleConjunct toUnderscoreName key value idx = (q, [a], idx) ∧ q.params = [idx] := by
  unfold circuitBreakerRuleConjunct
  by_cases hb : key ∈ blurQueryKeys
  · rw [if_pos hb]; exact ⟨_, _, rfl, rfl⟩
  by_cases he : key = "enable"
  · rw [if_neg hb, if_pos he]; exact ⟨_, _, rfl, rfl⟩
  by_cases hx : key = exactName
  · rw [if_neg hb, if_neg he, if_neg hl, if_pos hx]; exact ⟨_, _, rfl, rfl⟩
  rw [if_neg hb, if_neg he, if_neg hl, if_neg hx]
  by_cases hi : key = excludeId
  · rw [if_pos hi]; exact ⟨_, _, rfl, rfl⟩
  · rw [if_neg hi]; exact ⟨_, _, rfl, rfl⟩

/-- Each conjunct is numbered from `idx`; the `level` branch skips the number after its
last placeholder, which the loop's `idx++` passes over. -/
theorem circuitBreakerRuleConjunct_numbering (key value : String) (idx : Nat) :
    Numbering (circuitBreakerRuleConjunct toUnderscoreName key value idx).1 idx
      (circuitBreakerRuleConjunct toUnderscoreName key value idx).2.1.length
      (if key = "level" then 1 else 0) 0 ((circuitBreakerRuleConjunct toUnderscoreName key value idx).2.2 + 1) := by
  by_cases hl : key = "level"
  · subst hl
    obtain ⟨hp, hi⟩ := placeholders_params (value.splitOn ",").length idx
    unfold circuitBreakerRuleConjunct
    rw [if_neg (by decide), if_neg (by decide), if_pos rfl, if_pos rfl]
    refine ⟨by simp only [hi, List.length_map], by simp only [hi]; omega, fun p hq => ?_,
      fun h => absurd h Nat.one_ne_zero⟩
    simp only [Sql.params_append, Sql.params_lit, Sql.params_key, Sql.params_nil, hp,
      List.nil_append, List.append_nil, List.mem_range'_1] at hq
    simp only [hi]; omega
  · obtain ⟨q, a, hc, hq⟩ := circuitBreakerRuleConjunct_of_ne_level toUnderscoreName value idx hl
    rw [hc, if_neg hl]
    exact Numbering.of_params hq

/-- One iteration keeps the filter text numbered from `$1`, and skips a number for an
entry of `levelEntries`. -/
theorem genCircuitBreakerRuleStep_numbering {s : CircuitBreakerRuleBuild} {g : Nat}
    (h : Numbering s.str 1 s.args.length g 0 s.idx) (kv : String × String) :
    Numbering (genCircuitBreakerRuleStep toUnderscoreName s kv).str 1
      (genCircuitBreakerRuleStep toUnderscoreName s kv).args.length (g + (levelEntries [kv]).length) 0
      (genCircuitBreakerRuleStep toUnderscoreName s kv).idx := by
  obtain ⟨key, value⟩ := kv
  simp only [genCircuitBreakerRuleStep]
  by_cases hv : value.length = 0
  · rw [if_pos hv]; simpa [levelEntries, hv] using h
  rw [if_neg hv]
  by_cases hs : key = svcSpecificQueryKeyService
  · rw [if_pos hs]; simpa [levelEntries, hs, svcSpecificQueryKeyService] using h
  rw [if_neg hs]
  by_cases hn : key = svcSpecificQueryKeyNamespace
  · rw [if_pos hn]; simpa [levelEntries, hn, svcSpecificQueryKeyNamespace] using h
  rw [if_neg hn]
  have hc := h.append (circuitBreakerRuleConjunct_numbering toUnderscoreName key value s.idx)
  by_cases hl : key = "level" <;> simpa [levelEntries, hv, hl] using hc

theorem foldl_genCircuitBreakerRuleStep_numbering (query : List (String × String)) :
    ∀ (s : CircuitBreakerRuleBuild) (g : Nat), Numbering s.str 1 s.args.length g 0 s.idx →
      Numbering (query.foldl (genCircuitBreakerRuleStep toUnderscoreName) s).str 1
        (query.foldl (genCircuitBreakerRuleStep toUnderscoreName) s).args.length
        (g + (levelEntries query).length) 0 (query.foldl (genCircuitBreakerRuleStep toUnderscoreName) s).idx := by
  induction query with
  | nil => intro s g h; simpa [levelEntries] using h
  | cons kv query ih =>
    intro s g h
    have := ih _ _ (genCircuitBreakerRuleStep_numbering toUnderscoreName h kv)
    have hl : (levelEntries (kv :: query)).length = (levelEntries [kv]).length + (levelEntries query).length := by
      simp only [levelEntries, List.filter_cons, List.filter_nil]; split <;> simp [Nat.add_comm]
    rwa [List.foldl_cons, hl, ← Nat.add_assoc]

/-- The service and namespace tails of `genCircuitBreakerRuleSQL`: a non-empty value
adds one conjunct with one placeholder, `$idx`, and keeps the filter text numbered. -/
theorem svcConjunct_numbering {b : SqlBuild} {g : Nat} (h : Numbering b.str 1 b.args.length g 0 b.idx)
    (v pre post : String) :
    (let b' : SqlBuild := if v.length > 0 then
        ⟨b.str ++ [.lit pre, .param b.idx, .lit post], b.args ++ [.str v], b.idx + 1⟩ else b
    Numbering b'.str 1 b'.args.length g 0 b'.idx) := by
  intro b'
  by_cases hv : v.length > 0
  · simp only [b', if_pos hv]
    simpa using h.append (Numbering.of_params (show Sql.params [.lit pre, .param b.idx, .lit post] =
      List.range' b.idx 1 from rfl))
  · simpa only [b', if_neg hv] using h

/-- The filter text of `genCircuitBreakerRuleSQL` is numbered from `$1`, and its next
number passes one number per `level` entry beyond its arguments. -/
theorem genCircuitBreakerRuleSQL_numbering (query : List (String × String)) :
    Numbering (genCircuitBreakerRuleSQL toUnderscoreName query).str 1
      (genCircuitBreakerRuleSQL toUnderscoreName query).args.length (levelEntries query).length 0
      (genCircuitBreakerRuleSQL toUnderscoreName query).idx := by
  have h := foldl_genCircuitBreakerRuleStep_numbering toUnderscoreName query ⟨[], [], 1, "", ""⟩ 0
    (Numbering.of_params rfl)
  rw [Nat.zero_add] at h
  exact svcConjunct_numbering (svcConjunct_numbering h _ _ _) _ _ _

theorem circuitBreakerRulesPage_bindArgs (head : String) (filter : List (String × String))
    (offset limit : Nat) :
    bindArgs (circuitBreakerRulesPage toUnderscoreName head filter offset limit).1
        (circuitBreakerRulesPage toUnderscoreName head filter offset limit).2 =
      if levelEntries filter = [] then .ok (circuitBreakerRulesPage toUnderscoreName head filter offset limit).2
      else .error ((circuitBreakerRulesPage toUnderscoreName head filter offset limit).2.length,
        (genCircuitBreakerRuleSQL toUnderscoreName filter).idx + 1) := by
  have h := Numbering.bindArgs_page ((genCircuitBreakerRuleSQL_numbering toUnderscoreName filter).lit_cons head)
    (.inr rfl) " order by mtime desc limit " " offset " (Arg.uint limit) (Arg.uint offset)
  simp only [Nat.add_zero, List.length_eq_zero] at h
  rw [circuitBreakerRulesPage]
  simpa using h

/-- The texts a rule list query splices are the filter keys, through `toUnderscoreName`. -/
theorem circuitBreakerRulesPage_keys_plain (head : String) {filter : List (String × String)}
    (hk : ∀ kv ∈ filter, plainName (toUnderscoreName kv.1) = true) (offset limit : Nat) :
    ∀ k ∈ (circuitBreakerRulesPage toUnderscoreName head filter offset limit).1.keys,
      plainName k = true := by
  intro k h
  simp only [circuitBreakerRulesPage, Sql.keys_append] at h
  simp only [Sql.keys, List.filterMap_cons, List.filterMap_nil, List.nil_append, List.append_nil] at h
  obtain ⟨kv, hkv, rfl⟩ := List.mem_map.mp ((genCircuitBreakerRuleSQL_str toUnderscoreName filter).mem_keys k h)
  exact hk kv hkv

theorem splitOn_comma_one : "1".splitOn "," = ["1"] := by
  rw [String.splitOn, if_neg (by decide), String.splitOnAux, if_neg (by decide), if_neg (by decide),
    String.splitOnAux, if_pos (by decide)]
  decide

/-- The filter `{level: "1"}`: the text holds `$1` only, yet the index comes back as 3,
and the brief list query asks for `$3` and `$4` with three arguments. -/
theorem level_filter_skips_a_placeholder :
    genCircuitBreakerRuleSQL toUnderscoreName [("level", "1")] =
      ⟨[.lit " and ", .key (toUnderscoreName "level"), .lit " in (", .param 1, .lit ")"], [.str "1"], 3⟩ ∧
    (getBriefCircuitBreakerRules toUnderscoreName [("level", "1")] 0 10).1.params = [1, 3, 4] ∧
    bindArgs (getBriefCircuitBreakerRules toUnderscoreName [("level", "1")] 0 10).1
      (getBriefCircuitBreakerRules toUnderscoreName [("level", "1")] 0 10).2 = .error (3, 4) := by
  have hg : genCircuitBreakerRuleSQL toUnderscoreName [("level", "1")] =
      ⟨[.lit " and ", .key (toUnderscoreName "level"), .lit " in (", .param 1, .lit ")"], [.str "1"], 3⟩ := by
    simp [genCircuitBreakerRuleSQL, genCircuitBreakerRuleStep, circuitBreakerRuleConjunct,
      blurQueryKeys, svcSpecificQueryKeyService, svcSpecificQueryKeyNamespace, splitOn_comma_one,
      placeholders, show "1".length = 1 from rfl]
  refine ⟨hg, ?_, ?_⟩ <;>
    simp [getBriefCircuitBreakerRules, circuitBreakerRulesPage, hg, bindArgs, Sql.paramCount]

end CircuitBreaker

section Users

/-- `{owner: u1}` numbers the page query `$1, $2, $2, $3` for four arguments, and
`{owner: u1, name: n1}` the count query `$1, $2, $2` for three. -/
theorem owner_filter_reuses_a_placeholder :
    (listUsersSql [("owner", "u1")] 0 10).pageSql.params = [1, 2, 2, 3] ∧
    bindArgs (listUsersSql [("owner", "u1")] 0 10).pageSql (listUsersSql [("owner", "u1")] 0 10).pageArgs =
      .error (4, 3) ∧
    (listUsersSql [("owner", "u1"), ("name", "n1")] 0 10).countSql.params = [1, 2, 2] ∧
    bindArgs (listUsersSql [("owner", "u1"), ("name", "n1")] 0 10).countSql
      (listUsersSql [("owner", "u1"), ("name", "n1")] 0 10).countArgs = .error (3, 2) := by
  refine ⟨by decide, rfl, by decide, rfl⟩

end Users

end PolarisStore.Postgresql
