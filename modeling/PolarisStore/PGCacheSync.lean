import Mathlib.Logic.Function.Basic
import Mathlib.Data.List.Basic

/-! The writes of the tables the server caches incrementally, and the queries that
pull them. A cache pull at watermark `t` returns the rows whose modification time is
after `t`; a write is seen by later pulls when it moves that time past `t`. Statements
are kept as data: the columns they set and the equalities of their `WHERE`. -/
namespace PolarisStore.Postgresql

inductive Val where
  | null
  | int (n : Int)
  | str (s : String)
  | time (t : Int)
deriving DecidableEq, Repr

/-- A row, by column name. -/
abbrev Row := String → Val

/-- What a statement writes to a column or compares it with: `now` is the time it runs,
`input` a value bound from the caller, `incr c` is `c + 1`. -/
inductive Expr where
  | now
  | input (field : String)
  | lit (v : Val)
  | incr (col : String)
deriving DecidableEq, Repr

/-- `UPDATE`, `INSERT` and `DELETE` over conjunctions of equalities, or a text PostgreSQL
refuses to prepare, which writes nothing. -/
inductive Stmt where
  | update (set : List (String × Expr)) (cond : List (String × Expr))
  | insert (values : List (String × Expr))
  | delete (cond : List (String × Expr))
  | refused
deriving DecidableEq, Repr

section Semantics

variable (now : Int) (rec : String → Val)

def Expr.eval (r : Row) : Expr → Val
  | .now => .time now
  | .input f => rec f
  | .lit v => v
  | .incr c => match r c with
    | .int n => .int (n + 1)
    | v => v

def matchesCond (cond : List (String × Expr)) (r : Row) : Bool :=
  cond.all fun (c, e) => r c = e.eval now rec r

/-- The row with the assigned columns rewritten, each from the row before. -/
def assign (set : List (String × Expr)) (r : Row) : Row := fun c =>
  match set.lookup c with
  | some e => e.eval now rec r
  | none => r c

/-- An inserted row; the columns the `INSERT` leaves out take the schema's defaults,
which the sources do not give. -/
def insertedRow (values : List (String × Expr)) : Row := assign now rec values fun _ => .null

def Stmt.exec (tbl : List Row) : Stmt → List Row
  | .update set cond => tbl.map fun r => if matchesCond now rec cond r then assign now rec set r else r
  | .insert values => tbl ++ [insertedRow now rec values]
  | .delete cond => tbl.filter fun r => !matchesCond now rec cond r
  | .refused => tbl

/-- The rows a statement writes: the updated images of the rows its `WHERE` matches,
or the row it inserts. -/
def Stmt.written (tbl : List Row) : Stmt → List Row
  | .update set cond => (tbl.filter (matchesCond now rec cond)).map (assign now rec set)
  | .insert values => [insertedRow now rec values]
  | .delete _ | .refused => []

end Semantics

/-- A statement sets `timeCol` to the time it runs on every row it writes. -/
def Stmt.refreshes (timeCol : String) : Stmt → Bool
  | .update set _ => set.lookup timeCol = some .now
  | .insert values => values.lookup timeCol = some .now
  | .delete _ | .refused => true

/-- The test of an incremental pull at watermark `t`: `timeCol > t`, or `>= t`. -/
def pulled (timeCol : String) (inclusive : Bool) (t : Int) (r : Row) : Bool :=
  match r timeCol with
  | .time m => if inclusive then decide (t ≤ m) else decide (t < m)
  | _ => false

section Writes

/-! The statements each store call runs on its cached table, with the placeholders
bound as the call binds them. `etime` is `GetCurrentTimeFormat()` or the constant
`emptyEnableTime`, chosen in Go. -/

/-- `update <table> set flag = 1, mtime = $1 where id = $2`, with `$1` bound to
`GetCurrentTimeFormat()`. -/
def softDelete (idField : String) : Stmt :=
  .update [("flag", .lit (.int 1)), ("mtime", .now)] [("id", .input idField)]

def createRoutingConfigV2Tx : List Stmt :=
  [.delete [("id", .input "ID"), ("flag", .lit (.int 1))],
   .insert [("id", .input "ID"), ("namespace", .input "Namespace"), ("name", .input "Name"),
     ("policy", .input "Policy"), ("config", .input "Config"), ("enable", .input "enable"),
     ("priority", .input "Priority"), ("revision", .input "Revision"),
     ("description", .input "Description"), ("ctime", .now), ("mtime", .now),
     ("etime", .input "etime")]]

def updateRoutingConfigV2Tx : Stmt :=
  .update [("name", .input "Name"), ("policy", .input "Policy"), ("config", .input "Config"),
    ("revision", .input "Revision"), ("priority", .input "Priority"),
    ("description", .input "Description"), ("mtime", .now)] [("id", .input "ID")]

def enableRouting : Stmt :=
  .update [("enable", .input "enable"), ("revision", .input "Revision"), ("mtime", .now),
    ("etime", .input "etime")] [("id", .input "ID")]

def deleteRoutingConfigV2 : Stmt := softDelete "ruleID"

/-- `limitToEtimeStr`: `emptyEnableTime` for a disabled limit, else `sysdate()`, which
PostgreSQL does not have; `none` stands for that text. -/
def limitToEtimeStr (disable : Bool) : Option Expr :=
  if disable then some (.input "emptyEnableTime") else none

def createRateLimit (disable : Bool) : Stmt :=
  match limitToEtimeStr disable with
  | some etime =>
    .insert [("id", .input "ID"), ("name", .input "Name"), ("disable", .input "Disable"),
      ("service_id", .input "ServiceID"), ("method", .input "Method"), ("labels", .input "Labels"),
      ("priority", .input "Priority"), ("rule", .input "Rule"), ("revision", .input "Revision"),
      ("ctime", .now), ("mtime", .now), ("etime", etime)]
  | none => .refused

def updateRateLimit (disable : Bool) : Stmt :=
  match limitToEtimeStr disable with
  | some etime =>
    .update [("name", .input "Name"), ("service_id", .input "ServiceID"),
      ("disable", .input "Disable"), ("method", .input "Method"), ("labels", .input "Labels"),
      ("priority", .input "Priority"), ("rule", .input "Rule"), ("revision", .input "Revision"),
      ("mtime", .now), ("etime", etime)] [("id", .input "ID")]
  | none => .refused

def enableRateLimit (disable : Bool) : Stmt :=
  match limitToEtimeStr disable with
  | some etime =>
    .update [("disable", .input "Disable"), ("revision", .input "Revision"), ("mtime", .now),
      ("etime", etime)] [("id", .input "ID")]
  | none => .refused

def deleteRateLimit : Stmt := softDelete "ID"

def createCircuitBreakerRule : Stmt :=
  .insert [("id", .input "ID"), ("name", .input "Name"), ("namespace", .input "Namespace"),
    ("enable", .input "Enable"), ("revision", .input "Revision"),
    ("description", .input "Description"), ("level", .input "Level"),
    ("src_service", .input "SrcService"), ("src_namespace", .input "SrcNamespace"),
    ("dst_service", .input "DstService"), ("dst_namespace", .input "DstNamespace"),
    ("dst_method", .input "DstMethod"), ("config", .input "Rule"), ("ctime", .now),
    ("mtime", .now), ("etime", .input "etime")]

def updateCircuitBreakerRule : Stmt :=
  .update [("name", .input "Name"), ("namespace", .input "Namespace"),
    ("enable", .input "Enable"), ("revision", .input "Revision"),
    ("description", .input "Description"), ("level", .input "Level"),
    ("src_service", .input "SrcService"), ("src_namespace", .input "SrcNamespace"),
    ("dst_service", .input "DstService"), ("dst_namespace", .input "DstNamespace"),
    ("dst_method", .input "DstMethod"), ("config", .input "Rule"), ("mtime", .now),
    ("etime", .input "etime")] [("id", .input "ID")]

def deleteCircuitBreakerRule : Stmt := softDelete "id"

def enableCircuitBreakerRule : Stmt :=
  .update [("enable", .input "Enable"), ("revision", .input "Revision"), ("mtime", .now),
    ("etime", .input "etime")] [("id", .input "ID")]

/-- The `config_file_release` statements are MySQL text: `?` placeholders, the
backquoted column group and `sysdate()`. PostgreSQL refuses each of them. -/
def createConfigFileRelease : Stmt := .refused

def updateConfigFileRelease : Stmt := .refused

def deleteConfigFileRelease : Stmt := .refused

/-- The `user` statements name the table unquoted, and `USER` is reserved in PostgreSQL,
so each is refused. -/
def addUser : Stmt := .refused

def updateUser : Stmt := .refused

def deleteUser : Stmt := .refused

def cleanInValidUser : Stmt := .refused

def routingConfigV2Writes : List Stmt :=
  createRoutingConfigV2Tx ++ [updateRoutingConfigV2Tx, enableRouting, deleteRoutingConfigV2]

def rateLimitWrites : List Stmt :=
  [true, false].flatMap (fun d => [createRateLimit d, updateRateLimit d, enableRateLimit d]) ++
    [deleteRateLimit]

def circuitBreakerRuleWrites : List Stmt :=
  [createCircuitBreakerRule, updateCircuitBreakerRule, deleteCircuitBreakerRule,
    enableCircuitBreakerRule]

def configFileReleaseWrites : List Stmt :=
  [createConfigFileRelease, updateConfigFileRelease, deleteConfigFileRelease]

def userWrites : List Stmt := [addUser, updateUser, deleteUser, cleanInValidUser]

end Writes

section Pulls

/-- `... where mtime > $1`, and `and flag != 1` on the first pull. -/
def mtimeAfter (mtime : Int) (firstUpdate : Bool) (tbl : List Row) : List Row :=
  tbl.filter fun r => pulled "mtime" false mtime r && (!firstUpdate || r "flag" != .int 1)

def getRoutingConfigsV2ForCache := mtimeAfter
def getRateLimitsForCache := mtimeAfter
def getCircuitBreakerRulesForCache := mtimeAfter

/-- `... where modify_time > FROM_UNIXTIME(?)`, with `IFNULL` and `UNIX_TIMESTAMP` in its
column list: MySQL text that PostgreSQL refuses, so every pull fails. -/
def findConfigFileReleaseByModifyTimeAfter (_modifyTime : Int) (_tbl : List Row) :
    Option (List Row) := none

/-- `... FROM user u`: unquoted, `user` is PostgreSQL's `USER` function, a one-row
relation with no column `u.id` or `u.mtime`, so every pull fails. -/
def getUsersForCache (_mtime : Int) (_firstUpdate : Bool) (_tbl : List Row) :
    Option (List Row) := none

end Pulls

section Runs

variable {now t : Int} {rec : String → Val} {timeCol : String} {inclusive : Bool} {tbl : List Row}

/-- A row after a statement was there before, untouched, or is one the statement wrote. -/
theorem Stmt.mem_exec {s : Stmt} {r : Row} (h : r ∈ s.exec now rec tbl) :
    r ∈ tbl ∨ r ∈ s.written now rec tbl := by
  cases s with
  | update set cond =>
    obtain ⟨r0, h0, rfl⟩ := List.mem_map.mp h
    by_cases hm : matchesCond now rec cond r0
    · exact .inr (by simp only [hm, if_true]; exact List.mem_map_of_mem _ (List.mem_filter.mpr ⟨h0, hm⟩))
    · exact .inl (by simpa [hm] using h0)
  | insert values => simpa [Stmt.exec, Stmt.written] using h
  | delete cond => exact .inl (List.mem_filter.mp h).1
  | refused => exact .inl h

theorem pulled_of_time {r : Row} (hr : r timeCol = .time now) (ht : t < now) :
    pulled timeCol inclusive t r = true := by
  cases inclusive <;> simp [pulled, hr, ht, Int.le_of_lt ht]

theorem assign_of_lookup_now {set : List (String × Expr)} (h : set.lookup timeCol = some .now)
    (r : Row) : assign now rec set r timeCol = .time now := by
  simp [assign, h, Expr.eval]

/-- Every row a refreshing statement writes is returned by a pull at a watermark before it. -/
theorem Stmt.pulled_of_written {s : Stmt} (hs : s.refreshes timeCol) (ht : t < now) {r : Row}
    (hr : r ∈ s.written now rec tbl) : pulled timeCol inclusive t r = true := by
  cases s with
  | update set cond =>
    obtain ⟨r0, -, rfl⟩ := List.mem_map.mp hr
    exact pulled_of_time (assign_of_lookup_now (by simpa [Stmt.refreshes] using hs) r0) ht
  | insert values =>
    rw [Stmt.written, List.mem_singleton] at hr
    exact hr ▸ pulled_of_time (assign_of_lookup_now (by simpa [Stmt.refreshes] using hs) _) ht
  | delete cond | refused => simp [Stmt.written] at hr

/-- After a refreshing statement run after the watermark, a pull at the watermark misses
only rows that were there before, untouched. -/
theorem Stmt.mem_of_not_pulled {s : Stmt} (hs : s.refreshes timeCol) (ht : t < now) {r : Row}
    (hr : r ∈ s.exec now rec tbl) (hp : pulled timeCol inclusive t r = false) : r ∈ tbl :=
  (Stmt.mem_exec hr).resolve_right fun hw => by simp [Stmt.pulled_of_written hs ht hw] at hp

/-- A run of writes, each with the time it runs and the caller's record. -/
def runWrites (tbl : List Row) (ws : List (Stmt × Int × (String → Val))) : List Row :=
  ws.foldl (fun tbl w => w.1.exec w.2.1 w.2.2 tbl) tbl

theorem runWrites_mem_of_not_pulled (ws : List (Stmt × Int × (String → Val)))
    (hws : ∀ w ∈ ws, w.1.refreshes timeCol ∧ t < w.2.1) (tbl : List Row) {r : Row}
    (hr : r ∈ runWrites tbl ws) (hp : pulled timeCol inclusive t r = false) : r ∈ tbl := by
  induction ws generalizing tbl with
  | nil => exact hr
  | cons w ws ih =>
    have hw := hws w (List.mem_cons_self _ _)
    exact Stmt.mem_of_not_pulled hw.1 hw.2
      (ih (fun w' h' => hws w' (List.mem_cons_of_mem _ h')) _ hr) hp

end Runs

/-- The routing, rate-limit and circuit-breaker writes set `mtime` to their own time, and
PostgreSQL refuses every `user` and `config_file_release` write. -/
theorem cached_writes_refresh :
    (∀ s ∈ routingConfigV2Writes ++ rateLimitWrites ++ circuitBreakerRuleWrites,
      s.refreshes "mtime") ∧ ∀ s ∈ userWrites ++ configFileReleaseWrites, s = .refused := by
  decide

theorem runWrites_refused (ws : List (Stmt × Int × (String → Val))) (hws : ∀ w ∈ ws, w.1 = .refused)
    (tbl : List Row) : runWrites tbl ws = tbl := by
  induction ws with
  | nil => rfl
  | cons w ws ih =>
    rw [runWrites, List.foldl_cons, hws w (List.mem_cons_self _ _)]
    exact ih fun w' h' => hws w' (List.mem_cons_of_mem _ h')

/-- After writes each later than the watermark, an incremental pull misses only rows that
were there before and that no write touched. -/
theorem mtimeAfter_misses_only_untouched {t : Int} (ws : List (Stmt × Int × (String → Val)))
    (hws : ∀ w ∈ ws, w.1 ∈ routingConfigV2Writes ++ rateLimitWrites ++ circuitBreakerRuleWrites ∧
      t < w.2.1) (tbl : List Row) {r : Row} (hr : r ∈ runWrites tbl ws)
    (hp : r ∉ mtimeAfter t false (runWrites tbl ws)) : r ∈ tbl :=
  runWrites_mem_of_not_pulled ws (fun w hw => ⟨cached_writes_refresh.1 _ (hws w hw).1, (hws w hw).2⟩)
    tbl hr (by simpa [mtimeAfter, hr] using hp)

/-- A `DeleteRoutingConfigV2` of `r2` at 200 leaves `r1`, last modified at 100, as it
was: the pull at 150 misses it. -/
theorem routing_delete_keeps_other_row :
    (let r0 : Row := fun c => ([("id", Val.str "r1"), ("flag", .int 0), ("mtime", .time 100)].lookup c).getD .null
     let ws := [(deleteRoutingConfigV2, (200 : Int), fun f => if f = "ruleID" then Val.str "r2" else .null)]
     (∀ w ∈ ws, w.1 ∈ routingConfigV2Writes ++ rateLimitWrites ++ circuitBreakerRuleWrites ∧
        (150 : Int) < w.2.1) ∧
      r0 ∈ runWrites [r0] ws ∧ r0 ∉ mtimeAfter 150 false (runWrites [r0] ws) ∧ r0 ∈ [r0]) := by
  intro r0 ws
  have hrun : runWrites [r0] ws = [r0] := rfl
  have hr : r0 ∈ runWrites [r0] ws := hrun ▸ List.mem_singleton_self r0
  have hp : r0 ∉ mtimeAfter 150 false (runWrites [r0] ws) := by
    rw [hrun, show mtimeAfter 150 false [r0] = [] from rfl]; exact List.not_mem_nil _
  exact ⟨by decide, hr, hp, mtimeAfter_misses_only_untouched ws (by decide) [r0] hr hp⟩

/-- Over writes after the watermark, the routing, rate-limit and circuit-breaker pulls miss
no changed row; `user` and `config_file_release` writes change nothing, their pulls fail. -/
theorem incremental_pulls_miss_no_change {t : Int} (tbl : List Row)
    (ws : List (Stmt × Int × (String → Val))) (hws : ∀ w ∈ ws, t < w.2.1) :
    ((∀ w ∈ ws, w.1 ∈ routingConfigV2Writes ++ rateLimitWrites ++ circuitBreakerRuleWrites) →
      ∀ r ∈ runWrites tbl ws, r ∉ mtimeAfter t false (runWrites tbl ws) → r ∈ tbl) ∧
    ((∀ w ∈ ws, w.1 ∈ userWrites ++ configFileReleaseWrites) → runWrites tbl ws = tbl) ∧
    (∀ firstUpdate, getUsersForCache t firstUpdate (runWrites tbl ws) = none) ∧
    findConfigFileReleaseByModifyTimeAfter t (runWrites tbl ws) = none := by
  refine ⟨fun hw r hr hp => ?_, fun hw => ?_, fun _ => rfl, rfl⟩
  · exact runWrites_mem_of_not_pulled ws
      (fun w h => ⟨cached_writes_refresh.1 _ (hw w h), hws w h⟩) tbl hr (by simpa [mtimeAfter, hr] using hp)
  · exact runWrites_refused ws (fun w h => cached_writes_refresh.2 _ (hw w h)) tbl

/-- A rate limit enabled at 200 is refused, and a routing rule deleted at 200 is pulled
at 150. -/
theorem incremental_pulls_miss_no_change_at_two_hundred :
    (let r0 : Row := fun c => ([("id", Val.str "r1"), ("flag", .int 0), ("mtime", .time 100)].lookup c).getD .null
     let ws := [(enableRateLimit false, (200 : Int), fun f => if f = "ID" then Val.str "r1" else .null),
       (deleteRoutingConfigV2, (200 : Int), fun f => if f = "ruleID" then Val.str "r1" else .null)]
     (∀ w ∈ ws, (150 : Int) < w.2.1) ∧
     (((∀ w ∈ ws, w.1 ∈ routingConfigV2Writes ++ rateLimitWrites ++ circuitBreakerRuleWrites) →
        ∀ r ∈ runWrites [r0] ws, r ∉ mtimeAfter 150 false (runWrites [r0] ws) → r ∈ [r0]) ∧
      ((∀ w ∈ ws, w.1 ∈ userWrites ++ configFileReleaseWrites) → runWrites [r0] ws = [r0]) ∧
      (∀ firstUpdate, getUsersForCache 150 firstUpdate (runWrites [r0] ws) = none) ∧
      findConfigFileReleaseByModifyTimeAfter 150 (runWrites [r0] ws) = none)) := by
  intro r0 ws
  exact ⟨by decide, incremental_pulls_miss_no_change [r0] ws (by decide)⟩

end PolarisStore.Postgresql
