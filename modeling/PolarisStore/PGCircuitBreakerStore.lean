import Mathlib.Data.List.Nodup
import PolarisStore.PGSqlText
import PolarisStore.PGElectionStore

/-! The circuit-breaker store of `circuitbreaker_config.go`: rule versions in
`circuitbreaker_rule`, keyed by `(id, version)`, and the binding of each service to one
rule version in `circuitbreaker_rule_relation`, keyed by `service_id`. Each call runs in
`processWithTransaction`, whose deferred `Rollback` undoes a call that fails; the
release's cleanup of unbound relations runs on `c.master`, outside the transaction.
The `service` table belongs to other stores. -/
namespace PolarisStore.Postgresql

/-- The record `CreateCircuitBreaker` writes. -/
structure CircuitBreaker where
  id : String
  version : String
  name : String
  «namespace» : String
  business : String
  department : String
  comment : String
  inbounds : String
  outbounds : String
  token : String
  owner : String
  revision : String
deriving DecidableEq, Repr

/-- A row of `circuitbreaker_rule`; `flag = 1` marks it deleted. -/
structure CircuitBreakerRow where
  cb : CircuitBreaker
  flag : Nat
  ctime : Int
  mtime : Int
deriving DecidableEq, Repr

/-- The primary key of `circuitbreaker_rule`, which `cleanCircuitBreaker` frees before
an insert. -/
def CircuitBreakerRow.key (r : CircuitBreakerRow) : String × String := (r.cb.id, r.cb.version)

/-- The binding `ReleaseCircuitBreaker` writes. -/
structure CircuitBreakerRelation where
  serviceId : String
  ruleId : String
  ruleVersion : String
deriving DecidableEq, Repr

/-- A row of `circuitbreaker_rule_relation`, keyed by `service_id`. -/
structure CircuitBreakerRelationRow where
  rel : CircuitBreakerRelation
  flag : Nat
  ctime : Int
  mtime : Int
deriving DecidableEq, Repr

/-- The columns of `service` the store reads. -/
structure ServiceRow where
  id : String
  name : String
  «namespace» : String
  flag : Nat
deriving DecidableEq, Repr

structure CircuitBreakerTables where
  rule : List CircuitBreakerRow
  relation : List CircuitBreakerRelationRow
  service : List ServiceRow
deriving DecidableEq, Repr

/-- The codes the store passes to `store.NewStatusError`. -/
inductive StatusCode where
  | notFoundMasterConfig
  | notFoundTagConfigOrService
deriving DecidableEq, Repr

inductive CircuitBreakerError where
  /-- An error the database reports, through `store.Error`. -/
  | store (e : StoreError)
  /-- An `INSERT` on the primary key of a row already there. -/
  | duplicateKey
  /-- `Exec` with `got` values for a statement of `required` parameters. -/
  | bindCount (got required : Nat)
  | status (code : StatusCode) (msg : String)
  /-- A statement PostgreSQL refuses to prepare. -/
  | refused
deriving DecidableEq, Repr

/-- `checkDataBaseAffectedRows(result, counts...)` is absent from the sources; taken as
its callers read it: the error `AffectedRowsNotMatch` unless the count is one of `counts`. -/
def checkDataBaseAffectedRows (affected : Nat) (counts : List Nat) : Bool := affected ∈ counts

/-- `processWithTransaction`: commit the statements' tables, or keep `db` on an error;
`fault` is one the database reports for a statement or the `Commit`. -/
def commitOrRollback (fault : Option StoreError) (db : CircuitBreakerTables)
    (tx : Except CircuitBreakerError CircuitBreakerTables) :
    CircuitBreakerTables × Option CircuitBreakerError :=
  match fault, tx with
  | some e, _ => (db, some (.store e))
  | none, .ok db' => (db', none)
  | none, .error e => (db, some e)

/-- An `INSERT` of `row` into a table keyed by `key`, refused on a key already there. -/
def insertKeyed {α κ : Type} [DecidableEq κ] (key : α → κ) (tbl : List α) (row : α) :
    Except CircuitBreakerError (List α) :=
  if tbl.any (key · = key row) then .error .duplicateKey else .ok (tbl ++ [row])

section Writes

variable (now : Int)

/-- `cleanCircuitBreaker(tx, id, version)`:
`delete from circuitbreaker_rule where id = $1 and version = $2 and flag = 1`. -/
def cleanCircuitBreaker (id version : String) (rule : List CircuitBreakerRow) :
    List CircuitBreakerRow :=
  rule.filter fun r => !(r.cb.id = id ∧ r.cb.version = version ∧ r.flag = 1)

/-- The statement `tagCircuitBreaker` prepares: the fields spliced into quoted `%s`, and `$1`.
A field holding a quote ends its literal early, past what this model reads. -/
def tagCircuitBreakerSql (nowText : String) (cb : CircuitBreaker) : Sql :=
  [.lit "insert into circuitbreaker_rule\n\t\t\t(id, version, name, namespace, business, department, comment, inbounds, \n\t\t\toutbounds, token, owner, revision, ctime, mtime) \n\t\t\tselect \x27",
    .key cb.id, .lit "\x27, \x27", .key cb.version, .lit "\x27, \x27", .key cb.name, .lit "\x27, \x27",
    .key cb.namespace, .lit "\x27, \x27", .key cb.business, .lit "\x27, \x27", .key cb.department,
    .lit "\x27, \x27", .key cb.comment, .lit "\x27, \x27", .key cb.inbounds, .lit "\x27, \n\t\t\t\x27",
    .key cb.outbounds, .lit "\x27, \x27", .key cb.token, .lit "\x27, \x27", .key cb.owner,
    .lit "\x27, \x27", .key cb.revision, .lit "\x27, \x27", .key nowText, .lit "\x27, \x27", .key nowText,
    .lit "\x27 from circuitbreaker_rule \n\t\t\twhere id = ", .param 1,
    .lit " and version = \x27master\x27"]

/-- `tagCircuitBreaker(tx, cb)`: `Exec(str, cb.ID)` copies `cb` once per `master` row of id
`$1`, one row required; the new row's `flag` is the schema's, taken as 0. -/
def tagCircuitBreaker (nowText : String) (cb : CircuitBreaker) (rule : List CircuitBreakerRow) :
    Except CircuitBreakerError (List CircuitBreakerRow) :=
  let str := tagCircuitBreakerSql nowText cb
  match bindArgs str [Arg.str str.render, Arg.str cb.id] with
  | .error (got, required) => .error (.bindCount got required)
  | .ok vals =>
    let masters := rule.filter fun r => some (Arg.str r.cb.id) = vals.head? ∧ r.cb.version = "master"
    match masters.foldlM (fun t _ => insertKeyed CircuitBreakerRow.key t ⟨cb, 0, now, now⟩) rule with
    | .error e => .error e
    | .ok rule' =>
      if checkDataBaseAffectedRows masters.length [1] then .ok rule'
      else .error (.status .notFoundMasterConfig "not found master config")

/-- `releaseCircuitBreaker(tx, cbr)`: MySQL's `on DUPLICATE key update`, which PostgreSQL
cannot parse whatever the spliced fields hold. -/
def releaseCircuitBreaker (_cbr : CircuitBreakerRelation) : Except CircuitBreakerError Unit :=
  .error .refused

namespace CircuitBreakerStore

variable (fault : Option StoreError)

/-- `CreateCircuitBreaker(cb)`: free a deleted `(id, version)`, then insert `cb` live. -/
def createCircuitBreaker (cb : CircuitBreaker) (db : CircuitBreakerTables) :
    CircuitBreakerTables × Option CircuitBreakerError :=
  commitOrRollback fault db <| (fun rule => { db with rule := rule }) <$>
    insertKeyed CircuitBreakerRow.key (cleanCircuitBreaker cb.id cb.version db.rule) ⟨cb, 0, now, now⟩

/-- `TagCircuitBreaker(cb)`: free a deleted `(id, version)`, then `tagCircuitBreaker`. -/
def tagCircuitBreaker (nowText : String) (cb : CircuitBreaker) (db : CircuitBreakerTables) :
    CircuitBreakerTables × Option CircuitBreakerError :=
  commitOrRollback fault db <| (fun rule => { db with rule := rule }) <$>
    Postgresql.tagCircuitBreaker now nowText cb (cleanCircuitBreaker cb.id cb.version db.rule)

/-- `cleanCircuitBreakerRelation(cbr)`:
`delete from circuitbreaker_rule_relation where service_id = $1 and flag = 1`. -/
def cleanCircuitBreakerRelation (serviceId : String) (relation : List CircuitBreakerRelationRow) :
    List CircuitBreakerRelationRow :=
  relation.filter fun x => !(x.rel.serviceId = serviceId ∧ x.flag = 1)

/-- `ReleaseCircuitBreaker(cbr)`: `fault` fails `Begin` or the cleanup, an early return;
otherwise the cleanup commits and the release statement fails. -/
def releaseCircuitBreaker (cbr : CircuitBreakerRelation) (db : CircuitBreakerTables) :
    CircuitBreakerTables × Option CircuitBreakerError :=
  match fault with
  | some e => (db, some (.store e))
  | none =>
    let db := { db with relation := cleanCircuitBreakerRelation cbr.serviceId db.relation }
    commitOrRollback none db ((fun _ => db) <$> Postgresql.releaseCircuitBreaker cbr)

/-- `UnbindCircuitBreaker(serviceID, ruleID, ruleVersion)`: `update circuitbreaker_rule_relation
set flag = 1, mtime = $1 where service_id = $2 and rule_id = $3 and rule_version = $4`. -/
def unbindCircuitBreaker (cbr : CircuitBreakerRelation) (db : CircuitBreakerTables) :
    CircuitBreakerTables × Option CircuitBreakerError :=
  commitOrRollback fault db <| .ok { db with relation := db.relation.map fun x =>
    if x.rel = cbr then { x with flag := 1, mtime := now } else x }

/-- `DeleteTagCircuitBreaker(id, version)`: mark `(id, version)` deleted unless `id` is
among the rule ids of its live relations. -/
def deleteTagCircuitBreaker (id version : String) (db : CircuitBreakerTables) :
    CircuitBreakerTables × Option CircuitBreakerError :=
  let bound := (db.relation.filter fun x =>
    x.rel.ruleId = id ∧ x.rel.ruleVersion = version ∧ x.flag = 0).map (·.rel.ruleId)
  commitOrRollback fault db <| .ok { db with rule := db.rule.map fun r =>
    if r.cb.id = id ∧ r.cb.version = version ∧ r.cb.id ∉ bound then { r with flag := 1, mtime := now }
    else r }

/-- `DeleteMasterCircuitBreaker(id)`: mark `(id, master)` deleted unless a live relation
names any version of `id`. -/
def deleteMasterCircuitBreaker (id : String) (db : CircuitBreakerTables) :
    CircuitBreakerTables × Option CircuitBreakerError :=
  let bound := (db.relation.filter fun x => x.rel.ruleId = id ∧ x.flag = 0).map (·.rel.ruleId)
  commitOrRollback fault db <| .ok { db with rule := db.rule.map fun r =>
    if r.cb.id = id ∧ r.cb.version = "master" ∧ r.cb.id ∉ bound then { r with flag := 1, mtime := now }
    else r }

/-- `UpdateCircuitBreaker(cb)`: rewrite the record's fields of `(id, version)` but its
name and namespace. -/
def updateCircuitBreaker (cb : CircuitBreaker) (db : CircuitBreakerTables) :
    CircuitBreakerTables × Option CircuitBreakerError :=
  let fields (c : CircuitBreaker) : CircuitBreaker :=
    { c with business := cb.business, department := cb.department, comment := cb.comment
             inbounds := cb.inbounds, outbounds := cb.outbounds, token := cb.token
             owner := cb.owner, revision := cb.revision }
  commitOrRollback fault db <| .ok { db with rule := db.rule.map fun r =>
    if r.cb.id = cb.id ∧ r.cb.version = cb.version then { r with cb := fields r.cb, mtime := now }
    else r }

end CircuitBreakerStore

end Writes

namespace CircuitBreakerStore

/-- `GetCircuitBreaker(id, version)`: its query selects `COALESCE(comment, "")`, and `""`
is an empty quoted identifier, which PostgreSQL refuses, so every call fails. -/
def getCircuitBreaker (_id _version : String) (_db : CircuitBreakerTables) :
    Except CircuitBreakerError (Option CircuitBreaker) :=
  .error .refused

/-- `GetCircuitBreakerRelation(ruleID, ruleVersion)`: the live relations of a version. -/
def getCircuitBreakerRelation (ruleId ruleVersion : String) (db : CircuitBreakerTables) :
    List CircuitBreakerRelation :=
  (db.relation.filter fun x => x.rel.ruleId = ruleId ∧ x.rel.ruleVersion = ruleVersion ∧ x.flag = 0).map
    (·.rel)

/-- `GetCircuitBreakerMasterRelation(ruleID)`: the live relations of every version. -/
def getCircuitBreakerMasterRelation (ruleId : String) (db : CircuitBreakerTables) :
    List CircuitBreakerRelation :=
  (db.relation.filter fun x => x.rel.ruleId = ruleId ∧ x.flag = 0).map (·.rel)

/-- `GetCircuitBreakersByService(name, namespace)`: the first row of the live join, or
`nil`; the query leaves `token` out. -/
def getCircuitBreakersByService (name «namespace» : String) (db : CircuitBreakerTables) :
    Option CircuitBreaker :=
  ((db.service.filter fun s => s.name = name ∧ s.namespace = «namespace» ∧ s.flag = 0).flatMap fun s =>
    (db.relation.filter fun x => x.rel.serviceId = s.id ∧ x.flag = 0).flatMap fun x =>
      (db.rule.filter fun r =>
        r.cb.id = x.rel.ruleId ∧ r.cb.version = x.rel.ruleVersion ∧ r.flag = 0).map fun r =>
          { r.cb with token := "" }).head?

end CircuitBreakerStore

section Keys

variable {α κ : Type} {key : α → κ}

theorem insertKeyed_eq_ok [DecidableEq κ] {tbl tbl' : List α} {row : α} (h : insertKeyed key tbl row = .ok tbl') :
    tbl' = tbl ++ [row] ∧ ∀ x ∈ tbl, key x ≠ key row := by
  unfold insertKeyed at h
  by_cases hk : tbl.any (key · = key row)
  · rw [if_pos hk] at h; cases h
  · rw [if_neg hk] at h; cases h
    exact ⟨rfl, by simpa using hk⟩

theorem nodup_map_append_fresh {tbl : List α} {row : α} (hn : (tbl.map key).Nodup)
    (hf : ∀ x ∈ tbl, key x ≠ key row) : ((tbl ++ [row]).map key).Nodup := by
  simpa [List.nodup_append, hn] using fun x hx h => hf x hx h

theorem map_map_key {l : List α} {f : α → α} (hf : ∀ x, key (f x) = key x) :
    (l.map f).map key = l.map key := by
  simp [hf]

end Keys

/-- What every call keeps: both tables' keys are unique, and every live relation names a
live rule version. -/
structure CircuitBreakerInv (db : CircuitBreakerTables) : Prop where
  ruleKeys : (db.rule.map CircuitBreakerRow.key).Nodup
  relationKeys : (db.relation.map (·.rel.serviceId)).Nodup
  bound : ∀ x ∈ db.relation, x.flag = 0 →
    ∃ r ∈ db.rule, r.key = (x.rel.ruleId, x.rel.ruleVersion) ∧ r.flag = 0


section Calls

variable {db : CircuitBreakerTables} (now : Int) (fault : Option StoreError)

/-- A call keeps a property of the tables when the tables it would commit have it. -/
theorem commitOrRollback_of {P : CircuitBreakerTables → Prop} {fault : Option StoreError}
    {tx : Except CircuitBreakerError CircuitBreakerTables} (hdb : P db)
    (htx : ∀ db', tx = .ok db' → P db') : P (commitOrRollback fault db tx).1 := by
  cases fault <;> cases tx <;> first | exact hdb | exact htx _ rfl

theorem commitOrRollback_cases {fault : Option StoreError}
    {tx : Except CircuitBreakerError CircuitBreakerTables} :
    (∃ e, commitOrRollback fault db tx = (db, some e)) ∨
      ∃ db', tx = .ok db' ∧ commitOrRollback fault db tx = (db', none) := by
  cases fault <;> cases tx <;> simp [commitOrRollback]

/-- A new rule table keeps the invariant when its keys are unique and every live rule
version a live relation names is still there, live, under the same key. -/
theorem CircuitBreakerInv.of_rule (h : CircuitBreakerInv db) {rule : List CircuitBreakerRow}
    (hk : (rule.map CircuitBreakerRow.key).Nodup)
    (hr : ∀ x ∈ db.relation, x.flag = 0 → ∀ r ∈ db.rule,
      r.key = (x.rel.ruleId, x.rel.ruleVersion) → r.flag = 0 → ∃ r' ∈ rule, r'.key = r.key ∧ r'.flag = 0) :
    CircuitBreakerInv { db with rule := rule } where
  ruleKeys := hk
  relationKeys := h.relationKeys
  bound x hx hf :=
    let ⟨r, hm, hkey, h0⟩ := h.bound x hx hf
    let ⟨r', hm', hk', h0'⟩ := hr x hx hf r hm hkey h0
    ⟨r', hm', hk'.trans hkey, h0'⟩

/-- A new relation table keeps the invariant when its keys are unique and each of its live
rows was there or names a live rule version. -/
theorem CircuitBreakerInv.of_relation (h : CircuitBreakerInv db)
    {relation : List CircuitBreakerRelationRow} (hk : (relation.map (·.rel.serviceId)).Nodup)
    (hr : ∀ x ∈ relation, x.flag = 0 → x ∈ db.relation ∨
      ∃ r ∈ db.rule, r.key = (x.rel.ruleId, x.rel.ruleVersion) ∧ r.flag = 0) :
    CircuitBreakerInv { db with relation := relation } where
  ruleKeys := h.ruleKeys
  relationKeys := hk
  bound x hx hf := (hr x hx hf).elim (fun hm => h.bound x hm hf) id

theorem CircuitBreakerInv.create (h : CircuitBreakerInv db) (cb : CircuitBreaker) :
    CircuitBreakerInv (CircuitBreakerStore.createCircuitBreaker now fault cb db).1 := by
  refine commitOrRollback_of h fun db' hdb' => ?_
  cases hi : insertKeyed CircuitBreakerRow.key (cleanCircuitBreaker cb.id cb.version db.rule)
      ⟨cb, 0, now, now⟩ with
  | error e => rw [hi] at hdb'; cases hdb'
  | ok rule =>
    rw [hi] at hdb'; cases hdb'
    obtain ⟨rfl, hfresh⟩ := insertKeyed_eq_ok hi
    refine h.of_rule (nodup_map_append_fresh (h.ruleKeys.sublist ((List.filter_sublist _).map _)) hfresh)
      fun _ _ _ r hr _ h0 => ⟨r, List.mem_append_left _ (List.mem_filter.2 ⟨hr, by simp [h0]⟩), rfl, h0⟩

/-- The tag statement has the one placeholder `$1`, and `Exec` hands it two values. -/
theorem tagCircuitBreaker_eq (nowText : String) (cb : CircuitBreaker) (rule : List CircuitBreakerRow) :
    tagCircuitBreaker now nowText cb rule = .error (.bindCount 2 1) := by
  simp [tagCircuitBreaker, bindArgs, Sql.paramCount, tagCircuitBreakerSql]

theorem CircuitBreakerInv.tag (h : CircuitBreakerInv db) (nowText : String) (cb : CircuitBreaker) :
    CircuitBreakerInv (CircuitBreakerStore.tagCircuitBreaker now fault nowText cb db).1 :=
  commitOrRollback_of h fun _ hdb' => by
    rw [tagCircuitBreaker_eq] at hdb'; cases hdb'

theorem CircuitBreakerInv.unbind (h : CircuitBreakerInv db) (cbr : CircuitBreakerRelation) :
    CircuitBreakerInv (CircuitBreakerStore.unbindCircuitBreaker now fault cbr db).1 := by
  refine commitOrRollback_of h fun db' hdb' => ?_
  cases hdb'
  refine h.of_relation (by rw [map_map_key fun x => by split <;> rfl]; exact h.relationKeys)
    fun x hx hf => .inl ?_
  obtain ⟨y, hy, rfl⟩ := List.mem_map.1 hx
  by_cases hc : y.rel = cbr
  · rw [if_pos hc] at hf; cases hf
  · rw [if_neg hc]; exact hy

theorem CircuitBreakerInv.deleteTag (h : CircuitBreakerInv db) (id version : String) :
    CircuitBreakerInv (CircuitBreakerStore.deleteTagCircuitBreaker now fault id version db).1 := by
  refine commitOrRollback_of h fun db' hdb' => ?_
  cases hdb'
  refine h.of_rule (by rw [map_map_key fun r => by split <;> rfl]; exact h.ruleKeys)
    fun x hx hf r hr hk h0 => ⟨r, List.mem_map.2 ⟨r, hr, if_neg fun hc => hc.2.2 ?_⟩, rfl, h0⟩
  obtain ⟨hid, hv⟩ := Prod.mk.inj hk
  exact List.mem_map.2 ⟨x, List.mem_filter.2 ⟨hx, by simp [← hid, ← hv, hc.1, hc.2.1, hf]⟩, hid.symm⟩

theorem CircuitBreakerInv.deleteMaster (h : CircuitBreakerInv db) (id : String) :
    CircuitBreakerInv (CircuitBreakerStore.deleteMasterCircuitBreaker now fault id db).1 := by
  refine commitOrRollback_of h fun db' hdb' => ?_
  cases hdb'
  refine h.of_rule (by rw [map_map_key fun r => by split <;> rfl]; exact h.ruleKeys)
    fun x hx hf r hr hk h0 => ⟨r, List.mem_map.2 ⟨r, hr, if_neg fun hc => hc.2.2 ?_⟩, rfl, h0⟩
  obtain ⟨hid, -⟩ := Prod.mk.inj hk
  exact List.mem_map.2 ⟨x, List.mem_filter.2 ⟨hx, by simp [← hid, hc.1, hf]⟩, hid.symm⟩

theorem CircuitBreakerInv.update (h : CircuitBreakerInv db) (cb : CircuitBreaker) :
    CircuitBreakerInv (CircuitBreakerStore.updateCircuitBreaker now fault cb db).1 := by
  refine commitOrRollback_of h fun db' hdb' => ?_
  cases hdb'
  refine h.of_rule (by rw [map_map_key fun r => by split <;> rfl]; exact h.ruleKeys)
    fun _ _ _ r hr _ h0 => ⟨_, List.mem_map_of_mem _ hr, by split <;> rfl, by split <;> exact h0⟩

theorem CircuitBreakerInv.cleanRelation (h : CircuitBreakerInv db) (serviceId : String) :
    CircuitBreakerInv
      { db with relation := CircuitBreakerStore.cleanCircuitBreakerRelation serviceId db.relation } :=
  h.of_relation (h.relationKeys.sublist ((List.filter_sublist _).map _))
    fun _ hx _ => .inl (List.mem_of_mem_filter hx)

/-- `ReleaseCircuitBreaker` always fails; the tables it leaves are those before it, or
those after its cleanup when `Begin` and the cleanup succeeded. -/
theorem CircuitBreakerStore.releaseCircuitBreaker_eq (cbr : CircuitBreakerRelation) :
    CircuitBreakerStore.releaseCircuitBreaker fault cbr db =
      (if fault = none then
        { db with relation := CircuitBreakerStore.cleanCircuitBreakerRelation cbr.serviceId db.relation }
      else db, some (fault.elim .refused .store)) := by
  cases fault <;> rfl

theorem CircuitBreakerInv.release (h : CircuitBreakerInv db) (cbr : CircuitBreakerRelation) :
    CircuitBreakerInv (CircuitBreakerStore.releaseCircuitBreaker fault cbr db).1 := by
  rw [CircuitBreakerStore.releaseCircuitBreaker_eq]
  split
  · exact h.cleanRelation cbr.serviceId
  · exact h

end Calls

/-- A call of the store, or another store's committed change of `service`. -/
inductive CircuitBreakerCall where
  | create (cb : CircuitBreaker)
  | tag (nowText : String) (cb : CircuitBreaker)
  | release (cbr : CircuitBreakerRelation)
  | unbind (cbr : CircuitBreakerRelation)
  | deleteTag (id version : String)
  | deleteMaster (id : String)
  | update (cb : CircuitBreaker)
  | services (f : List ServiceRow → List ServiceRow)

def CircuitBreakerCall.isTag : CircuitBreakerCall → Bool
  | .tag _ _ => true
  | _ => false

/-- A tag call whose record and time text hold no quote, so that each stays inside the
literal the statement splices it into. -/
def CircuitBreakerCall.isQuoteFreeTag : CircuitBreakerCall → Bool
  | .tag nowText cb => (tagCircuitBreakerSql nowText cb).keys.all (quoteCount · = 0)
  | _ => false

namespace CircuitBreakerTables

open CircuitBreakerStore

/-- One call at time `now`, the database reporting `fault`. -/
def step (db : CircuitBreakerTables) : Int × Option StoreError × CircuitBreakerCall → CircuitBreakerTables
  | (now, fault, .create cb) => (createCircuitBreaker now fault cb db).1
  | (now, fault, .tag nowText cb) => (CircuitBreakerStore.tagCircuitBreaker now fault nowText cb db).1
  | (_, fault, .release cbr) => (CircuitBreakerStore.releaseCircuitBreaker fault cbr db).1
  | (now, fault, .unbind cbr) => (unbindCircuitBreaker now fault cbr db).1
  | (now, fault, .deleteTag id version) => (deleteTagCircuitBreaker now fault id version db).1
  | (now, fault, .deleteMaster id) => (deleteMasterCircuitBreaker now fault id db).1
  | (now, fault, .update cb) => (updateCircuitBreaker now fault cb db).1
  | (_, _, .services f) => { db with service := f db.service }

def run (db : CircuitBreakerTables) (calls : List (Int × Option StoreError × CircuitBreakerCall)) :
    CircuitBreakerTables :=
  calls.foldl step db

end CircuitBreakerTables

theorem CircuitBreakerInv.step {db : CircuitBreakerTables} (h : CircuitBreakerInv db)
    (c : Int × Option StoreError × CircuitBreakerCall) : CircuitBreakerInv (db.step c) := by
  obtain ⟨now, fault, c⟩ := c
  cases c with
  | create cb => exact h.create now fault cb
  | tag nowText cb => exact h.tag now fault nowText cb
  | release cbr => exact h.release fault cbr
  | unbind cbr => exact h.unbind now fault cbr
  | deleteTag id version => exact h.deleteTag now fault id version
  | deleteMaster id => exact h.deleteMaster now fault id
  | update cb => exact h.update now fault cb
  | services f => exact ⟨h.ruleKeys, h.relationKeys, h.bound⟩

/-- Over every run of store calls, with any errors and any changes to `service`, both tables
keep unique keys and every live relation names a live rule version. -/
theorem circuit_breaker_relations_stay_bound (db : CircuitBreakerTables) (h : CircuitBreakerInv db)
    (calls : List (Int × Option StoreError × CircuitBreakerCall)) :
    CircuitBreakerInv (db.run calls) := by
  induction calls generalizing db with
  | nil => exact h
  | cons c calls ih => exact ih _ (h.step c)

theorem circuitBreakerInv_empty : CircuitBreakerInv ⟨[], [], []⟩ :=
  ⟨List.nodup_nil, List.nodup_nil, fun _ hx => absurd hx (List.not_mem_nil _)⟩

/-- From empty tables, a rule is created, bound to service `s1`, and a delete of its
master version is refused. -/
theorem circuit_breaker_relations_stay_bound_from_empty :
    CircuitBreakerInv ⟨[], [], []⟩ ∧
    CircuitBreakerInv ((⟨[], [], []⟩ : CircuitBreakerTables).run
      [(10, none, .services fun _ => [⟨"s1", "svc", "ns", 0⟩]),
       (11, none, .create ⟨"r1", "master", "n", "ns", "", "", "", "", "", "", "", "1"⟩),
       (12, none, .release ⟨"s1", "r1", "master"⟩), (13, none, .deleteMaster "r1")]) :=
  ⟨circuitBreakerInv_empty, circuit_breaker_relations_stay_bound _ circuitBreakerInv_empty _⟩

namespace CircuitBreakerTables

@[simp] theorem run_nil (db : CircuitBreakerTables) : db.run [] = db := rfl

@[simp] theorem run_cons (db : CircuitBreakerTables) (c : Int × Option StoreError × CircuitBreakerCall)
    (calls : List (Int × Option StoreError × CircuitBreakerCall)) :
    db.run (c :: calls) = (db.step c).run calls := rfl

end CircuitBreakerTables

section Tag

variable (now : Int) (fault : Option StoreError) (nowText : String) (cb : CircuitBreaker)
  (db : CircuitBreakerTables)

/-- `TagCircuitBreaker` always rolls back: its statement binds two arguments to one
placeholder, so the cleanup it ran in the transaction is undone too. -/
theorem CircuitBreakerStore.tagCircuitBreaker_rollback :
    tagCircuitBreaker now fault nowText cb db = (db, some (fault.elim (.bindCount 2 1) .store)) := by
  cases fault <;>
    simp only [tagCircuitBreaker, Postgresql.tagCircuitBreaker_eq, Except.map_error] <;> rfl

theorem CircuitBreakerTables.step_of_isTag {c : Int × Option StoreError × CircuitBreakerCall}
    (h : c.2.2.isTag) : db.step c = db := by
  obtain ⟨now, fault, c⟩ := c
  cases c <;> simp only [CircuitBreakerCall.isTag, Bool.false_eq_true] at h
  exact congrArg Prod.fst (CircuitBreakerStore.tagCircuitBreaker_rollback ..)

theorem CircuitBreakerTables.run_filter_tags (p : CircuitBreakerCall → Bool) (hp : ∀ c, p c → c.isTag)
    (calls : List (Int × Option StoreError × CircuitBreakerCall)) :
    db.run calls = db.run (calls.filter fun c => !p c.2.2) := by
  induction calls generalizing db with
  | nil => rfl
  | cons c calls ih =>
    by_cases h : p c.2.2
    · rw [List.filter_cons_of_neg (by simp [h]), run_cons, step_of_isTag _ (hp _ h), ih]
    · rw [List.filter_cons_of_pos (by simpa using h), run_cons, run_cons, ih]

/-- For quote-free fields the statement keeps the source's 30 quotes, and `TagCircuitBreaker`
never changes the tables: such tag calls can be dropped from any run. -/
theorem tag_circuit_breaker_never_applies
    (hq : ∀ k ∈ (tagCircuitBreakerSql nowText cb).keys, quoteCount k = 0)
    (calls : List (Int × Option StoreError × CircuitBreakerCall)) :
    (tagCircuitBreakerSql nowText cb).quotes = 30 ∧
    CircuitBreakerStore.tagCircuitBreaker now fault nowText cb db =
      (db, some (fault.elim (.bindCount 2 1) .store)) ∧
    db.run calls = db.run (calls.filter fun c => !c.2.2.isQuoteFreeTag) := by
  simp only [tagCircuitBreakerSql, Sql.keys, List.filterMap_cons, List.filterMap_nil, List.mem_cons,
    List.mem_singleton, forall_eq_or_imp, forall_eq, List.not_mem_nil, false_or] at hq
  refine ⟨?_, CircuitBreakerStore.tagCircuitBreaker_rollback now fault nowText cb db,
    CircuitBreakerTables.run_filter_tags db _ (fun c => by cases c <;> simp [CircuitBreakerCall.isQuoteFreeTag,
      CircuitBreakerCall.isTag]) calls⟩
  simp only [tagCircuitBreakerSql, Sql.quotes, List.foldr_cons, List.foldr_nil, SqlPiece.render, hq]
  decide

/-- A tag of rule `r1` with plain fields. -/
theorem tag_circuit_breaker_never_applies_r1 :
    (∀ k ∈ (tagCircuitBreakerSql "2024-01-01 00:00:00" ⟨"r1", "v1", "cb", "ns", "", "", "", "", "", "", "", "1"⟩).keys,
      quoteCount k = 0) ∧
    (tagCircuitBreakerSql "2024-01-01 00:00:00" ⟨"r1", "v1", "cb", "ns", "", "", "", "", "", "", "", "1"⟩).quotes = 30 ∧
    CircuitBreakerStore.tagCircuitBreaker 5 none "2024-01-01 00:00:00"
        ⟨"r1", "v1", "cb", "ns", "", "", "", "", "", "", "", "1"⟩ ⟨[], [], []⟩ =
      (⟨[], [], []⟩, some (.bindCount 2 1)) ∧
    (⟨[], [], []⟩ : CircuitBreakerTables).run [] = (⟨[], [], []⟩ : CircuitBreakerTables).run [] :=
  ⟨by decide, tag_circuit_breaker_never_applies 5 none "2024-01-01 00:00:00"
    ⟨"r1", "v1", "cb", "ns", "", "", "", "", "", "", "", "1"⟩ ⟨[], [], []⟩ (by decide) []⟩

end Tag

section Delete

variable (now : Int) (db : CircuitBreakerTables) (id version : String)

/-- With no live relation on `(id, version)`, an error-free `DeleteTagCircuitBreaker`
leaves every row of that version marked deleted. -/
theorem CircuitBreakerStore.deleteTagCircuitBreaker_hides
    (hl : getCircuitBreakerRelation id version db = []) {r : CircuitBreakerRow}
    (hr : r ∈ (deleteTagCircuitBreaker now none id version db).1.rule)
    (hid : r.cb.id = id) (hv : r.cb.version = version) : r.flag = 1 := by
  have hb := List.map_eq_nil_iff.1 hl
  obtain ⟨r, -, rfl⟩ := List.mem_map.1 hr
  by_cases hc : r.cb.id = id ∧ r.cb.version = version
  · rw [if_pos ⟨hc.1, hc.2, by rw [hb]; exact List.not_mem_nil _⟩]
  · rw [if_neg fun h => hc ⟨h.1, h.2.1⟩] at hid hv
    exact absurd ⟨hid, hv⟩ hc

end Delete

section Unbind

variable (now : Int) (cbr : CircuitBreakerRelation) (db : CircuitBreakerTables)

theorem CircuitBreakerStore.unbindCircuitBreaker_none :
    unbindCircuitBreaker now none cbr db = ({ db with relation := db.relation.map fun x =>
      if x.rel = cbr then { x with flag := 1, mtime := now } else x }, none) :=
  rfl

/-- After the unbind, the live relations of the rule version are those before but `cbr`. -/
theorem CircuitBreakerStore.getCircuitBreakerRelation_unbind (ruleId ruleVersion : String) :
    getCircuitBreakerRelation ruleId ruleVersion (unbindCircuitBreaker now none cbr db).1 =
      (getCircuitBreakerRelation ruleId ruleVersion db).filter (· ≠ cbr) := by
  rw [unbindCircuitBreaker_none]
  simp only [getCircuitBreakerRelation, List.filter_map, List.map_map, List.filter_filter]
  congr 1
  · funext x
    by_cases hx : x.rel = cbr <;> simp [hx]
  · exact List.filter_congr fun x _ => by by_cases hx : x.rel = cbr <;> simp [hx]

/-- Once its one relation is unbound, a service reads no rule. -/
theorem CircuitBreakerStore.getCircuitBreakersByService_unbind (h : CircuitBreakerInv db) {s : ServiceRow}
    (hid : s.id = cbr.serviceId)
    (hsu : ∀ t ∈ db.service, t.name = s.name → t.namespace = s.namespace → t.flag = 0 → t.id = s.id)
    {x : CircuitBreakerRelationRow} (hx : x ∈ db.relation) (hxr : x.rel = cbr) :
    getCircuitBreakersByService s.name s.namespace (unbindCircuitBreaker now none cbr db).1 = none := by
  rw [unbindCircuitBreaker_none]
  unfold getCircuitBreakersByService
  rw [List.flatMap_eq_nil_iff.2 fun t ht => ?_]
  · rfl
  simp only [List.mem_filter, decide_eq_true_eq] at ht
  rw [List.filter_eq_nil_iff.2 fun y hy => ?_, List.flatMap_nil]
  obtain ⟨y, hy0, rfl⟩ := List.mem_map.1 hy
  by_cases hc : y.rel = cbr
  · simp [hc]
  · rw [if_neg hc]
    simp only [decide_eq_true_eq, not_and]
    intro hys _
    have hyx : y.rel.serviceId = x.rel.serviceId := by rw [hys, hsu t ht.1 ht.2.1 ht.2.2.1 ht.2.2.2, hid, hxr]
    exact hc (List.inj_on_of_nodup_map h.relationKeys hy0 hx hyx ▸ hxr)

end Unbind

/-- `UnbindCircuitBreaker` takes just `cbr` out of `GetCircuitBreakerRelation`, and its
service, alone under its name, then reads no rule. -/
theorem unbind_then_service_reads_no_rule (now : Int) (cbr : CircuitBreakerRelation)
    (db : CircuitBreakerTables) (h : CircuitBreakerInv db) {s : ServiceRow} (hid : s.id = cbr.serviceId)
    (hsu : ∀ t ∈ db.service, t.name = s.name → t.namespace = s.namespace → t.flag = 0 → t.id = s.id)
    (hx : ∃ x ∈ db.relation, x.rel = cbr) :
    (CircuitBreakerStore.unbindCircuitBreaker now none cbr db).2 = none ∧
    CircuitBreakerStore.getCircuitBreakerRelation cbr.ruleId cbr.ruleVersion
        (CircuitBreakerStore.unbindCircuitBreaker now none cbr db).1 =
      (CircuitBreakerStore.getCircuitBreakerRelation cbr.ruleId cbr.ruleVersion db).filter (· ≠ cbr) ∧
    CircuitBreakerStore.getCircuitBreakersByService s.name s.namespace
      (CircuitBreakerStore.unbindCircuitBreaker now none cbr db).1 = none := by
  obtain ⟨x, hx, hxr⟩ := hx
  exact ⟨by rw [CircuitBreakerStore.unbindCircuitBreaker_none],
    CircuitBreakerStore.getCircuitBreakerRelation_unbind now cbr db _ _,
    CircuitBreakerStore.getCircuitBreakersByService_unbind now cbr db h hid hsu hx hxr⟩

/-- Service `s1`, bound to the master version of `r1`, is unbound. -/
theorem unbind_then_service_reads_no_rule_s1 :
    (CircuitBreakerStore.unbindCircuitBreaker 14 none ⟨"s1", "r1", "master"⟩
        ⟨[⟨⟨"r1", "master", "cb", "ns", "", "", "", "", "", "tk", "", "1"⟩, 0, 1, 1⟩],
          [⟨⟨"s1", "r1", "master"⟩, 0, 12, 12⟩], [⟨"s1", "svc", "ns", 0⟩]⟩).2 = none ∧
    CircuitBreakerStore.getCircuitBreakerRelation "r1" "master"
        (CircuitBreakerStore.unbindCircuitBreaker 14 none ⟨"s1", "r1", "master"⟩
          ⟨[⟨⟨"r1", "master", "cb", "ns", "", "", "", "", "", "tk", "", "1"⟩, 0, 1, 1⟩],
            [⟨⟨"s1", "r1", "master"⟩, 0, 12, 12⟩], [⟨"s1", "svc", "ns", 0⟩]⟩).1 =
      (CircuitBreakerStore.getCircuitBreakerRelation "r1" "master"
        ⟨[⟨⟨"r1", "master", "cb", "ns", "", "", "", "", "", "tk", "", "1"⟩, 0, 1, 1⟩],
          [⟨⟨"s1", "r1", "master"⟩, 0, 12, 12⟩], [⟨"s1", "svc", "ns", 0⟩]⟩).filter
        (· ≠ ⟨"s1", "r1", "master"⟩) ∧
    CircuitBreakerStore.getCircuitBreakersByService "svc" "ns"
      (CircuitBreakerStore.unbindCircuitBreaker 14 none ⟨"s1", "r1", "master"⟩
        ⟨[⟨⟨"r1", "master", "cb", "ns", "", "", "", "", "", "tk", "", "1"⟩, 0, 1, 1⟩],
          [⟨⟨"s1", "r1", "master"⟩, 0, 12, 12⟩], [⟨"s1", "svc", "ns", 0⟩]⟩).1 = none :=
  unbind_then_service_reads_no_rule 14 ⟨"s1", "r1", "master"⟩
    ⟨[⟨⟨"r1", "master", "cb", "ns", "", "", "", "", "", "tk", "", "1"⟩, 0, 1, 1⟩],
      [⟨⟨"s1", "r1", "master"⟩, 0, 12, 12⟩], [⟨"s1", "svc", "ns", 0⟩]⟩
    ⟨by decide, by decide, by decide⟩ (s := ⟨"s1", "svc", "ns", 0⟩) rfl (by decide)
    ⟨_, List.mem_singleton_self _, rfl⟩

end PolarisStore.Postgresql
