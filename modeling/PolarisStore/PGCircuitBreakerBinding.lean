import PolarisStore.PGCircuitBreakerStore

/-! What `circuitbreaker_rule_relation` is for: each service is bound to at most one rule
version. `Bindings` is that map; `ReleaseCircuitBreaker` binds, `UnbindCircuitBreaker`
unbinds, and every other call leaves it alone. The relation table, read through its
live rows, refines this map over every run of the store. The cache learns of the map's
changes through `GetCircuitBreakerForCache`, which joins the relations changed since its
last pull with their live rule versions. -/
namespace PolarisStore.Postgresql

/-- The rule version, as `(ruleId, ruleVersion)`, each service is bound to. -/
abbrev Bindings := String → Option (String × String)

namespace Bindings

def bind (b : Bindings) (cbr : CircuitBreakerRelation) : Bindings :=
  Function.update b cbr.serviceId (some (cbr.ruleId, cbr.ruleVersion))

def unbind (b : Bindings) (cbr : CircuitBreakerRelation) : Bindings := fun s =>
  if s = cbr.serviceId ∧ b s = some (cbr.ruleId, cbr.ruleVersion) then none else b s

/-- A call, given whether it committed. -/
def step (b : Bindings) : CircuitBreakerCall → Bool → Bindings
  | .release cbr, true => b.bind cbr
  | .unbind cbr, true => b.unbind cbr
  | _, _ => b

def run (b : Bindings) (trace : List (CircuitBreakerCall × Bool)) : Bindings :=
  trace.foldl (fun b c => b.step c.1 c.2) b

end Bindings

/-- The live relation of each service. -/
def bindingsOf (relation : List CircuitBreakerRelationRow) : Bindings := fun s =>
  (relation.find? fun x => x.rel.serviceId = s ∧ x.flag = 0).map fun x => (x.rel.ruleId, x.rel.ruleVersion)

namespace CircuitBreakerTables

def bindings (db : CircuitBreakerTables) : Bindings := bindingsOf db.relation

/-- Whether a call committed: a release that returned no error, any other call the
database did not fail. -/
def committed (db : CircuitBreakerTables) : Int × Option StoreError × CircuitBreakerCall → Bool
  | (_, fault, .release cbr) => (CircuitBreakerStore.releaseCircuitBreaker fault cbr db).2.isNone
  | (_, fault, _) => fault.isNone

/-- Each call of a run with whether it committed. -/
def trace : CircuitBreakerTables → List (Int × Option StoreError × CircuitBreakerCall) →
    List (CircuitBreakerCall × Bool)
  | _, [] => []
  | db, c :: calls => (c.2.2, db.committed c) :: (db.step c).trace calls

end CircuitBreakerTables

theorem CircuitBreakerRelation.eq_of {x cbr : CircuitBreakerRelation} (hs : x.serviceId = cbr.serviceId)
    (hk : (x.ruleId, x.ruleVersion) = (cbr.ruleId, cbr.ruleVersion)) : x = cbr := by
  cases x; cases cbr; cases hk; cases hs; rfl

section Abstraction

variable {l l' : List CircuitBreakerRelationRow} {s : String}

theorem bindingsOf_of_mem (hn : (l.map (·.rel.serviceId)).Nodup) {x : CircuitBreakerRelationRow}
    (hx : x ∈ l) (hs : x.rel.serviceId = s) (h0 : x.flag = 0) :
    bindingsOf l s = some (x.rel.ruleId, x.rel.ruleVersion) := by
  unfold bindingsOf
  cases hf : l.find? fun x => x.rel.serviceId = s ∧ x.flag = 0 with
  | none => exact absurd (List.find?_eq_none.1 hf x hx) (by simp [hs, h0])
  | some y =>
    have hy := List.find?_some hf
    simp only [decide_eq_true_eq] at hy
    rw [List.inj_on_of_nodup_map hn (List.mem_of_find?_eq_some hf) hx (hy.1.trans hs.symm)]
    rfl

theorem bindingsOf_eq_none (h : ∀ x ∈ l, x.rel.serviceId = s → x.flag ≠ 0) : bindingsOf l s = none := by
  unfold bindingsOf
  rw [List.find?_eq_none.2 fun x hx hp => by simp only [decide_eq_true_eq] at hp; exact h x hx hp.1 hp.2]
  rfl

/-- Two tables with the same live rows of `s`, the second with unique service ids, bind `s`
alike. -/
theorem bindingsOf_congr (hn : (l'.map (·.rel.serviceId)).Nodup)
    (hl : ∀ x : CircuitBreakerRelationRow, x.rel.serviceId = s → x.flag = 0 → (x ∈ l ↔ x ∈ l')) :
    bindingsOf l s = bindingsOf l' s := by
  cases hf : l.find? fun x => x.rel.serviceId = s ∧ x.flag = 0 with
  | none =>
    rw [bindingsOf, hf, bindingsOf_eq_none fun x hx hs h0 => ?_]
    · rfl
    · exact List.find?_eq_none.1 hf x ((hl x hs h0).2 hx) (by simp [hs, h0])
  | some y =>
    have hy := List.find?_some hf
    simp only [decide_eq_true_eq] at hy
    rw [bindingsOf, hf, bindingsOf_of_mem hn ((hl y hy.1 hy.2).1 (List.mem_of_find?_eq_some hf)) hy.1 hy.2]
    rfl

end Abstraction

section Simulation

variable {db : CircuitBreakerTables} (now : Int) (fault : Option StoreError)

theorem commitOrRollback_relation {tx : Except CircuitBreakerError CircuitBreakerTables}
    (htx : ∀ db', tx = .ok db' → db'.relation = db.relation) :
    (commitOrRollback fault db tx).1.relation = db.relation :=
  commitOrRollback_of (P := fun d => d.relation = db.relation) rfl htx

/-- A release binds nothing: at most its cleanup of deleted relations commits. -/
theorem CircuitBreakerTables.bindings_release (h : CircuitBreakerInv db) (cbr : CircuitBreakerRelation) :
    (CircuitBreakerStore.releaseCircuitBreaker fault cbr db).1.bindings = db.bindings := by
  rw [CircuitBreakerStore.releaseCircuitBreaker_eq]
  split
  · funext s
    exact bindingsOf_congr h.relationKeys fun x _ h0 => by
      simp [CircuitBreakerStore.cleanCircuitBreakerRelation, h0]
  · rfl

theorem CircuitBreakerTables.bindings_unbind (h : CircuitBreakerInv db) (cbr : CircuitBreakerRelation) :
    (CircuitBreakerStore.unbindCircuitBreaker now fault cbr db).1.bindings =
      if fault.isNone then db.bindings.unbind cbr else db.bindings := by
  cases fault with
  | some e => rfl
  | none =>
    rw [CircuitBreakerStore.unbindCircuitBreaker_none, Option.isNone_none, if_pos rfl]
    funext s
    show bindingsOf _ s = Bindings.unbind (bindingsOf db.relation) cbr s
    unfold Bindings.unbind
    by_cases hb : s = cbr.serviceId ∧ bindingsOf db.relation s = some (cbr.ruleId, cbr.ruleVersion)
    · -- the service's one live row is `cbr`, which the unbind marks deleted
      rw [if_pos hb]
      refine bindingsOf_eq_none fun y hy hys => ?_
      obtain ⟨y, hy0, rfl⟩ := List.mem_map.1 hy
      by_cases hc : y.rel = cbr
      · simp [hc]
      · rw [if_neg hc] at hys ⊢
        intro h0
        have hk := Option.some.inj ((bindingsOf_of_mem h.relationKeys hy0 hys h0).symm.trans hb.2)
        exact hc (CircuitBreakerRelation.eq_of (hys.trans hb.1) hk)
    · rw [if_neg hb]
      refine bindingsOf_congr h.relationKeys fun y hys h0 => ⟨fun hy => ?_, fun hy => ?_⟩
      · obtain ⟨y, hy0, rfl⟩ := List.mem_map.1 hy
        by_cases hc : y.rel = cbr
        · rw [if_pos hc] at h0; cases h0
        · rwa [if_neg hc]
      · have hc : y.rel ≠ cbr := fun hc =>
          hb ⟨hys.symm.trans (congrArg _ hc), by rw [bindingsOf_of_mem h.relationKeys hy hys h0, hc]⟩
        exact List.mem_map.2 ⟨y, hy, if_neg hc⟩

/-- The calls on `circuitbreaker_rule` leave the relation table as it was. -/
theorem CircuitBreakerTables.relation_of_rule_calls :
    (∀ cb, (CircuitBreakerStore.createCircuitBreaker now fault cb db).1.relation = db.relation) ∧
    (∀ nowText cb, (CircuitBreakerStore.tagCircuitBreaker now fault nowText cb db).1.relation = db.relation) ∧
    (∀ id version, (CircuitBreakerStore.deleteTagCircuitBreaker now fault id version db).1.relation = db.relation) ∧
    (∀ id, (CircuitBreakerStore.deleteMasterCircuitBreaker now fault id db).1.relation = db.relation) ∧
    (∀ cb, (CircuitBreakerStore.updateCircuitBreaker now fault cb db).1.relation = db.relation) := by
  refine ⟨fun cb => commitOrRollback_relation fault fun db' hdb' => ?_,
    fun nowText cb => commitOrRollback_relation fault fun db' hdb' => ?_,
    fun _ _ => commitOrRollback_relation fault fun db' hdb' => by cases hdb'; rfl,
    fun _ => commitOrRollback_relation fault fun db' hdb' => by cases hdb'; rfl,
    fun _ => commitOrRollback_relation fault fun db' hdb' => by cases hdb'; rfl⟩
  · cases hi : insertKeyed CircuitBreakerRow.key (cleanCircuitBreaker cb.id cb.version db.rule)
        ⟨cb, 0, now, now⟩ with
    | error e => rw [hi] at hdb'; cases hdb'
    | ok rule => rw [hi] at hdb'; cases hdb'; rfl
  · rw [tagCircuitBreaker_eq] at hdb'; cases hdb'

/-- Each call acts on the bindings as the abstract step does. -/
theorem CircuitBreakerTables.bindings_step (h : CircuitBreakerInv db)
    (c : Int × Option StoreError × CircuitBreakerCall) :
    (db.step c).bindings = db.bindings.step c.2.2 (db.committed c) := by
  obtain ⟨now, fault, c⟩ := c
  have hr := @relation_of_rule_calls db now fault
  cases c with
  | create cb => exact congrArg bindingsOf (hr.1 cb)
  | tag nowText cb => exact congrArg bindingsOf (hr.2.1 nowText cb)
  | release cbr =>
    show _ = db.bindings.step _ (CircuitBreakerStore.releaseCircuitBreaker fault cbr db).2.isNone
    rw [step, bindings_release fault h cbr]
    cases fault <;> rfl
  | unbind cbr =>
    show _ = db.bindings.step _ fault.isNone
    rw [step, bindings_unbind now fault h cbr]
    cases fault.isNone <;> rfl
  | deleteTag id version => exact congrArg bindingsOf (hr.2.2.1 id version)
  | deleteMaster id => exact congrArg bindingsOf (hr.2.2.2.1 id)
  | update cb => exact congrArg bindingsOf (hr.2.2.2.2 cb)
  | services f => rfl

end Simulation

/-- Over every run from tables that keep `CircuitBreakerInv`, the live relations bind each
service as the abstract map does when it replays the committed releases and unbinds. -/
theorem relation_table_refines_bindings (db : CircuitBreakerTables) (h : CircuitBreakerInv db)
    (calls : List (Int × Option StoreError × CircuitBreakerCall)) :
    (db.run calls).bindings = db.bindings.run (db.trace calls) := by
  induction calls generalizing db with
  | nil => rfl
  | cons c calls ih =>
    rw [CircuitBreakerTables.run_cons, ih _ (h.step c), CircuitBreakerTables.bindings_step h c]
    rfl

/-- From empty tables, `s1` is bound to `r1`, a failed unbind keeps it, and the next
unbind drops it. -/
theorem relation_table_refines_bindings_from_empty :
    CircuitBreakerInv ⟨[], [], []⟩ ∧
    ((⟨[], [], []⟩ : CircuitBreakerTables).run
      [(10, none, .services fun _ => [⟨"s1", "svc", "ns", 0⟩]),
       (11, none, .create ⟨"r1", "master", "n", "ns", "", "", "", "", "", "", "", "1"⟩),
       (12, none, .release ⟨"s1", "r1", "master"⟩), (13, some .failure, .unbind ⟨"s1", "r1", "master"⟩),
       (14, none, .unbind ⟨"s1", "r1", "master"⟩)]).bindings =
    (⟨[], [], []⟩ : CircuitBreakerTables).bindings.run ((⟨[], [], []⟩ : CircuitBreakerTables).trace
      [(10, none, .services fun _ => [⟨"s1", "svc", "ns", 0⟩]),
       (11, none, .create ⟨"r1", "master", "n", "ns", "", "", "", "", "", "", "", "1"⟩),
       (12, none, .release ⟨"s1", "r1", "master"⟩), (13, some .failure, .unbind ⟨"s1", "r1", "master"⟩),
       (14, none, .unbind ⟨"s1", "r1", "master"⟩)]) :=
  ⟨circuitBreakerInv_empty, relation_table_refines_bindings _ circuitBreakerInv_empty _⟩

section Cache

/-- What `fetchCircuitBreakerAndServiceRows` scans of a row of the join: the relation's
service, validity and times, and the rule's record, validity and times. -/
structure ServiceWithCircuitBreaker where
  serviceId : String
  valid : Bool
  createTime : Int
  modifyTime : Int
  circuitBreaker : CircuitBreaker
  ruleValid : Bool
  ruleCreateTime : Int
  ruleModifyTime : Int
deriving DecidableEq, Repr

/-- `GetCircuitBreakerForCache(mtime, firstUpdate)`: relations modified after `mtime` with
their live rules, live ones only on a first update; `fault` is any read error. -/
def CircuitBreakerStore.getCircuitBreakerForCache (mtime : Int) (firstUpdate : Bool)
    (fault : Option StoreError) (db : CircuitBreakerTables) :
    Except StoreError (List ServiceWithCircuitBreaker) :=
  match fault with
  | some e => .error e
  | none => .ok <| db.relation.flatMap fun x =>
    (db.rule.filter fun r => mtime < x.mtime ∧ x.rel.ruleId = r.cb.id ∧ x.rel.ruleVersion = r.cb.version ∧
        r.flag = 0 ∧ (firstUpdate = true → x.flag ≠ 1)).map fun r =>
      ⟨x.rel.serviceId, x.flag ≠ 1, x.ctime, x.mtime, r.cb, r.flag ≠ 1, r.ctime, r.mtime⟩

open CircuitBreakerStore

variable {mtime : Int} {firstUpdate : Bool} {db : CircuitBreakerTables} {w : ServiceWithCircuitBreaker}

theorem mem_getCircuitBreakerForCache {e : List ServiceWithCircuitBreaker}
    (he : getCircuitBreakerForCache mtime firstUpdate none db = .ok e) :
    w ∈ e ↔ ∃ x ∈ db.relation, ∃ r ∈ db.rule, (mtime < x.mtime ∧ x.rel.ruleId = r.cb.id ∧
      x.rel.ruleVersion = r.cb.version ∧ r.flag = 0 ∧ (firstUpdate = true → x.flag ≠ 1)) ∧
      w = ⟨x.rel.serviceId, x.flag ≠ 1, x.ctime, x.mtime, r.cb, r.flag ≠ 1, r.ctime, r.mtime⟩ := by
  cases he
  simp only [List.mem_flatMap, List.mem_map, List.mem_filter, decide_eq_true_eq]
  constructor
  · rintro ⟨x, hx, r, ⟨hr, hj⟩, rfl⟩
    exact ⟨x, hx, r, hr, hj, rfl⟩
  · rintro ⟨x, hx, r, hr, hj, rfl⟩
    exact ⟨x, hx, r, ⟨hr, hj⟩, rfl⟩

/-- A pull reports a service only through a live version of the rule its relation names. -/
theorem getCircuitBreakerForCache_service (db : CircuitBreakerTables)
    (hn : (db.relation.map (·.rel.serviceId)).Nodup) {x : CircuitBreakerRelationRow} (hx : x ∈ db.relation)
    {e : List ServiceWithCircuitBreaker} (he : getCircuitBreakerForCache mtime firstUpdate none db = .ok e) (hw : w ∈ e)
    (hs : w.serviceId = x.rel.serviceId) :
    ∃ r ∈ db.rule, r.cb.id = x.rel.ruleId ∧ r.cb.version = x.rel.ruleVersion ∧ r.flag = 0 := by
  obtain ⟨y, hy, r, hr, ⟨-, hi, hv, hf, -⟩, rfl⟩ := (mem_getCircuitBreakerForCache he).1 hw
  obtain rfl := List.inj_on_of_nodup_map hn hy hx hs
  exact ⟨r, hr, hi.symm, hv.symm, hf⟩

end Cache

/-- An unbind reaches the cache only while its rule version lives: a later pull reports the
service invalid, and once the version is deleted no pull reports it. -/
theorem unbind_then_delete_hidden_from_cache (now1 now2 mtime : Int) (cbr : CircuitBreakerRelation)
    (db : CircuitBreakerTables) (h : CircuitBreakerInv db) {x : CircuitBreakerRelationRow}
    (hx : x ∈ db.relation) (hxr : x.rel = cbr) (hxf : x.flag = 0)
    (hb : ∀ y ∈ CircuitBreakerStore.getCircuitBreakerRelation cbr.ruleId cbr.ruleVersion db, y = cbr)
    (hm : mtime < now1) :
    (let db1 := (CircuitBreakerStore.unbindCircuitBreaker now1 none cbr db).1
    let db2 := (CircuitBreakerStore.deleteTagCircuitBreaker now2 none cbr.ruleId cbr.ruleVersion db1).1
    (∃ e, CircuitBreakerStore.getCircuitBreakerForCache mtime false none db1 = .ok e ∧
      ∃ w ∈ e, w.serviceId = cbr.serviceId ∧ w.valid = false) ∧
    ∀ m f, ∃ e, CircuitBreakerStore.getCircuitBreakerForCache m f none db2 = .ok e ∧
      ∀ w ∈ e, w.serviceId ≠ cbr.serviceId) := by
  intro db1 db2
  have h1 : db1 = { db with relation := db.relation.map fun x =>
      if x.rel = cbr then { x with flag := 1, mtime := now1 } else x } :=
    congrArg Prod.fst (CircuitBreakerStore.unbindCircuitBreaker_none now1 cbr db)
  have hinv1 : CircuitBreakerInv db1 := h.unbind now1 none cbr
  obtain ⟨c, hc, hck, hcf⟩ := h.bound x hx hxf
  have hx1 : { x with flag := 1, mtime := now1 } ∈ db1.relation := by
    rw [h1]; exact List.mem_map.2 ⟨x, hx, if_pos hxr⟩
  have hj := Prod.mk.inj hck
  refine ⟨⟨_, rfl, _, (mem_getCircuitBreakerForCache rfl).2 ⟨_, hx1, c, hc,
    ⟨hm, hj.1.symm, hj.2.symm, hcf, fun h => nomatch h⟩, rfl⟩, congrArg (·.serviceId) hxr, rfl⟩,
    fun m f => ⟨_, rfl, fun w hw hws => ?_⟩⟩
  have hnil : CircuitBreakerStore.getCircuitBreakerRelation cbr.ruleId cbr.ruleVersion db1 = [] := by
    rw [CircuitBreakerStore.getCircuitBreakerRelation_unbind, List.filter_eq_nil_iff]
    exact fun y hy => by simp [hb y hy]
  obtain ⟨r, hr, hri, hrv, hrf⟩ := getCircuitBreakerForCache_service db2 hinv1.relationKeys hx1 rfl hw
    (by rw [hws, hxr])
  rw [hxr] at hri hrv
  exact Nat.zero_ne_one
    (hrf.symm.trans (CircuitBreakerStore.deleteTagCircuitBreaker_hides now2 db1 _ _ hnil hr hri hrv))

/-- `s1`, the one service bound to version `v1` of `r1`, is unbound at time 5, and `v1`
deleted at time 6: a pull from time 3 between the two sees the unbind, and none after. -/
theorem unbind_then_delete_hidden_from_cache_s1 :
    (let db : CircuitBreakerTables := ⟨[⟨⟨"r1", "v1", "cb", "ns", "", "", "", "", "", "", "", "1"⟩, 0, 1, 1⟩],
        [⟨⟨"s1", "r1", "v1"⟩, 0, 2, 2⟩], [⟨"s1", "svc", "ns", 0⟩]⟩
    let cbr : CircuitBreakerRelation := ⟨"s1", "r1", "v1"⟩
    let db1 := (CircuitBreakerStore.unbindCircuitBreaker 5 none cbr db).1
    let db2 := (CircuitBreakerStore.deleteTagCircuitBreaker 6 none cbr.ruleId cbr.ruleVersion db1).1
    (∃ e, CircuitBreakerStore.getCircuitBreakerForCache 3 false none db1 = .ok e ∧
      ∃ w ∈ e, w.serviceId = cbr.serviceId ∧ w.valid = false) ∧
    ∀ m f, ∃ e, CircuitBreakerStore.getCircuitBreakerForCache m f none db2 = .ok e ∧
      ∀ w ∈ e, w.serviceId ≠ cbr.serviceId) :=
  unbind_then_delete_hidden_from_cache 5 6 3 ⟨"s1", "r1", "v1"⟩
    ⟨[⟨⟨"r1", "v1", "cb", "ns", "", "", "", "", "", "", "", "1"⟩, 0, 1, 1⟩], [⟨⟨"s1", "r1", "v1"⟩, 0, 2, 2⟩],
      [⟨"s1", "svc", "ns", 0⟩]⟩
    ⟨by decide, by decide, by decide⟩ (List.mem_singleton_self _) rfl rfl (by decide) (by decide)

end PolarisStore.Postgresql
