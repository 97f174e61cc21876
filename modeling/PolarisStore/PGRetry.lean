import Mathlib.Data.List.Infix

/-! `Retry` and `RetryTransaction` of `base_db.go`. `Retry` calls `handle` up to
`maxTryTimes` times and calls again only after an error whose message contains one of
`errMsg`; `RetryTransaction` returns the error of the last call. A `handle` is given by
its outcomes: its `n`-th call, counted from 0, returns `outcome n`, `none` for `nil`. -/
namespace PolarisStore.Postgresql

/-- `errMsg`: the database errors that `Retry` answers by calling again. -/
def errMsg : List String := ["Deadlock", "bad connection", "invalid connection"]

def maxTryTimes : Nat := 20

/-- `strings.Contains(s, substr)`. -/
def contains (s substr : String) : Bool := decide (substr.data <:+: s.data)

/-- The inner loop of `Retry`: whether some text of `errMsg` is in the error message. -/
def retryable (msg : String) : Bool := errMsg.any (contains msg)

/-- The loop of `Retry` with `left` iterations to go after `calls` calls, `err` holding the
last error: the number of calls made in all, and the last error. -/
def retryLoop (outcome : Nat → Option String) : Nat → Nat → Option String → Nat × Option String
  | 0, calls, err => (calls, err)
  | left + 1, calls, _ =>
    match outcome calls with
    | none => (calls + 1, none)
    | some msg =>
      if retryable msg then retryLoop outcome left (calls + 1) (some msg) else (calls + 1, some msg)

/-- `Retry(label, handle)`: the number of calls of `handle`, and the error its `err`
holds at the end. -/
def retry (outcome : Nat → Option String) : Nat × Option String :=
  retryLoop outcome maxTryTimes 0 none

/-- `RetryTransaction(label, handle)`: the error of the last call of `handle`. -/
def retryTransaction (outcome : Nat → Option String) : Option String := (retry outcome).2

/-- An outcome after which `Retry` stops: `nil`, or an error with no retryable text. -/
def stopsRetry : Option String → Bool
  | none => true
  | some msg => !retryable msg

/-- The number of calls by the rule: the position of the first outcome that stops the
loop among the first `maxTryTimes`, or `maxTryTimes` when there is none. -/
def retryCallsSpec (outcome : Nat → Option String) : Nat :=
  ((List.range maxTryTimes).find? fun n => stopsRetry (outcome n)).elim maxTryTimes (· + 1)

section Loop

variable (outcome : Nat → Option String)

@[simp] theorem stopsRetry_none : stopsRetry none = true := rfl

@[simp] theorem stopsRetry_some (msg : String) : stopsRetry (some msg) = !retryable msg := rfl

/-- With an iteration left, the loop stops after the first call from `calls` on whose
outcome stops it, or after its last iteration, holding that outcome. -/
theorem retryLoop_eq (left calls : Nat) (err : Option String) (hl : 0 < left) :
    retryLoop outcome left calls err =
      (((List.range' calls left).find? fun n => stopsRetry (outcome n)).elim (calls + left) (· + 1),
        outcome ((((List.range' calls left).find? fun n => stopsRetry (outcome n)).elim
          (calls + left) (· + 1)) - 1)) := by
  induction left generalizing calls err with
  | zero => omega
  | succ left ih =>
    rw [List.range'_succ]
    cases ho : outcome calls with
    | none => simp [retryLoop, ho]
    | some msg =>
      cases hr : retryable msg
      · simp [retryLoop, ho, hr]
      · cases left with
        | zero => simp [retryLoop, ho, hr]
        | succ left =>
          have hs : stopsRetry (outcome calls) = false := by simp [ho, hr]
          rw [retryLoop, ho]
          dsimp only
          rw [if_pos hr, ih (calls + 1) (some msg) (by omega),
            List.find?_cons_of_neg _ (by simp [hs]),
            show calls + 1 + (left + 1) = calls + (left + 1 + 1) by omega]

end Loop

/-- `Retry` calls `handle` as many times as the rule says, `RetryTransaction` returns the
last outcome, and a call that succeeds is the last one. -/
theorem retry_calls_until_first_stop (outcome : Nat → Option String) :
    retry outcome = (retryCallsSpec outcome, outcome (retryCallsSpec outcome - 1)) ∧
    retryTransaction outcome = outcome (retryCallsSpec outcome - 1) ∧
    ∀ n, outcome n = none → (retry outcome).1 ≤ n + 1 := by
  have h : retry outcome = (retryCallsSpec outcome, outcome (retryCallsSpec outcome - 1)) := by
    rw [retry, retryLoop_eq outcome _ _ _ (by decide), retryCallsSpec, List.range_eq_range']
    rfl
  refine ⟨h, by rw [retryTransaction, h], fun n hn => ?_⟩
  rw [h, retryCallsSpec]
  cases hf : (List.range maxTryTimes).find? (fun n => stopsRetry (outcome n)) with
  | none =>
    have := List.find?_eq_none.mp hf
    by_cases hlt : n < maxTryTimes
    · simpa [hn, stopsRetry] using this n (List.mem_range.mpr hlt)
    · simp only [Option.elim_none]; omega
  | some m =>
    obtain ⟨-, hm, hmin⟩ := List.find?_range_eq_some.mp hf
    simp only [Option.elim_some]
    by_contra hgt
    simpa [hn, stopsRetry] using hmin n (by omega)

theorem retry_eq_find (outcome : Nat → Option String) :
    retry outcome =
      (((List.range maxTryTimes).find? fun n => stopsRetry (outcome n)).elim maxTryTimes (· + 1),
        outcome ((((List.range maxTryTimes).find? fun n => stopsRetry (outcome n)).elim
          maxTryTimes (· + 1)) - 1)) := by
  rw [retry, retryLoop_eq outcome _ _ _ (by decide), List.range_eq_range']
  rfl

/-- Around a handle that commits exactly when it returns `nil`, `RetryTransaction` commits
once on `nil` and never on an error; a lost `COMMIT` reply breaks that hypothesis. -/
theorem retry_transaction_commits_once (outcome : Nat → Option String) (committed : Nat → Bool)
    (hc : ∀ n, committed n = true ↔ outcome n = none) :
    ((List.range (retry outcome).1).filter committed).length =
      if retryTransaction outcome = none then 1 else 0 := by
  rw [retryTransaction, retry_eq_find]
  cases hf : (List.range maxTryTimes).find? (fun n => stopsRetry (outcome n)) with
  | none =>
    have hall := List.find?_eq_none.1 hf
    have hlast : outcome (maxTryTimes - 1) ≠ none := fun h =>
      hall (maxTryTimes - 1) (List.mem_range.2 (by decide)) (by rw [h]; rfl)
    rw [Option.elim_none, if_neg hlast, List.length_eq_zero, List.filter_eq_nil_iff]
    exact fun n hn hcn => hall n hn (by rw [(hc n).1 hcn]; rfl)
  | some m =>
    obtain ⟨-, -, hmin⟩ := List.find?_range_eq_some.1 hf
    rw [Option.elim_some, Nat.add_sub_cancel, List.range_succ, List.filter_append,
      List.filter_eq_nil_iff.2 fun j hj hcj => ?_, List.nil_append]
    · by_cases hcm : committed m
      · simp [hcm, (hc m).1 hcm]
      · have hm : outcome m ≠ none := fun h => hcm ((hc m).2 h)
        simp [hcm, hm]
    · have := hmin j (List.mem_range.1 hj)
      rw [(hc j).1 hcj] at this
      exact absurd this (by decide)

/-- Two deadlocks, then a transaction that commits. -/
theorem retry_transaction_commits_once_after_deadlocks :
    ((List.range (retry fun n => if n < 2 then some "Deadlock found" else none).1).filter
        fun n => decide (2 ≤ n)).length =
      if retryTransaction (fun n => if n < 2 then some "Deadlock found" else none) = none then 1 else 0 :=
  retry_transaction_commits_once _ _ fun n => by by_cases h : n < 2 <;> simp [h]; omega

end PolarisStore.Postgresql
