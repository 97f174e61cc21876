import Mathlib.Data.List.MinMax
import Mathlib.Order.Nat

/-! SQL text as the store's builders assemble it. A statement is a list of pieces:
text written in the source, text taken from a caller's filter key, and placeholders
`$i`; rendering the pieces gives the string handed to the driver. -/
namespace PolarisStore.Postgresql

inductive SqlPiece where
  /-- Text written in the source, a constant or a column chosen from a fixed table. -/
  | lit (s : String)
  /-- Text computed from a filter key. -/
  | key (s : String)
  /-- `fmt.Sprintf("$%d", i)`. -/
  | param (i : Nat)
deriving DecidableEq, Repr

abbrev Sql := List SqlPiece

def SqlPiece.render : SqlPiece → String
  | .lit s => s
  | .key s => s
  | .param i => "$" ++ toString i

def Sql.render (q : Sql) : String := String.join (q.map SqlPiece.render)

/-- The `.param` pieces, left to right: all placeholders when each spliced text is a
`plainName`, or quote-free inside a quoted literal. -/
def Sql.params (q : Sql) : List Nat := q.filterMap fun
  | .param i => some i
  | _ => none

/-- The texts a statement took from filter keys. -/
def Sql.keys (q : Sql) : List String := q.filterMap fun
  | .key s => some s
  | _ => none

/-- Spliced text that PostgreSQL reads as one name: letters, digits, underscores and
dots, so no placeholder, quote or comment. -/
def plainName (s : String) : Bool := s.data.all fun c => c.isAlphanum || c == '_' || c == '.'

/-- The quotes in a text. -/
def quoteCount (s : String) : Nat := s.data.count '\x27'

/-- The quotes in a statement's text, piece by piece. -/
def Sql.quotes (q : Sql) : Nat := q.foldr (fun p n => quoteCount p.render + n) 0

/-- PostgreSQL types a prepared statement with as many parameters as its highest `$i`,
and a `Bind` must supply exactly that many values. -/
def Sql.paramCount (q : Sql) : Nat := q.params.foldr max 0

/-- `stmt.Exec(args...)`: refused, with both counts, unless there are as many arguments as
parameters; else each placeholder takes the argument of its number. -/
def bindArgs (q : Sql) (args : List α) : Except (Nat × Nat) (List α) :=
  if args.length = q.paramCount then .ok (q.params.filterMap fun i => args.get? (i - 1))
  else .error (args.length, q.paramCount)

/-- An element of an `args []interface{}` slice. -/
inductive Arg where
  | str (s : String)
  | bool (b : Bool)
  | uint (n : Nat)
deriving DecidableEq, Repr

/-- `strconv.ParseBool` as the builders call it: the error is dropped, so a string it
does not recognise gives `false`. -/
def parseBool (s : String) : Bool := s ∈ ["1", "t", "T", "TRUE", "true", "True"]

@[simp] theorem Sql.params_nil : Sql.params [] = [] := rfl

@[simp] theorem Sql.params_append (q q' : Sql) : (q ++ q').params = q.params ++ q'.params :=
  List.filterMap_append _ _ _

@[simp] theorem Sql.params_lit (s : String) (q : Sql) : Sql.params (.lit s :: q) = q.params := rfl

@[simp] theorem Sql.params_key (s : String) (q : Sql) : Sql.params (.key s :: q) = q.params := rfl

@[simp] theorem Sql.params_param (i : Nat) (q : Sql) :
    Sql.params (.param i :: q) = i :: q.params := rfl

@[simp] theorem Sql.keys_append (q q' : Sql) : (q ++ q').keys = q.keys ++ q'.keys :=
  List.filterMap_append _ _ _

section Binding

variable {α : Type}

/-- The highest number of a statement whose numbers are all at most `m`, `m` among them. -/
theorem Sql.paramCount_eq {q : Sql} {m : Nat} (h : ∀ p ∈ q.params, p ≤ m) (hm : m ∈ q.params) :
    q.paramCount = m :=
  Nat.le_antisymm (List.max_le_of_forall_le _ _ h) (List.le_max_of_le hm le_rfl)

theorem filterMap_range'_of_get? (l : List α) (s : Nat) (f : Nat → Option α)
    (h : ∀ i < l.length, f (s + i) = l.get? i) : (List.range' s l.length).filterMap f = l := by
  induction l generalizing s with
  | nil => rfl
  | cons x l ih =>
    have h0 : f s = some x := h 0 (Nat.succ_pos _)
    rw [List.length_cons, List.range'_succ, List.filterMap_cons_some h0,
      ih (s + 1) fun i hi => by rw [Nat.add_right_comm, Nat.add_assoc]; exact h (i + 1) (by simp [hi])]

/-- A statement numbered `$1, ..., $n` binds its `n` arguments in order. -/
theorem bindArgs_of_params_range' {q : Sql} {args : List α}
    (h : q.params = List.range' 1 args.length) : bindArgs q args = .ok args := by
  have hc : q.paramCount = args.length := by
    cases hn : args.length with
    | zero => rw [hn] at h; simp [Sql.paramCount, h]
    | succ n =>
      rw [hn] at h
      exact Sql.paramCount_eq (by simp [h]; omega) (by simp [h])
  rw [bindArgs, if_pos hc.symm, h]
  exact congrArg _ (filterMap_range'_of_get? args 1 _ fun i _ => by simp)

/-- The placeholders of `q` run from `start` to `next = start + n + gap - dup`, with `gap`
numbers skipped and `dup` reused; with neither, exactly `$start..$(start + n - 1)`. -/
structure Numbering (q : Sql) (start n gap dup next : Nat) : Prop where
  next_eq : next + dup = start + n + gap
  start_le : start ≤ next
  bounds : ∀ p ∈ q.params, start ≤ p ∧ p ≤ next
  exact : gap = 0 → dup = 0 → q.params = List.range' start n

namespace Numbering

variable {q q' : Sql} {start n g d m n' g' d' next : Nat}

theorem of_params (h : q.params = List.range' start n) : Numbering q start n 0 0 (start + n) where
  next_eq := rfl
  start_le := Nat.le_add_right _ _
  bounds p hp := by rw [h, List.mem_range'_1] at hp; omega
  exact _ _ := h

theorem lit_cons (h : Numbering q start n g d next) (s : String) :
    Numbering (.lit s :: q) start n g d next := ⟨h.1, h.2, h.3, h.4⟩

theorem append (h : Numbering q start n g d m) (h' : Numbering q' m n' g' d' next) :
    Numbering (q ++ q') start (n + n') (g + g') (d + d') next where
  next_eq := by have := h.next_eq; have := h'.next_eq; omega
  start_le := h.start_le.trans h'.start_le
  bounds p hp := by
    rcases List.mem_append.1 ((Sql.params_append q q').symm ▸ hp) with hp | hp
    · have := h.bounds p hp; have := h'.start_le; omega
    · have := h'.bounds p hp; have := h.start_le; omega
  exact hg hd := by
    obtain rfl : m = start + n := by have := h.next_eq; omega
    rw [Sql.params_append, h.exact (by omega) (by omega), h'.exact (by omega) (by omega),
      List.range'_append_1, Nat.add_comm]

/-- Appending text numbered `$m, ..., $(m + k - 1)`, one argument each. -/
theorem append_range' {x : Sql} {k : Nat} (h : Numbering q start n g d m)
    (hx : x.params = List.range' m k) : Numbering (q ++ x) start (n + k) g d (m + k) := by
  simpa using h.append (Numbering.of_params hx)

/-- Appending `$m` and `$(m + 1)` for two arguments while the index moves to `m + 1` only:
the next text reuses `$(m + 1)`. -/
theorem append_reuse {x : Sql} (h : Numbering q start n g d m) (hx : x.params = [m, m + 1]) :
    Numbering (q ++ x) start (n + 2) g (d + 1) (m + 1) :=
  h.append (⟨by omega, by omega, fun p hp => by simp [hx] at hp; omega, by simp⟩ :
    Numbering x m 2 0 1 (m + 1))

theorem bindArgs_eq {args : List α} (h : Numbering q 1 args.length 0 0 next) :
    bindArgs q args = .ok args :=
  bindArgs_of_params_range' (h.exact rfl rfl)

/-- A list query, the filter numbered from `$1` then `limit $next offset $(next+1)`, binds in
order exactly when the filter skipped and reused no number. -/
theorem bindArgs_page {args : List α} (h : Numbering q 1 args.length g d next)
    (hgd : g = 0 ∨ d = 0) (s s' : String) (x y : α) :
    bindArgs (q ++ [.lit s, .param next, .lit s', .param (next + 1)]) (args ++ [x, y]) =
      if g + d = 0 then .ok (args ++ [x, y]) else .error (args.length + 2, next + 1) := by
  have hn := h.next_eq
  by_cases h0 : g + d = 0
  · rw [if_pos h0]
    obtain ⟨rfl, rfl⟩ : g = 0 ∧ d = 0 := by omega
    refine bindArgs_of_params_range' ?_
    rw [Sql.params_append, h.exact rfl rfl, List.length_append]
    simp only [Sql.params_lit, Sql.params_param, Sql.params_nil, List.length_cons, List.length_nil]
    rw [show next = 1 + args.length by omega]
    simp [List.range'_1_concat, Nat.add_assoc]
  · have hc : Sql.paramCount (q ++ [.lit s, .param next, .lit s', .param (next + 1)]) = next + 1 := by
      refine Sql.paramCount_eq (fun p hp => ?_) (by simp)
      simp only [Sql.params_append, Sql.params_lit, Sql.params_param, Sql.params_nil,
        List.mem_append, List.mem_cons, List.not_mem_nil, or_false] at hp
      rcases hp with hp | rfl | rfl
      · have := (h.bounds p hp).2; omega
      all_goals omega
    rw [if_neg h0, bindArgs, hc, if_neg (by simp; omega)]
    simp

end Numbering

end Binding

end PolarisStore.Postgresql
