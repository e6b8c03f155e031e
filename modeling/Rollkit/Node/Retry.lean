import Mathlib

/-!
# Bounded retry

`Retry` from the node test helpers: a counted `for` loop over Go's 64-bit `int` calls `fn`,
sleeps after each failed guarded call, and ends with one unconditional `return fn()`. One pass of
the loop is one step on an explicit state, so that a run that never returns can be stated.
Since `fn` takes no argument, all that `Retry` sees of it is the sequence of results of its
successive calls: `fn j` is the result of call `j + 1`, and `none` is Go's `nil` error.
-/

namespace Rollkit

/-- Go's `int` on the 64-bit targets the node is built for. -/
abbrev GoInt := BitVec 64

abbrev Duration := BitVec 64

inductive RetryEvent where
  | call
  | sleep (d : Duration)
  deriving DecidableEq, Repr

/-- The loop variable `i`, the calls of `fn` made so far, what happened so far, and the
returned error once `Retry` has returned. -/
structure RetryState (ε : Type) where
  i : GoInt
  calls : Nat
  events : List RetryEvent
  returned : Option (Option ε)
  deriving DecidableEq, Repr

variable {ε : Type}

def retryInit : RetryState ε := ⟨1, 0, [], none⟩

/-- One pass of the loop: the guard `i <= tries-1` in wrapping `int` arithmetic, then either a
guarded call that returns `nil` on success and otherwise sleeps and runs `i++`, or the final
`return fn()`. -/
def retryStep (tries : GoInt) (d : Duration) (fn : Nat → Option ε) (s : RetryState ε) :
    RetryState ε :=
  match s.returned with
  | some _ => s
  | none =>
    if s.i.sle (tries - 1) then
      match fn s.calls with
      | none =>
        { s with calls := s.calls + 1, events := s.events ++ [.call], returned := some none }
      | some _ =>
        { s with i := s.i + 1, calls := s.calls + 1, events := s.events ++ [.call, .sleep d] }
    else
      { s with calls := s.calls + 1, events := s.events ++ [.call], returned := some (fn s.calls) }

def retryRun (tries : GoInt) (d : Duration) (fn : Nat → Option ε) :
    RetryState ε → Nat → RetryState ε
  | s, 0 => s
  | s, fuel + 1 => retryRun tries d fn (retryStep tries d fn s) fuel

/-- `Retry(tries, d, fn)` after `fuel` passes of its loop. -/
def retry (tries : GoInt) (d : Duration) (fn : Nat → Option ε) (fuel : Nat) : RetryState ε :=
  retryRun tries d fn retryInit fuel

/-! ### What a bounded poll should do -/

/-- `k` calls with one sleep between each two consecutive calls and none after the last. -/
def retryTrace (d : Duration) : Nat → List RetryEvent
  | 0 => []
  | 1 => [.call]
  | k + 2 => .call :: .sleep d :: retryTrace d (k + 1)

/-- The calls a poll with `budget` attempts makes from call `start` on: up to the first
success, and never more than the budget. -/
def attempts (fn : Nat → Option ε) (start : Nat) : Nat → Nat
  | 0 => 0
  | 1 => 1
  | budget + 2 =>
    match fn start with
    | none => 1
    | some _ => attempts fn (start + 1) (budget + 1) + 1

def retryBudget (tries : GoInt) : Nat := max tries.toInt.toNat 1

/-- `run` returns `r` having called `fn` exactly `k` times: no pass before the `k`-th returns,
and from the `k`-th pass on the state holds `k` calls, the events `retryTrace d k` and `r`. -/
structure RetryReturns (run : Nat → RetryState ε) (d : Duration) (k : Nat) (r : Option ε) :
    Prop where
  running : ∀ m < k, (run m).returned = none
  calls : ∀ m, k ≤ m → (run m).calls = k
  events : ∀ m, k ≤ m → (run m).events = retryTrace d k
  returned : ∀ m, k ≤ m → (run m).returned = some r

theorem retryTrace_succ (d : Duration) {k : Nat} (hk : 0 < k) :
    retryTrace d (k + 1) = .call :: .sleep d :: retryTrace d k := by
  obtain ⟨k, rfl⟩ := Nat.exists_eq_add_of_lt hk
  rfl

theorem retryTrace_counts (d : Duration) {k : Nat} (hk : 0 < k) :
    (retryTrace d k).count .call = k ∧ (retryTrace d k).count (.sleep d) = k - 1 ∧
      (retryTrace d k).getLast? = some .call := by
  induction k with
  | zero => omega
  | succ k ih =>
    rcases Nat.eq_zero_or_pos k with rfl | hk
    · simp [retryTrace]
    · obtain ⟨hc, hs, hl⟩ := ih hk
      rw [retryTrace_succ d hk]
      refine ⟨by simp [List.count_cons, hc], by simp [List.count_cons, hs]; omega, ?_⟩
      rw [List.getLast?_cons_cons, List.getLast?_cons, hl]
      rfl

theorem attempts_pos (fn : Nat → Option ε) (start : Nat) {budget : Nat} (hb : 0 < budget) :
    0 < attempts fn start budget := by
  induction start, budget using attempts.induct fn with
  | case1 => omega
  | case2 => simp [attempts]
  | case3 start k h => simp [attempts, h]
  | case4 start k v h => simp [attempts, h]

theorem attempts_eq_one_of_none (fn : Nat → Option ε) {start budget : Nat} (hb : 0 < budget)
    (h : fn start = none) : attempts fn start budget = 1 := by
  match budget, hb with
  | 1, _ => rfl
  | b + 2, _ => simp [attempts, h]

theorem attempts_le (fn : Nat → Option ε) (start budget : Nat) :
    attempts fn start budget ≤ budget := by
  induction start, budget using attempts.induct fn with
  | case1 => simp [attempts]
  | case2 => simp [attempts]
  | case3 start k h => simp [attempts, h]
  | case4 start k v h ih => simp only [attempts, h]; omega

theorem attempts_fail_before (fn : Nat → Option ε) (start budget : Nat) :
    ∀ j, j + 1 < attempts fn start budget → fn (start + j) ≠ none := by
  induction start, budget using attempts.induct fn with
  | case1 => simp [attempts]
  | case2 => simp [attempts]
  | case3 start k h => simp [attempts, h]
  | case4 start k v h ih =>
    intro j hj
    simp only [attempts, h] at hj
    rcases j with _ | j
    · simp [h]
    · simpa [Nat.add_assoc, Nat.add_comm 1] using ih j (by omega)

theorem attempts_last (fn : Nat → Option ε) (start budget : Nat) (hb : 0 < budget) :
    fn (start + attempts fn start budget - 1) = none ∨ attempts fn start budget = budget := by
  induction start, budget using attempts.induct fn with
  | case1 => omega
  | case2 => simp [attempts]
  | case3 start k h => simp [attempts, h]
  | case4 start k v h ih =>
    simp only [attempts, h]
    have hpos := attempts_pos fn (start + 1) (Nat.succ_pos k)
    rcases ih (Nat.succ_pos k) with ih | ih
    · left; rwa [show start + (attempts fn (start + 1) (k + 1) + 1) - 1 =
        start + 1 + attempts fn (start + 1) (k + 1) - 1 by omega]
    · right; omega

theorem attempts_last_none_iff (fn : Nat → Option ε) (start budget : Nat) (hb : 0 < budget) :
    fn (start + attempts fn start budget - 1) = none ↔ ∃ j < budget, fn (start + j) = none := by
  have hpos := attempts_pos fn start hb
  have hle := attempts_le fn start budget
  refine ⟨fun h => ⟨attempts fn start budget - 1, by omega, by rwa [← Nat.add_sub_assoc hpos]⟩,
    ?_⟩
  rintro ⟨j, hj, hnone⟩
  rcases attempts_last fn start budget hb with h | h
  · exact h
  · by_contra hlast
    rcases Nat.lt_or_ge (j + 1) (attempts fn start budget) with hlt | hge
    · exact attempts_fail_before fn start budget j hlt hnone
    · exact hlast (by rwa [show start + attempts fn start budget - 1 = start + j by omega])

/-! ### The loop counter in wrapping arithmetic -/

private theorem toInt_bounds (x : GoInt) : -2^63 ≤ x.toInt ∧ x.toInt < 2^63 := by
  have := x.isLt
  rw [BitVec.toInt_eq_toNat_cond]
  split <;> omega

private theorem toInt_sub_one (x : GoInt) (h : -2^63 < x.toInt) : (x - 1).toInt = x.toInt - 1 := by
  have := toInt_bounds x
  rw [BitVec.toInt_sub, Int.bmod_def, show (1 : GoInt).toInt = 1 from rfl]
  split <;> omega

private theorem toInt_add_one (x : GoInt) (h : x.toInt < 2^63 - 1) :
    (x + 1).toInt = x.toInt + 1 := by
  have := toInt_bounds x
  rw [BitVec.toInt_add, Int.bmod_def, show (1 : GoInt).toInt = 1 from rfl]
  split <;> omega

theorem sle_tries_sub_one {tries : GoInt} (htries : -2^63 < tries.toInt) (i : GoInt) :
    i.sle (tries - 1) = true ↔ i.toInt < tries.toInt := by
  simp only [BitVec.sle, decide_eq_true_eq, toInt_sub_one tries htries]
  omega

theorem sle_intMin_sub_one (i : GoInt) : i.sle (BitVec.intMin 64 - 1) = true := by
  simp only [BitVec.sle, decide_eq_true_eq, show (BitVec.intMin 64 - 1).toInt = 2^63 - 1 by decide]
  exact Int.le_sub_one_of_lt (toInt_bounds i).2

/-! ### Passes of the loop -/

section Loop

variable {tries : GoInt} {d : Duration} {fn : Nat → Option ε} {s : RetryState ε}

@[simp] theorem retryStep_of_returned {r : Option ε} (h : s.returned = some r) :
    retryStep tries d fn s = s := by
  simp [retryStep, h]

theorem retryStep_returns (h : s.returned = none)
    (hlast : s.i.sle (tries - 1) = false ∨ fn s.calls = none) :
    retryStep tries d fn s =
      { s with calls := s.calls + 1, events := s.events ++ [.call], returned := some (fn s.calls) } := by
  rcases hlast with hg | hf
  · simp only [retryStep, h, hg, Bool.false_eq_true, if_false]
  · cases hg : s.i.sle (tries - 1) <;> simp only [retryStep, h, hg, hf, if_true, if_false,
      Bool.false_eq_true]

theorem retryStep_retries {e : ε} (h : s.returned = none) (hg : s.i.sle (tries - 1) = true)
    (hf : fn s.calls = some e) :
    retryStep tries d fn s =
      { s with i := s.i + 1, calls := s.calls + 1, events := s.events ++ [.call, .sleep d] } := by
  simp only [retryStep, h, hg, hf, if_true]

@[simp] theorem retryRun_of_returned {r : Option ε} (h : s.returned = some r) (m : Nat) :
    retryRun tries d fn s m = s := by
  induction m with
  | zero => rfl
  | succ m ih => simp only [retryRun, retryStep_of_returned h, ih]

private theorem retryRun_last (hret : s.returned = none)
    (hlast : s.i.sle (tries - 1) = false ∨ fn s.calls = none) :
    (∀ m < 1, (retryRun tries d fn s m).returned = none) ∧
      ∃ i, retryRun tries d fn s 1 =
        ⟨i, s.calls + 1, s.events ++ retryTrace d 1, some (fn (s.calls + 1 - 1))⟩ := by
  refine ⟨fun m hm => ?_, s.i, by simp [retryRun, retryStep_returns hret hlast, retryTrace]⟩
  obtain rfl : m = 0 := by omega
  exact hret

/-- From a loop head with `s.calls` calls made and `b` attempts of the budget left, the loop
makes `attempts fn s.calls b` more calls, sleeping between them, and returns the last result. -/
theorem retryRun_attempts (htries : -2^63 < tries.toInt) (b : Nat) (s : RetryState ε)
    (hb : 0 < b) (hret : s.returned = none) (hi : s.i.toInt = s.calls + 1)
    (hbudget : s.calls + b = retryBudget tries) :
    (∀ m < attempts fn s.calls b, (retryRun tries d fn s m).returned = none) ∧
      ∃ i, retryRun tries d fn s (attempts fn s.calls b) =
        ⟨i, s.calls + attempts fn s.calls b, s.events ++ retryTrace d (attempts fn s.calls b),
          some (fn (s.calls + attempts fn s.calls b - 1))⟩ := by
  unfold retryBudget at hbudget
  induction b generalizing s with
  | zero => omega
  | succ b ih =>
    cases hf : fn s.calls with
    | none =>
      rw [attempts_eq_one_of_none fn hb hf]
      exact retryRun_last hret (.inr hf)
    | some e =>
      rcases b with _ | b
      · exact retryRun_last hret
          (.inl (by rw [Bool.eq_false_iff, ne_eq, sle_tries_sub_one htries]; omega))
      have hg : s.i.sle (tries - 1) = true := by rw [sle_tries_sub_one htries]; omega
      have hi' : (s.i + 1).toInt = s.calls + 1 + 1 := by
        have := (toInt_bounds tries).2
        rw [toInt_add_one _ (by omega), hi]
      obtain ⟨hrun, i, hend⟩ :=
        ih { s with i := s.i + 1, calls := s.calls + 1, events := s.events ++ [.call, .sleep d] }
          (by omega) hret hi' (by simp only; omega)
      have hpos := attempts_pos fn (s.calls + 1) (by omega : 0 < b + 1)
      simp only at hrun hend
      simp only [attempts, hf]
      generalize attempts fn (s.calls + 1) (b + 1) = k at hrun hend hpos
      refine ⟨fun m hm => ?_, i, ?_⟩
      · rcases m with _ | m
        · exact hret
        · rw [retryRun, retryStep_retries hret hg hf]; exact hrun m (by omega)
      · rw [retryRun, retryStep_retries hret hg hf, hend, retryTrace_succ d hpos,
          show s.calls + 1 + k = s.calls + (k + 1) by omega]
        simp

theorem retryRun_add (s : RetryState ε) (k j : Nat) :
    retryRun tries d fn s (k + j) = retryRun tries d fn (retryRun tries d fn s k) j := by
  induction k generalizing s with
  | zero => rw [Nat.zero_add]; rfl
  | succ k ih => rw [Nat.succ_add]; exact ih _

theorem retryStep_calls_le (s : RetryState ε) :
    (retryStep tries d fn s).calls ≤ s.calls + 1 := by
  unfold retryStep
  split
  · omega
  · split
    · split <;> simp
    · simp

theorem retryRun_calls_le (s : RetryState ε) (m : Nat) :
    (retryRun tries d fn s m).calls ≤ s.calls + m := by
  induction m generalizing s with
  | zero => exact Nat.le_refl _
  | succ m ih =>
    have hstep : (retryStep tries d fn s).calls ≤ s.calls + 1 := retryStep_calls_le s
    exact Nat.le_trans (ih _) (by omega)

end Loop

/-! ### Runs of `Retry` -/

theorem retry_returns {tries : GoInt} (htries : -2^63 < tries.toInt) (d : Duration)
    (fn : Nat → Option ε) :
    RetryReturns (retry tries d fn) d (attempts fn 0 (retryBudget tries))
      (fn (attempts fn 0 (retryBudget tries) - 1)) := by
  obtain ⟨hrun, i, hend⟩ := @retryRun_attempts ε tries d fn htries (retryBudget tries)
    retryInit (by unfold retryBudget; omega) rfl rfl (Nat.zero_add _)
  simp only [retryInit, Nat.zero_add, List.nil_append] at hrun hend
  have hstable : ∀ m, attempts fn 0 (retryBudget tries) ≤ m →
      retry tries d fn m = ⟨i, attempts fn 0 (retryBudget tries),
        retryTrace d (attempts fn 0 (retryBudget tries)),
        some (fn (attempts fn 0 (retryBudget tries) - 1))⟩ := by
    intro m hm
    rw [retry, ← Nat.add_sub_cancel' hm, retryRun_add, retryInit, hend, retryRun_of_returned rfl]
  exact ⟨hrun, fun m hm => by rw [hstable m hm], fun m hm => by rw [hstable m hm],
    fun m hm => by rw [hstable m hm]⟩

theorem retry_first_success {tries : GoInt} (htries : -2^63 < tries.toInt) (d : Duration)
    (fn : Nat → Option ε) :
    ∃ k, RetryReturns (retry tries d fn) d k (fn (k - 1)) ∧ 1 ≤ k ∧ k ≤ retryBudget tries ∧
      (∀ j, j + 1 < k → fn j ≠ none) ∧ (fn (k - 1) = none ∨ k = retryBudget tries) ∧
      (fn (k - 1) = none ↔ ∃ j < retryBudget tries, fn j = none) := by
  have hb : 0 < retryBudget tries := by unfold retryBudget; omega
  have hlast := attempts_last fn 0 _ hb
  have hiff := attempts_last_none_iff fn 0 _ hb
  simp only [Nat.zero_add] at hlast hiff
  exact ⟨_, retry_returns htries d fn, attempts_pos fn 0 hb, attempts_le fn 0 _,
    fun j hj => by simpa using attempts_fail_before fn 0 _ j hj, hlast, hiff⟩

theorem retry_calls_le_budget {tries : GoInt} (htries : -2^63 < tries.toInt) (d : Duration)
    (fn : Nat → Option ε) (m : Nat) : (retry tries d fn m).calls ≤ retryBudget tries := by
  obtain ⟨k, h, -, hk, -⟩ := retry_first_success htries d fn
  rcases Nat.lt_or_ge m k with hm | hm
  · exact Nat.le_trans (retryRun_calls_le _ m) (by simp [retryInit]; omega)
  · rw [h.calls m hm]; exact hk

/-- With a positive budget `Retry` stops at the first success: it calls `fn` exactly
`k = min(tries, j)` times, `j` the first successful call, sleeps `k - 1` times, between calls
only, and returns the `k`-th call's result. -/
theorem retry_stops_at_first_success (tries : GoInt) (d : Duration) (fn : Nat → Option ε)
    (htries : 1 ≤ tries.toInt) :
    ∃ k : Nat, RetryReturns (retry tries d fn) d k (fn (k - 1)) ∧ 1 ≤ k ∧
      (k : Int) ≤ tries.toInt ∧ (∀ j, j + 1 < k → fn j ≠ none) ∧
      (fn (k - 1) = none ∨ (k : Int) = tries.toInt) ∧
      (fn (k - 1) = none ↔ ∃ j : Nat, (j : Int) < tries.toInt ∧ fn j = none) ∧
      (retryTrace d k).count .call = k ∧ (retryTrace d k).count (.sleep d) = k - 1 ∧
      (retryTrace d k).getLast? = some .call := by
  have hbudget : (retryBudget tries : Int) = tries.toInt := by unfold retryBudget; omega
  obtain ⟨k, h, hpos, hle, hfail, hlast, hiff⟩ :=
    retry_first_success (show -2^63 < tries.toInt by omega) d fn
  refine ⟨k, h, hpos, by omega, hfail, hlast.imp_right (by omega), hiff.trans ?_,
    retryTrace_counts d hpos⟩
  constructor <;> rintro ⟨j, hj, h⟩ <;> exact ⟨j, by omega, h⟩

theorem retry_stops_at_first_success_three :
    (1 : Int) ≤ (3 : GoInt).toInt ∧ ∃ k : Nat,
      RetryReturns (retry 3 0 fun _ => some ()) 0 k (some ()) ∧ (k : Int) = (3 : GoInt).toInt := by
  obtain ⟨k, h, -, -, -, hlast, -⟩ :=
    retry_stops_at_first_success 3 0 (fun _ => some ()) (by decide)
  exact ⟨by decide, k, h, hlast.resolve_left (by simp)⟩

private theorem retryRun_intMin (d : Duration) (e : ε) (m : Nat) (s : RetryState ε)
    (hs : s.returned = none) :
    (retryRun (BitVec.intMin 64) d (fun _ => some e) s m).returned = none ∧
      (retryRun (BitVec.intMin 64) d (fun _ => some e) s m).calls = s.calls + m := by
  induction m generalizing s with
  | zero => exact ⟨hs, rfl⟩
  | succ m ih =>
    rw [retryRun, retryStep_retries hs (sle_intMin_sub_one s.i) rfl]
    obtain ⟨h1, h2⟩ :=
      ih { s with i := s.i + 1, calls := s.calls + 1, events := s.events ++ [.call, .sleep d] } hs
    refine ⟨h1, ?_⟩
    rw [h2]; simp only; omega

/-- At the minimum `int`, `Retry` with an `fn` that always fails never returns: after `m`
passes it is still looping and has called `fn` `m` times. -/
theorem retry_intMin_never_returns (d : Duration) (e : ε) (m : Nat) :
    (retry (BitVec.intMin 64) d (fun _ => some e) m).returned = none ∧
      (retry (BitVec.intMin 64) d (fun _ => some e) m).calls = m := by
  simpa [retry, retryInit] using retryRun_intMin d e m retryInit rfl

theorem toInt_gt_of_ne_intMin {tries : GoInt} (h : tries ≠ BitVec.intMin 64) :
    -2^63 < tries.toInt := by
  have hne : tries.toInt ≠ (BitVec.intMin 64).toInt := BitVec.toInt_ne.mpr h
  have hmin : (BitVec.intMin 64).toInt = -2^63 := by decide
  have := toInt_bounds tries
  omega

/-- For every `tries` but the minimum `int` (zero and negative budgets included) and every `fn`,
`Retry` returns within `max(tries, 1)` passes and never calls `fn` more than `max(tries, 1)`
times. -/
theorem retry_returns_within_budget {tries : GoInt} (htries : tries ≠ BitVec.intMin 64)
    (d : Duration) (fn : Nat → Option ε) :
    ∃ r, (∀ m, retryBudget tries ≤ m → (retry tries d fn m).returned = some r) ∧
      ∀ m, (retry tries d fn m).calls ≤ retryBudget tries := by
  obtain ⟨k, h, -, hk, -⟩ := retry_first_success (toInt_gt_of_ne_intMin htries) d fn
  exact ⟨_, fun m hm => h.returned m (Nat.le_trans hk hm),
    retry_calls_le_budget (toInt_gt_of_ne_intMin htries) d fn⟩

theorem retry_returns_within_budget_zero :
    (0 : GoInt) ≠ BitVec.intMin 64 ∧ ∃ r : Option Unit,
      ∀ m, retryBudget 0 ≤ m → (retry 0 0 (fun _ => some ()) m).returned = some r :=
  ⟨by decide, (retry_returns_within_budget (by decide) 0 fun _ => some ()).imp fun _ h => h.1⟩

/-- A budget of zero or less still calls `fn` once: for every such `tries` but the minimum
`int`, `Retry` makes exactly one call, never sleeps, and returns that call's result. -/
theorem retry_nonpositive_calls_once {tries : GoInt} (htries : tries ≠ BitVec.intMin 64)
    (hle : tries.toInt ≤ 0) (d : Duration) (fn : Nat → Option ε) :
    RetryReturns (retry tries d fn) d 1 (fn 0) := by
  have hb : retryBudget tries = 1 := by unfold retryBudget; omega
  simpa [hb, attempts] using retry_returns (toInt_gt_of_ne_intMin htries) d fn

theorem retry_nonpositive_calls_once_zero :
    (0 : GoInt) ≠ BitVec.intMin 64 ∧ (0 : GoInt).toInt ≤ 0 ∧
      RetryReturns (retry 0 0 (fun _ => some ())) 0 1 (some ()) :=
  ⟨by decide, by decide, retry_nonpositive_calls_once (by decide) (by decide) 0 _⟩

end Rollkit
