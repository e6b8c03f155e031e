import Mathlib
import Rollkit.Node.Retry

/-!
# Node heights and the waits on them

`getNodeHeight` reads a node's progress from one of three sources, and the two waits of the node
tests poll through `Retry(300, 100*time.Millisecond, ...)`. A live node's answers change while a
wait runs, so a node is given by what it reports at each observation: observation `t` is the
`t + 1`-th call of the closure the wait hands to `Retry`.
-/

namespace Rollkit

abbrev GoError := String

/-- `type Source int`: any Go `int`, of which `Header = 0`, `Data = 1` and `Store = 2` are
named. -/
structure Source where
  val : GoInt
  deriving DecidableEq, Repr

namespace Source

def header : Source := ⟨0⟩
def data : Source := ⟨1⟩
def store : Source := ⟨2⟩

end Source

/-- The nodes the helpers tell apart. A `*FullNode` reports the heights of its header-sync and
data-sync stores, its block manager's `GetStoreHeight` and `GetDAIncludedHeight`; a `*LightNode`
the height of its header-sync store; any other `Node` (`nil` included) reports nothing. -/
inductive Node where
  | full (hSyncHeight dSyncHeight : Nat → UInt64) (storeHeight : Nat → Except GoError UInt64)
      (daIncludedHeight : Nat → UInt64)
  | light (hSyncHeight : Nat → UInt64)
  | other

def getNodeHeightFromHeader : Node → Nat → Except GoError UInt64
  | .full hSyncHeight _ _ _, t => .ok (hSyncHeight t)
  | .light hSyncHeight, t => .ok (hSyncHeight t)
  | .other, _ => .error "not a full or light node"

def getNodeHeightFromData : Node → Nat → Except GoError UInt64
  | .full _ dSyncHeight _ _, t => .ok (dSyncHeight t)
  | _, _ => .error "not a full node"

def getNodeHeightFromStore : Node → Nat → Except GoError UInt64
  | .full _ _ storeHeight _, t => storeHeight t
  | _, _ => .error "not a full node"

def getNodeHeight (node : Node) (source : Source) (t : Nat) : Except GoError UInt64 :=
  if source = .header then getNodeHeightFromHeader node t
  else if source = .data then getNodeHeightFromData node t
  else if source = .store then getNodeHeightFromStore node t
  else .error "invalid source"

/-- A full node reads `Header` from its header-sync store, `Data` from its data-sync store and
`Store` from its block manager. -/
@[simp] theorem getNodeHeight_full (hSyncHeight dSyncHeight : Nat → UInt64)
    (storeHeight : Nat → Except GoError UInt64) (daIncludedHeight : Nat → UInt64) (source : Source)
    (t : Nat) :
    getNodeHeight (.full hSyncHeight dSyncHeight storeHeight daIncludedHeight) source t =
      if source = .header then .ok (hSyncHeight t)
      else if source = .data then .ok (dSyncHeight t)
      else if source = .store then storeHeight t
      else .error "invalid source" := rfl

@[simp] theorem getNodeHeight_light (hSyncHeight : Nat → UInt64) (source : Source) (t : Nat) :
    getNodeHeight (.light hSyncHeight) source t =
      if source = .header then .ok (hSyncHeight t)
      else if source = .data then .error "not a full node"
      else if source = .store then .error "not a full node"
      else .error "invalid source" := rfl

@[simp] theorem getNodeHeight_other (source : Source) (t : Nat) :
    getNodeHeight .other source t =
      if source = .header then .error "not a full or light node"
      else if source = .data then .error "not a full node"
      else if source = .store then .error "not a full node"
      else .error "invalid source" := rfl

def Node.sources : Node → List Source
  | .full .. => [.header, .data, .store]
  | .light _ => [.header]
  | .other => []

theorem getNodeHeight_not_mem_sources {node : Node} {source : Source}
    (h : source ∉ node.sources) : ∃ err, ∀ t, getNodeHeight node source t = .error err := by
  have hne : Source.header ≠ Source.data ∧ Source.header ≠ Source.store ∧
      Source.data ≠ Source.store := by decide
  by_cases hh : source = .header
  · subst hh; cases node <;> simp_all [getNodeHeight, getNodeHeightFromHeader, Node.sources]
  by_cases hd : source = .data
  · subst hd
    cases node <;> simp_all [getNodeHeight, getNodeHeightFromData, Node.sources, hne.1.symm]
  by_cases hs : source = .store
  · subst hs
    cases node <;> simp_all [getNodeHeight, getNodeHeightFromStore, Node.sources, hne.2.1.symm,
      hne.2.2.symm]
  · exact ⟨"invalid source", fun t => by simp [getNodeHeight, hh, hd, hs]⟩

def waitInterval : Duration := 100000000

def heightReached (n nHeight : UInt64) : Option GoError :=
  if nHeight ≥ n then none else some s!"expected height > {n}, got {nHeight}"

theorem heightReached_eq_none_iff (n nHeight : UInt64) :
    heightReached n nHeight = none ↔ n ≤ nHeight := by
  unfold heightReached; split <;> simp_all

def atLeastNBlocks (node : Node) (n : UInt64) (source : Source) (t : Nat) : Option GoError :=
  match getNodeHeight node source t with
  | .error err => some err
  | .ok nHeight => heightReached n nHeight

def waitForAtLeastNBlocks (node : Node) (n : UInt64) (source : Source) :
    Nat → RetryState GoError :=
  retry 300 waitInterval (atLeastNBlocks node n source)

def atLeastNDAIncludedHeight (daIncludedHeight : Nat → UInt64) (n : UInt64) (t : Nat) :
    Option GoError :=
  let nHeight := daIncludedHeight t
  if nHeight = 0 then some "waiting for DA inclusion" else heightReached n nHeight

/-- The run-time panic of the type assertion `node.(*FullNode)` on any other node. -/
structure TypeAssertionPanic where
  deriving DecidableEq, Repr

/-- The closure asserts `node.(*FullNode)` at every call, so on any other node the first pass
panics. -/
def waitForAtLeastNDAIncludedHeight (node : Node) (n : UInt64) (fuel : Nat) :
    Except TypeAssertionPanic (RetryState GoError) :=
  match node with
  | .full _ _ _ daIncludedHeight =>
    .ok (retry 300 waitInterval (atLeastNDAIncludedHeight daIncludedHeight n) fuel)
  | _ =>
    match fuel with
    | 0 => .ok retryInit
    | _ + 1 => .error ⟨⟩

def waitForFirstBlock (node : Node) (source : Source) : Nat → RetryState GoError :=
  waitForAtLeastNBlocks node 1 source

def waitForFirstBlockToBeDAIncluded (node : Node) (fuel : Nat) :
    Except TypeAssertionPanic (RetryState GoError) :=
  waitForAtLeastNDAIncludedHeight node 1 fuel

/-- A wait `run` on `closure` that polls until a reading is `good`: it returns `nil` exactly
when one of the first 300 readings is good, stopping at the first good one, and otherwise
returns what `closure` gave at the 300th reading. -/
def WaitsFor (run : Nat → RetryState GoError) (closure : Nat → Option GoError)
    (good : Nat → Prop) : Prop :=
  ∃ k, RetryReturns run waitInterval k (closure (k - 1)) ∧
    (closure (k - 1) = none ↔ ∃ t < 300, good t) ∧
    (closure (k - 1) = none → good (k - 1) ∧ ∀ t, t + 1 < k → ¬ good t) ∧
    (closure (k - 1) ≠ none → k = 300)

theorem atLeastNBlocks_eq_none_iff (node : Node) (n : UInt64) (source : Source) (t : Nat) :
    atLeastNBlocks node n source t = none ↔
      ∃ h, getNodeHeight node source t = .ok h ∧ n ≤ h := by
  unfold atLeastNBlocks
  cases getNodeHeight node source t <;> simp [heightReached_eq_none_iff]

theorem atLeastNDAIncludedHeight_eq_none_iff (daIncludedHeight : Nat → UInt64) (n : UInt64)
    (t : Nat) :
    atLeastNDAIncludedHeight daIncludedHeight n t = none ↔
      daIncludedHeight t ≠ 0 ∧ n ≤ daIncludedHeight t := by
  unfold atLeastNDAIncludedHeight
  by_cases h0 : daIncludedHeight t = 0 <;> simp [h0, heightReached_eq_none_iff]

theorem waitsFor_retry (closure : Nat → Option GoError) (good : Nat → Prop)
    (hgood : ∀ t, closure t = none ↔ good t) :
    WaitsFor (retry 300 waitInterval closure) closure good := by
  have hbudget : retryBudget 300 = 300 := by decide
  obtain ⟨k, h, -, -, hfail, hlast, hiff⟩ :=
    retry_first_success (show -2^63 < (300 : GoInt).toInt by decide) waitInterval closure
  rw [hbudget] at hlast hiff
  refine ⟨k, h, hiff.trans (by simp only [hgood]), fun hk => ⟨(hgood _).mp hk, fun t ht =>
    (hgood t).not.mp (hfail t ht)⟩, fun hk => hlast.resolve_left hk⟩

/-- `waitForAtLeastNBlocks` returns `nil` exactly when one of its first 300 readings is a height
of at least `n` (a failed reading never counts), stopping at the first; otherwise it returns the
error of the 300th reading. On a full node, `waitForAtLeastNDAIncludedHeight` likewise waits for a
DA-included height that is not 0 and at least `n`; on any other node its first pass panics. -/
theorem waits_return_nil_iff_reading_reached (node : Node) (n : UInt64) (source : Source) :
    WaitsFor (waitForAtLeastNBlocks node n source) (atLeastNBlocks node n source)
      (fun t => ∃ h, getNodeHeight node source t = .ok h ∧ n ≤ h) ∧
    (∀ hSyncHeight dSyncHeight storeHeight daIncludedHeight,
      node = .full hSyncHeight dSyncHeight storeHeight daIncludedHeight →
      ∃ run, (∀ fuel, waitForAtLeastNDAIncludedHeight node n fuel = .ok (run fuel)) ∧
        WaitsFor run (atLeastNDAIncludedHeight daIncludedHeight n)
          (fun t => daIncludedHeight t ≠ 0 ∧ n ≤ daIncludedHeight t)) ∧
    ((∀ hSyncHeight dSyncHeight storeHeight daIncludedHeight,
      node ≠ .full hSyncHeight dSyncHeight storeHeight daIncludedHeight) →
      ∀ fuel, 0 < fuel → waitForAtLeastNDAIncludedHeight node n fuel = .error ⟨⟩) := by
  refine ⟨waitsFor_retry _ _ (atLeastNBlocks_eq_none_iff node n source), ?_, ?_⟩
  · rintro hSyncHeight dSyncHeight storeHeight daIncludedHeight rfl
    exact ⟨retry 300 waitInterval (atLeastNDAIncludedHeight daIncludedHeight n), fun _ => rfl,
      waitsFor_retry _ _ (atLeastNDAIncludedHeight_eq_none_iff _ n)⟩
  · intro hfull fuel hfuel
    obtain ⟨fuel, rfl⟩ := Nat.exists_eq_add_of_lt hfuel
    cases node with
    | full a b c e => exact absurd rfl (hfull a b c e)
    | light _ => rfl
    | other => rfl

/-- A wait on a source the node does not have does not fail fast: `waitForAtLeastNBlocks` makes
all 300 readings, sleeping between them, and returns the source's error. -/
theorem waitForAtLeastNBlocks_unsupported_source (node : Node) (n : UInt64) (source : Source)
    (h : source ∉ node.sources) :
    ∃ err, (∀ t, getNodeHeight node source t = .error err) ∧
      RetryReturns (waitForAtLeastNBlocks node n source) waitInterval 300 (some err) := by
  obtain ⟨err, herr⟩ := getNodeHeight_not_mem_sources h
  have hclosure : ∀ t, atLeastNBlocks node n source t = some err := fun t => by
    simp [atLeastNBlocks, herr]
  obtain ⟨k, hk, -, -, -, hlast, -⟩ := retry_first_success
    (show -2^63 < (300 : GoInt).toInt by decide) waitInterval (atLeastNBlocks node n source)
  have hb : retryBudget 300 = 300 := by decide
  rw [hclosure] at hk hlast
  obtain rfl : k = 300 := by simpa [hb] using hlast
  exact ⟨err, herr, hk⟩

theorem waitForAtLeastNBlocks_unsupported_source_other :
    Source.header ∉ Node.other.sources ∧
      ∃ err, RetryReturns (waitForAtLeastNBlocks .other 1 .header) waitInterval 300 (some err) :=
  ⟨by simp [Node.sources], (waitForAtLeastNBlocks_unsupported_source .other 1 .header
    (by simp [Node.sources])).imp fun _ h => h.2⟩

/-- Each block wait polls the store its source names: on a full node the header-sync store for
`Header`, the data-sync store for `Data` and the block manager for `Store`, where a failed read
never counts; on a light node the header-sync store for `Header`. -/
theorem waitForAtLeastNBlocks_reads_node_stores (n : UInt64) (hSyncHeight dSyncHeight : Nat → UInt64)
    (storeHeight : Nat → Except GoError UInt64) (daIncludedHeight : Nat → UInt64) :
    WaitsFor (waitForAtLeastNBlocks (.full hSyncHeight dSyncHeight storeHeight daIncludedHeight) n
        .header) (atLeastNBlocks (.full hSyncHeight dSyncHeight storeHeight daIncludedHeight) n
        .header) (fun t => n ≤ hSyncHeight t) ∧
    WaitsFor (waitForAtLeastNBlocks (.full hSyncHeight dSyncHeight storeHeight daIncludedHeight) n
        .data) (atLeastNBlocks (.full hSyncHeight dSyncHeight storeHeight daIncludedHeight) n
        .data) (fun t => n ≤ dSyncHeight t) ∧
    WaitsFor (waitForAtLeastNBlocks (.full hSyncHeight dSyncHeight storeHeight daIncludedHeight) n
        .store) (atLeastNBlocks (.full hSyncHeight dSyncHeight storeHeight daIncludedHeight) n
        .store) (fun t => ∃ h, storeHeight t = .ok h ∧ n ≤ h) ∧
    WaitsFor (waitForAtLeastNBlocks (.light hSyncHeight) n .header)
      (atLeastNBlocks (.light hSyncHeight) n .header) (fun t => n ≤ hSyncHeight t) := by
  have hne : Source.header ≠ Source.data ∧ Source.header ≠ Source.store ∧
      Source.data ≠ Source.store := by decide
  refine ⟨waitsFor_retry _ _ fun t => ?_, waitsFor_retry _ _ fun t => ?_,
    waitsFor_retry _ _ fun t => ?_, waitsFor_retry _ _ fun t => ?_⟩ <;>
    simp [atLeastNBlocks_eq_none_iff, hne.1.symm, hne.2.1.symm, hne.2.2.symm]

end Rollkit
