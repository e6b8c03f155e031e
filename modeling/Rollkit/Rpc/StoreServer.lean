import Mathlib
import Rollkit.Node.Height
import Rollkit.Types.Metadata

/-!
# Store server

The RPC methods of `StoreServer` over one state of the store. Each method answers a response or
a `connect` error, and records the store calls it made. The block types and their proto
conversions live in `types`, outside this model, and are given by a `BlockCodec`.
-/

namespace Rollkit

abbrev Bytes := List UInt8

inductive Code where
  | notFound
  | invalidArgument
  | internal
  deriving DecidableEq, Repr

structure ConnectError where
  code : Code
  err : GoError
  deriving DecidableEq, Repr

/-- The shape of the handlers that make one read: the read's value converted, or
`connect.NewError(code, wrap(err))` when the read fails. -/
def readResponse {α β : Type} (code : Code) (wrap : GoError → GoError) (convert : α → β) :
    Except GoError α → Except ConnectError β
  | .error err => .error ⟨code, wrap err⟩
  | .ok value => .ok (convert value)

theorem readResponse_eq_ok_iff {α β : Type} {code : Code} {wrap : GoError → GoError}
    {convert : α → β} {read : Except GoError α} {b : β} :
    readResponse code wrap convert read = .ok b ↔ ∃ value, read = .ok value ∧ convert value = b := by
  cases read <;> simp [readResponse]

/-- `SignedHeader` and `Data` with their `ToProto` conversions; only the header's can fail. -/
structure BlockCodec where
  SignedHeader : Type
  Data : Type
  PbHeader : Type
  PbData : Type
  headerToProto : SignedHeader → Except GoError PbHeader
  dataToProto : Data → PbData

structure State where
  appHash : Bytes
  initialHeight : UInt64
  lastBlockHeight : UInt64
  lastBlockTime : Int
  daHeight : UInt64
  lastResultsHash : Bytes
  chainID : String
  versionBlock : UInt64
  versionApp : UInt64
  deriving DecidableEq, Repr

/-- The answers of `store.Store` to the calls the server makes, in one state of the store. -/
structure Store (B : BlockCodec) where
  height : Except GoError UInt64
  getBlockData : UInt64 → Except GoError (B.SignedHeader × B.Data)
  getBlockByHash : Bytes → Except GoError (B.SignedHeader × B.Data)
  getState : Except GoError State
  getMetadata : String → Except GoError Bytes

inductive StoreCall where
  | height
  | getBlockData (height : UInt64)
  | getBlockByHash (hash : Bytes)
  | getState
  | getMetadata (key : String)
  deriving DecidableEq, Repr

inductive BlockIdentifier where
  | height (height : UInt64)
  | hash (hash : Bytes)
  deriving DecidableEq, Repr

structure PbBlock (B : BlockCodec) where
  header : B.PbHeader
  data : B.PbData

structure Timestamp where
  seconds : Int
  nanos : Int
  deriving DecidableEq, Repr

structure PbState where
  appHash : Bytes
  lastBlockHeight : UInt64
  lastBlockTime : Timestamp
  daHeight : UInt64
  lastResultsHash : Bytes
  chainId : String
  versionBlock : UInt64
  versionApp : UInt64
  initialHeight : UInt64
  deriving DecidableEq, Repr

structure MetadataKey where
  key : String
  description : String
  deriving DecidableEq, Repr

structure MetadataEntry where
  key : String
  value : Bytes
  deriving DecidableEq, Repr

namespace StoreServer

variable (B : BlockCodec)

def blockResponse (lookup : Except GoError (B.SignedHeader × B.Data)) :
    Except ConnectError (PbBlock B) :=
  match lookup with
  | .error err => .error ⟨.internal, s!"failed to retrieve block data: {err}"⟩
  | .ok (header, data) =>
    match B.headerToProto header with
    | .error err => .error ⟨.internal, s!"failed to convert block header to proto format: {err}"⟩
    | .ok pbHeader => .ok ⟨pbHeader, B.dataToProto data⟩

/-- `GetBlock`: height 0 asks for the latest block, at `store.Height()`. -/
def getBlock (s : Store B) (identifier : Option BlockIdentifier) :
    List StoreCall × Except ConnectError (PbBlock B) :=
  match identifier with
  | some (.height fetchHeight) =>
    if fetchHeight = 0 then
      match s.height with
      | .error err => ([.height], .error ⟨.internal, s!"failed to get latest height: {err}"⟩)
      | .ok fetchHeight =>
        if fetchHeight = 0 then
          ([.height], .error ⟨.notFound, "store is empty, no latest block available"⟩)
        else ([.height, .getBlockData fetchHeight], blockResponse B (s.getBlockData fetchHeight))
    else ([.getBlockData fetchHeight], blockResponse B (s.getBlockData fetchHeight))
  | some (.hash hash) => ([.getBlockByHash hash], blockResponse B (s.getBlockByHash hash))
  | none => ([], .error ⟨.invalidArgument, "invalid or unsupported identifier type provided"⟩)

/-- `timestamppb.New` on a time of `t` nanoseconds since the epoch. -/
def timestampOf (t : Int) : Timestamp := ⟨t / 1000000000, t % 1000000000⟩

def getState (s : Store B) : List StoreCall × Except ConnectError PbState :=
  ([.getState], readResponse .notFound id (fun state =>
    { appHash := state.appHash
      lastBlockHeight := state.lastBlockHeight
      lastBlockTime := timestampOf state.lastBlockTime
      daHeight := state.daHeight
      lastResultsHash := state.lastResultsHash
      chainId := state.chainID
      versionBlock := state.versionBlock
      versionApp := state.versionApp
      initialHeight := state.initialHeight }) s.getState)

def getMetadata (s : Store B) (key : String) : List StoreCall × Except ConnectError Bytes :=
  ([.getMetadata key], readResponse .notFound id id (s.getMetadata key))

/-- `ListMetadataKeys` ranges over the catalogue map, in an order Go leaves open: `visit` is the
order the range takes, some order of `getKnownMetadataKeys.entries`. -/
def listMetadataKeys (visit : List (String × String)) : List MetadataKey :=
  visit.map fun (key, description) => ⟨key, description⟩

def appendMetadata (s : Store B) (metadataEntries : List MetadataEntry) (key : String) :
    List MetadataEntry :=
  match s.getMetadata key with
  | .error _ => metadataEntries
  | .ok value => metadataEntries ++ [⟨key, value⟩]

def getAllMetadata (s : Store B) : List StoreCall × Except ConnectError (List MetadataEntry) :=
  (getKnownMetadataKeysList.map .getMetadata,
    .ok (getKnownMetadataKeysList.foldl (appendMetadata B s) []))

variable {B}

/-! ### Metadata -/

/-- The entries of `keys` the store holds, each with its value, in the order of `keys`. -/
def presentMetadata (s : Store B) (keys : List String) : List MetadataEntry :=
  keys.filterMap fun key => (s.getMetadata key).toOption.map (MetadataEntry.mk key)

theorem mem_presentMetadata {s : Store B} {keys : List String} {e : MetadataEntry} :
    e ∈ presentMetadata s keys ↔ e.key ∈ keys ∧ s.getMetadata e.key = .ok e.value := by
  simp only [presentMetadata, List.mem_filterMap]
  constructor
  · rintro ⟨key, hkey, he⟩
    cases h : s.getMetadata key <;> simp [h, Except.toOption] at he
    subst he
    exact ⟨hkey, h⟩
  · rintro ⟨hkey, h⟩
    exact ⟨e.key, hkey, by simp [h, Except.toOption]⟩

theorem presentMetadata_keys_sublist (s : Store B) (keys : List String) :
    ((presentMetadata s keys).map MetadataEntry.key).Sublist keys := by
  induction keys with
  | nil => simp [presentMetadata]
  | cons key keys ih =>
    cases h : s.getMetadata key <;> simp [presentMetadata, List.filterMap_cons, h, Except.toOption]
    · exact ih.cons key
    · exact ih

theorem foldl_appendMetadata (s : Store B) (keys : List String) (acc : List MetadataEntry) :
    keys.foldl (appendMetadata B s) acc = acc ++ presentMetadata s keys := by
  induction keys generalizing acc with
  | nil => simp [presentMetadata]
  | cons key keys ih =>
    rw [List.foldl_cons, ih]
    cases h : s.getMetadata key <;> simp [presentMetadata, appendMetadata, h, Except.toOption]

theorem getAllMetadata_eq (s : Store B) :
    (getAllMetadata B s).2 = .ok (presentMetadata s getKnownMetadataKeysList) := by
  rw [getAllMetadata, foldl_appendMetadata, List.nil_append]

/-- `GetAllMetadata` answers, in the order of `GetKnownMetadataKeysList`, exactly the known keys
whose lookup succeeds, each with its value and each once; every key it answers is one that
`ListMetadataKeys` lists, whatever order the range over the catalogue map takes. -/
theorem getAllMetadata_returns_present_known_keys (s : Store B) :
    ∃ entries, (getAllMetadata B s).2 = .ok entries ∧
      entries = presentMetadata s getKnownMetadataKeysList ∧
      (entries.map MetadataEntry.key).Nodup ∧
      (∀ e ∈ entries, s.getMetadata e.key = .ok e.value ∧ e.key ∈ getKnownMetadataKeysList ∧
        e.key ∈ getKnownMetadataKeys.keys) ∧
      ∀ visit : List (String × String), visit.Perm getKnownMetadataKeys.entries →
        ∀ e ∈ entries, ∃ k ∈ listMetadataKeys visit, k.key = e.key := by
  refine ⟨_, getAllMetadata_eq s, rfl,
    (presentMetadata_keys_sublist s _).nodup getKnownMetadataKeysList_nodup, ?_, ?_⟩
  · intro e he
    obtain ⟨hk, hv⟩ := mem_presentMetadata.mp he
    exact ⟨hv, hk, (mem_getKnownMetadataKeys_keys e.key).mpr hk⟩
  · intro visit hvisit e he
    obtain ⟨entry, hentry, hkey⟩ := List.mem_map.mp
      ((mem_getKnownMetadataKeys_keys e.key).mpr (mem_presentMetadata.mp he).1)
    exact ⟨⟨entry.1, entry.2⟩, List.mem_map.mpr ⟨entry, hvisit.mem_iff.mpr hentry, rfl⟩, hkey⟩

/-- On every known key `GetAllMetadata` agrees with `GetMetadata`: it holds the value
`GetMetadata` answers, and leaves the key out exactly when `GetMetadata` answers an error. -/
theorem getAllMetadata_agrees_with_getMetadata (s : Store B) {key : String}
    (hkey : key ∈ getKnownMetadataKeysList) (value : Bytes) :
    (∃ entries, (getAllMetadata B s).2 = .ok entries ∧ ⟨key, value⟩ ∈ entries) ↔
      (getMetadata B s key).2 = .ok value := by
  have hget : (getMetadata B s key).2 = .ok value ↔ s.getMetadata key = .ok value := by
    simp [getMetadata, readResponse_eq_ok_iff]
  simp only [getAllMetadata_eq, Except.ok.injEq, exists_eq_left', hget, mem_presentMetadata, hkey,
    true_and]

theorem getAllMetadata_agrees_with_getMetadata_d :
    daIncludedHeightKey ∈ getKnownMetadataKeysList ∧
      ((∃ entries, (getAllMetadata ⟨Unit, Unit, Unit, Unit, fun _ => .ok (), fun _ => ()⟩
          ⟨.ok 0, fun _ => .error "", fun _ => .error "", .error "", fun _ => .ok [42]⟩).2 =
            .ok entries ∧ ⟨daIncludedHeightKey, [42]⟩ ∈ entries) ↔
        (getMetadata ⟨Unit, Unit, Unit, Unit, fun _ => .ok (), fun _ => ()⟩
          ⟨.ok 0, fun _ => .error "", fun _ => .error "", .error "", fun _ => .ok [42]⟩
          daIncludedHeightKey).2 = .ok [42]) :=
  ⟨by decide, getAllMetadata_agrees_with_getMetadata _ (by decide) _⟩

/-! ### State -/

/-- A block the store cannot find is not reported as absent: whatever error the lookup of the
requested block fails with, a not-found one included, `GetBlock` answers `CodeInternal`, for the
block at `h`, for the latest block when it is at `h`, and for a hash. -/
theorem getBlock_missing_block_is_internal (s : Store B) (err : GoError) (h : UInt64) (hh : h ≠ 0)
    (hs : s.getBlockData h = .error err) :
    (getBlock B s (some (.height h))).2 =
        .error ⟨.internal, s!"failed to retrieve block data: {err}"⟩ ∧
      (s.height = .ok h → (getBlock B s (some (.height 0))).2 =
        .error ⟨.internal, s!"failed to retrieve block data: {err}"⟩) ∧
      ∀ hash, s.getBlockByHash hash = .error err → (getBlock B s (some (.hash hash))).2 =
        .error ⟨.internal, s!"failed to retrieve block data: {err}"⟩ := by
  refine ⟨by simp [getBlock, hh, hs, blockResponse], fun hheight => ?_, fun hash hhash => ?_⟩
  · simp [getBlock, hheight, hh, hs, blockResponse]
  · simp [getBlock, hhash, blockResponse]

theorem getBlock_missing_block_is_internal_at_one :
    (1 : UInt64) ≠ 0 ∧
      (getBlock ⟨Unit, Unit, Unit, Unit, fun _ => .ok (), fun _ => ()⟩
        ⟨.ok 1, fun _ => .error "datastore: key not found",
          fun _ => .error "datastore: key not found", .error "datastore: key not found",
          fun _ => .error "datastore: key not found"⟩ (some (.height 1))).2 =
        .error ⟨.internal, "failed to retrieve block data: datastore: key not found"⟩ :=
  ⟨by decide, (getBlock_missing_block_is_internal _ "datastore: key not found" 1 (by decide) rfl).1⟩

end StoreServer

end Rollkit
