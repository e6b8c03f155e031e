import Mathlib
import Rollkit.Rpc.StoreServer
import Rollkit.Rpc.Json

/-!
# P2P, health and REST endpoints

The other two services of the RPC handler, and the plain HTTP endpoints registered beside them.
The two REST metadata endpoints build their JSON bodies by appending to a string in a loop over
a catalogue; each loop builds the catalogue's items separated by commas. The items are written
with `%s` and no escaping, which is sound because no catalogue key or description holds a
character that JSON would need escaped: for every list of entries with no such character, the
keys endpoint answers a JSON document that reads back as what `ListMetadataKeys` answers for
the same entries.
-/

namespace Rollkit

structure AddrInfo where
  id : String
  text : String
  deriving DecidableEq, Repr

structure PeerInfo where
  id : String
  address : String
  deriving DecidableEq, Repr

structure NetworkInfo where
  id : String
  listenAddress : List String
  deriving DecidableEq, Repr

structure NetInfo where
  id : String
  listenAddresses : List String
  deriving DecidableEq, Repr

namespace P2PServer

def getPeerInfo (peers : Except GoError (List AddrInfo)) : Except ConnectError (List PeerInfo) :=
  readResponse .internal (fun err => s!"failed to get peer info: {err}")
    (List.map fun peer => ⟨peer.id, peer.text⟩) peers

def getNetInfo (netInfo : Except GoError NetworkInfo) : Except ConnectError NetInfo :=
  readResponse .internal (fun err => s!"failed to get network info: {err}")
    (fun netInfo => ⟨netInfo.id, netInfo.listenAddress⟩) netInfo

end P2PServer

inductive HealthStatus where
  | pass
  deriving DecidableEq, Repr

def HealthServer.livez : HealthStatus := .pass

/-! ### REST endpoints -/

structure HttpResponse where
  status : Nat
  contentType : String
  body : String
  deriving DecidableEq, Repr

def httpError (error : String) (code : Nat) : HttpResponse :=
  ⟨code, "text/plain; charset=utf-8", error ++ "\n"⟩

def keyEntryJson (key description : String) : String :=
  s!"\x7b\"key\":\"{key}\",\"description\":\"{description}\"\x7d"

def appendKeyEntry (state : String × Bool) (entry : String × String) : String × Bool :=
  let response := if !state.2 then state.1 ++ "," else state.1
  (response ++ keyEntryJson entry.1 entry.2, false)

/-- `handleListMetadataKeys`; the range over the catalogue map visits its entries in the order
`visit`, some order of `getKnownMetadataKeys.entries`. -/
def handleListMetadataKeys (method : String) (visit : List (String × String)) : HttpResponse :=
  if method ≠ "GET" then httpError "Method not allowed" 405
  else ⟨200, "application/json",
    (visit.foldl appendKeyEntry ("\x7b\"keys\":[", true)).1 ++ "]\x7d"⟩

def jsonString (key : String) : String := "\"" ++ key ++ "\""

def appendAvailableKey (response : String) (item : Nat × String) : String :=
  (if item.1 > 0 then response ++ "," else response) ++ jsonString item.2

def handleGetAllMetadata (method : String) : HttpResponse :=
  if method ≠ "GET" then httpError "Method not allowed" 405
  else ⟨200, "application/json",
    getKnownMetadataKeysList.enum.foldl appendAvailableKey
      ("\x7b\"message\":\"Use the RPC interface or gRPC-Web to fetch actual metadata values\"," ++
        "\"available_keys\":[") ++
      "],\"rpc_method\":\"rollkit.v1.StoreService/GetAllMetadata\"\x7d"⟩

def healthLive : HttpResponse := ⟨200, "text/plain", "OK\n"⟩

/-- The paths `RegisterCustomHTTPEndpoints` adds to the mux, each matched exactly, with what
each answers; `none` for a path it does not register. A request to the keys endpoint ranges over
the catalogue map in the order `visit`. -/
def registerCustomHTTPEndpoints (visit : List (String × String)) (path method : String) :
    Option HttpResponse :=
  if path = "/health/live" then some healthLive
  else if path = "/api/v1/metadata/keys" then some (handleListMetadataKeys method visit)
  else if path = "/api/v1/metadata" then some (handleGetAllMetadata method)
  else none

private theorem commaSeparated_cons (item : String) (items : List String) :
    commaSeparated (item :: items) =
      if items = [] then item else item ++ "," ++ commaSeparated items := by
  cases items <;> rfl

theorem foldl_appendKeyEntry_rest (visit : List (String × String)) (response : String) :
    (visit.foldl appendKeyEntry (response, false)).1 =
      if visit = [] then response
      else response ++ "," ++ commaSeparated (visit.map fun e => keyEntryJson e.1 e.2) := by
  induction visit generalizing response with
  | nil => rfl
  | cons e visit ih =>
    simp only [List.foldl_cons, appendKeyEntry, Bool.not_false, ite_true, ih, List.map_cons,
      commaSeparated_cons, List.map_eq_nil_iff, List.cons_ne_nil, ite_false]
    split <;> simp only [String.append_assoc]

theorem foldl_appendKeyEntry (visit : List (String × String)) (response : String) :
    (visit.foldl appendKeyEntry (response, true)).1 =
      response ++ commaSeparated (visit.map fun e => keyEntryJson e.1 e.2) := by
  cases visit with
  | nil => simp [commaSeparated]
  | cons e visit =>
    simp only [List.foldl_cons, appendKeyEntry, Bool.not_true, Bool.false_eq_true, ite_false,
      foldl_appendKeyEntry_rest, List.map_cons, commaSeparated_cons, List.map_eq_nil_iff]
    split <;> simp only [String.append_assoc]

theorem handleListMetadataKeys_eq (method : String) (visit : List (String × String)) :
    handleListMetadataKeys method visit =
      if method = "GET" then ⟨200, "application/json",
        "\x7b\"keys\":[" ++ commaSeparated (visit.map fun e => keyEntryJson e.1 e.2) ++ "]\x7d"⟩
      else ⟨405, "text/plain; charset=utf-8", "Method not allowed\n"⟩ := by
  by_cases hm : method = "GET" <;>
    simp [handleListMetadataKeys, hm, foldl_appendKeyEntry, httpError]

theorem getKnownMetadataKeys_jsonSafe :
    ∀ e ∈ getKnownMetadataKeys.entries, jsonSafe e.1 = true ∧ jsonSafe e.2 = true := by
  decide

/-! ### The bodies as JSON -/

def MetadataKey.toJson (k : MetadataKey) : Json :=
  .obj [("key", .str k.key), ("description", .str k.description)]

/-- What a GET on `/api/v1/metadata/keys` answers: the records `ListMetadataKeys` answers for the
same order of the range, as JSON. -/
def metadataKeysDoc (visit : List (String × String)) : Json :=
  .obj [("keys", .arr ((StoreServer.listMetadataKeys visit).map MetadataKey.toJson))]

private theorem toString_string (s : String) : toString s = s := rfl

theorem keyEntryJson_eq_render (key description : String) :
    keyEntryJson key description = (MetadataKey.toJson ⟨key, description⟩).render := by
  apply String.ext
  simp [keyEntryJson, MetadataKey.toJson, Json.render, renderFields, toString_string]

theorem handleListMetadataKeys_body (visit : List (String × String)) :
    (handleListMetadataKeys "GET" visit).body = (metadataKeysDoc visit).render := by
  rw [handleListMetadataKeys_eq, if_pos rfl]
  apply String.ext
  simp [metadataKeysDoc, Json.render, renderFields, renderItems_eq_commaSeparated,
    StoreServer.listMetadataKeys, keyEntryJson_eq_render, Function.comp_def]

theorem metadataKeysDoc_safe {visit : List (String × String)}
    (hsafe : ∀ e ∈ visit, jsonSafe e.1 = true ∧ jsonSafe e.2 = true) :
    (metadataKeysDoc visit).safe = true := by
  have hnames : jsonSafe "keys" = true ∧ jsonSafe "key" = true ∧ jsonSafe "description" = true := by
    decide
  simp only [metadataKeysDoc, Json.safe, fieldsSafe_eq_all, itemsSafe_eq_all, List.all_cons,
    List.all_nil, hnames.1, Bool.true_and, Bool.and_true, List.all_eq_true, List.mem_map]
  rintro _ ⟨k, hk, rfl⟩
  obtain ⟨e, he, rfl⟩ := List.mem_map.mp hk
  simp [MetadataKey.toJson, Json.safe, hnames, hsafe e he]

/-- For every list of entries whose keys and descriptions need no escaping, a GET on
`/api/v1/metadata/keys` answers, as `application/json`, a body that reads back as exactly the
records `ListMetadataKeys` answers for the same entries, in the same order. -/
theorem handleListMetadataKeys_body_parses (visit : List (String × String))
    (hsafe : ∀ e ∈ visit, jsonSafe e.1 = true ∧ jsonSafe e.2 = true) :
    (handleListMetadataKeys "GET" visit).status = 200 ∧
      (handleListMetadataKeys "GET" visit).contentType = "application/json" ∧
      Json.parse (handleListMetadataKeys "GET" visit).body = some (metadataKeysDoc visit) := by
  refine ⟨rfl, rfl, ?_⟩
  rw [handleListMetadataKeys_body, Json.parse_render _ (metadataKeysDoc_safe hsafe)]

theorem handleListMetadataKeys_body_parses_catalogue :
    (∀ e ∈ getKnownMetadataKeys.entries, jsonSafe e.1 = true ∧ jsonSafe e.2 = true) ∧
      Json.parse (handleListMetadataKeys "GET" getKnownMetadataKeys.entries).body =
        some (metadataKeysDoc getKnownMetadataKeys.entries) :=
  ⟨getKnownMetadataKeys_jsonSafe,
    (handleListMetadataKeys_body_parses _ getKnownMetadataKeys_jsonSafe).2.2⟩

end Rollkit
