import Mathlib

/-!
# Metadata keys

The store's metadata keys for DA and submission progress, and the two catalogues of them in
`types`: `GetKnownMetadataKeys`, a map from each key to its description, and
`GetKnownMetadataKeysList`, a list. The servers range over the first to list the keys and over
the second to read their values, so the two must hold the same keys.
-/

namespace Rollkit

/-- A Go map built from a literal: its entries, no key twice, since a duplicate constant key
does not compile. Ranging over it visits the entries in an order Go leaves open. -/
structure GoMap (κ ν : Type) where
  entries : List (κ × ν)
  nodup_keys : (entries.map Prod.fst).Nodup

def GoMap.keys {κ ν : Type} (m : GoMap κ ν) : List κ := m.entries.map Prod.fst

def daIncludedHeightKey : String := "d"
def lastBatchDataKey : String := "l"
def lastSubmittedHeaderHeightKey : String := "last-submitted-header-height"
def lastSubmittedDataHeightKey : String := "last-submitted-data-height"

def getKnownMetadataKeys : GoMap String String where
  entries := [
    (daIncludedHeightKey,
      "DA included height - the height of the data availability layer that has been included"),
    (lastBatchDataKey,
      "Last batch data - the last batch data submitted to the data availability layer"),
    (lastSubmittedHeaderHeightKey,
      "Last submitted header height - the height of the last header submitted to DA"),
    (lastSubmittedDataHeightKey,
      "Last submitted data height - the height of the last data submitted to DA")]
  nodup_keys := by decide

def getKnownMetadataKeysList : List String :=
  [daIncludedHeightKey, lastBatchDataKey, lastSubmittedHeaderHeightKey, lastSubmittedDataHeightKey]

theorem getKnownMetadataKeysList_nodup : getKnownMetadataKeysList.Nodup := by decide

theorem mem_getKnownMetadataKeys_keys (key : String) :
    key ∈ getKnownMetadataKeys.keys ↔ key ∈ getKnownMetadataKeysList := Iff.rfl

end Rollkit
