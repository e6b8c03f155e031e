import Mathlib
import Rollkit.Rpc.StoreServer

/-!
# Metadata writes seen through the store server

The store itself is not part of this model's sources; its metadata contract is taken from the
spec: `SetMetadata` writes a key, `GetMetadata` reads the last value written and reports a key
never written as not found. Over any run of writes from the empty store, `GetAllMetadata`
answers exactly the known keys that were written, each with its last value.
-/

namespace Rollkit

/-- Modelled from the spec: the durable store's metadata, a map from keys to the bytes last
written under them (the store package is not among the sources). -/
structure MetadataStore where
  values : String → Option Bytes

namespace MetadataStore

def empty : MetadataStore := ⟨fun _ => none⟩

/-- Modelled from the spec: `SetMetadata(key, value)`. -/
def setMetadata (m : MetadataStore) (key : String) (value : Bytes) : MetadataStore :=
  ⟨fun k => if k = key then some value else m.values k⟩

/-- Modelled from the spec: `GetMetadata(key)`, not found for a key never written. -/
def getMetadata (m : MetadataStore) (key : String) : Except GoError Bytes :=
  match m.values key with
  | some value => .ok value
  | none => .error "datastore: key not found"

def run (m : MetadataStore) (writes : List (String × Bytes)) : MetadataStore :=
  writes.foldl (fun m (key, value) => m.setMetadata key value) m

def lastWrite (writes : List (String × Bytes)) (key : String) : Option Bytes :=
  (writes.reverse.find? (·.1 = key)).map (·.2)

@[simp] theorem setMetadata_values (m : MetadataStore) (key : String) (value : Bytes) (k : String) :
    (m.setMetadata key value).values k = if k = key then some value else m.values k := rfl

theorem run_append_write (m : MetadataStore) (writes : List (String × Bytes)) (key : String)
    (value : Bytes) : m.run (writes ++ [(key, value)]) = (m.run writes).setMetadata key value := by
  simp [run, List.foldl_append]

theorem lastWrite_append (writes : List (String × Bytes)) (key : String) (value : Bytes)
    (k : String) :
    lastWrite (writes ++ [(key, value)]) k = if k = key then some value else lastWrite writes k := by
  by_cases hk : k = key <;> simp [lastWrite, hk, eq_comm]

theorem run_values (m : MetadataStore) (writes : List (String × Bytes)) (k : String) :
    (m.run writes).values k = (lastWrite writes k).or (m.values k) := by
  induction writes using List.reverseRecOn with
  | nil => simp [run, lastWrite]
  | append_singleton writes w ih =>
    obtain ⟨key, value⟩ := w
    by_cases hk : k = key <;> simp [run_append_write, lastWrite_append, hk, ih]

end MetadataStore

def Store.withMetadata {B : BlockCodec} (s : Store B) (m : MetadataStore) : Store B :=
  { s with getMetadata := m.getMetadata }

namespace StoreServer

variable {B : BlockCodec}

/-- After any run of writes from the empty store, `GetAllMetadata` answers, in catalogue
order, exactly the known keys that were written, each with the last value written: a write to
an unknown key never shows, and a known key never written is left out. -/
theorem getAllMetadata_after_writes (s : Store B) (writes : List (String × Bytes)) :
    (getAllMetadata B (s.withMetadata (MetadataStore.empty.run writes))).2 =
      .ok (getKnownMetadataKeysList.filterMap fun key =>
        (MetadataStore.lastWrite writes key).map (MetadataEntry.mk key)) := by
  rw [getAllMetadata_eq, presentMetadata]
  congr 2
  funext key
  simp only [Store.withMetadata, MetadataStore.getMetadata, MetadataStore.run_values,
    MetadataStore.empty, Option.or_none]
  cases MetadataStore.lastWrite writes key <;> rfl

example (s : Store B) :
    (getAllMetadata B (s.withMetadata (MetadataStore.empty.run [("d", [42])]))).2 =
      .ok [⟨"d", [42]⟩] := by
  rw [getAllMetadata_eq]
  rfl

end StoreServer

end Rollkit
