import ConstraintDirectives.Entries

namespace ConstraintDirectives

structure OrderedMap (κ α : Type) where
  entries : Entries κ α
  nodup : (Entries.keys entries).Nodup

namespace OrderedMap
variable {κ α β : Type}

def empty : OrderedMap κ α := ⟨[], by simp [Entries.keys]⟩

instance : Inhabited (OrderedMap κ α) := ⟨empty⟩

def isEmpty (m : OrderedMap κ α) : Bool := m.entries.isEmpty

def keys (m : OrderedMap κ α) : List κ := Entries.keys m.entries

def map (f : α → β) (m : OrderedMap κ α) : OrderedMap κ β :=
  ⟨m.entries.map fun (k, a) => (k, f a), by
    have : Entries.keys (m.entries.map fun (k, a) => (k, f a)) = Entries.keys m.entries := by
      simp [Entries.keys, Function.comp_def]
    exact this ▸ m.nodup⟩

def filter (p : α → Bool) (m : OrderedMap κ α) : OrderedMap κ α :=
  ⟨m.entries.filter fun e => p e.2, m.nodup.sublist (List.filter_sublist.map _)⟩

theorem map_id (m : OrderedMap κ α) : m.map id = m := by
  obtain ⟨entries, _⟩ := m
  simp [map]

variable [DecidableEq κ]

def get? (m : OrderedMap κ α) (k : κ) : Option α := Entries.get? m.entries k

def insert (m : OrderedMap κ α) (k : κ) (a : α) : OrderedMap κ α :=
  ⟨Entries.insert m.entries k a, Entries.nodup_keys_upsert m.nodup k _⟩

/-- A repeated key keeps its first place and takes its last value. -/
def ofList (pairs : List (κ × α)) : OrderedMap κ α :=
  ⟨Entries.ofList pairs, Entries.nodup_keys_ofList pairs⟩

theorem get?_map (f : α → β) (m : OrderedMap κ α) (k : κ) : (m.map f).get? k = (m.get? k).map f :=
  Entries.get?_map (fun _ => f) m.entries k

theorem get?_filter (p : α → Bool) (m : OrderedMap κ α) (k : κ) :
    (m.filter p).get? k = (m.get? k).filter p :=
  Entries.get?_filter m.nodup p k

theorem get?_ofList (pairs : List (κ × α)) (k : κ) :
    (ofList pairs).get? k = Entries.get? pairs.reverse k :=
  Entries.get?_ofList pairs k

theorem entries_ofList {pairs : List (κ × α)} (h : (Entries.keys pairs).Nodup) :
    (ofList pairs).entries = pairs :=
  Entries.ofList_of_nodup h

end OrderedMap
end ConstraintDirectives
