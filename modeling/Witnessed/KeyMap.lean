import Witnessed.Octets

/-!
Finite maps from key hashes. The entries are held in strictly ascending order of the hashes, so
two maps with the same entries are the same value.
-/

namespace Witnessed

structure KeyMap (α : Type) where
  entries : List (KeyHash × α)
  ascending : entries.Pairwise fun a b => a.1 < b.1
  deriving DecidableEq

namespace KeyMap

variable {α : Type}

def empty : KeyMap α := ⟨[], .nil⟩

def find? (m : KeyMap α) (key : KeyHash) : Option α :=
  (m.entries.find? fun e => e.1 = key).map (·.2)

def contains (m : KeyMap α) (key : KeyHash) : Bool :=
  (m.find? key).isSome

def size (m : KeyMap α) : Nat :=
  m.entries.length

def keys (m : KeyMap α) : List KeyHash :=
  m.entries.map (·.1)

def values (m : KeyMap α) : List α :=
  m.entries.map (·.2)

/-- Puts an entry in its place, or in the place of the entry with the same key. -/
def place (key : KeyHash) (value : α) : List (KeyHash × α) → List (KeyHash × α)
  | [] => [(key, value)]
  | e :: rest =>
      if key < e.1 then (key, value) :: e :: rest
      else if key = e.1 then (key, value) :: rest
      else e :: place key value rest

theorem mem_place {key : KeyHash} {value : α} {entries : List (KeyHash × α)}
    {e : KeyHash × α} (h : e ∈ place key value entries) : e = (key, value) ∨ e ∈ entries := by
  induction entries with
  | nil => simpa [place] using h
  | cons d rest ih =>
      simp only [place] at h
      split at h
      · simpa using h
      · split at h
        · rcases List.mem_cons.1 h with h | h
          · exact .inl h
          · exact .inr (List.mem_cons_of_mem _ h)
        · rcases List.mem_cons.1 h with h | h
          · exact .inr (h ▸ List.mem_cons_self)
          · exact (ih h).imp_right (List.mem_cons_of_mem _)

theorem place_ascending (key : KeyHash) (value : α) {entries : List (KeyHash × α)}
    (h : entries.Pairwise fun a b => a.1 < b.1) :
    (place key value entries).Pairwise fun a b => a.1 < b.1 := by
  induction entries with
  | nil => exact List.pairwise_singleton ..
  | cons d rest ih =>
      obtain ⟨before, later⟩ := List.pairwise_cons.1 h
      simp only [place]
      split
      · rename_i lt
        refine List.pairwise_cons.2 ⟨fun e he => ?_, h⟩
        rcases List.mem_cons.1 he with rfl | he
        · exact lt
        · exact Octets.lt_trans lt (before e he)
      · split
        · rename_i eq
          exact List.pairwise_cons.2 ⟨fun e he => by simpa [eq] using before e he, later⟩
        · rename_i nlt ne
          refine List.pairwise_cons.2 ⟨fun e he => ?_, ih later⟩
          rcases mem_place he with rfl | he
          · exact Octets.lt_of_not_lt_of_ne nlt ne
          · exact before e he

/-- The map with one more entry; an entry with the same key gives way. -/
def insert (m : KeyMap α) (key : KeyHash) (value : α) : KeyMap α :=
  ⟨place key value m.entries, place_ascending key value m.ascending⟩

end KeyMap

end Witnessed
