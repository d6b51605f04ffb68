import Mathlib.Data.List.AList
import Mathlib.Data.Multiset.Basic

/-!
# Go maps keyed by master id

A Go `map[MasterID]V` is an association list with distinct keys (`AList`). The order of its
entries carries no meaning: a `range` loop visits the keys in an order the runtime chooses, and
the loops of the model take that order as an argument. `m[k] = v` is `insert`, `delete(m, k)` is
`erase` and `m[k]` with its `ok` is `lookup`. `vals m` is the multiset of the values the map holds
and `len m` its Go `len`.
-/

namespace Microcosm

/-- `libModel.MasterID`. -/
abbrev MasterID := String

/-- A Go map from master ids to `V`. -/
abbrev GoMap (V : Type) := AList fun _ : MasterID => V

namespace GoMap

variable {V : Type}

/-- The values held by a map, with multiplicity. -/
def vals (m : GoMap V) : Multiset V := (m.entries.map Sigma.snd : List V)

/-- Go's `len(m)`. -/
def len (m : GoMap V) : ℕ := m.entries.length

theorem mem_of_lookup {m : GoMap V} {k : MasterID} {v : V} (h : m.lookup k = some v) : k ∈ m :=
  AList.lookup_isSome.1 (by simp [h])

theorem lookup_insert_eq_some {m : GoMap V} {k k' : MasterID} {v w : V} :
    (m.insert k v).lookup k' = some w ↔ (k' = k ∧ v = w) ∨ (k' ≠ k ∧ m.lookup k' = some w) := by
  by_cases h : k' = k
  · subst h; simp
  · simp [h, AList.lookup_insert_ne h]

theorem lookup_erase_eq_some {m : GoMap V} {k k' : MasterID} {w : V} :
    (m.erase k).lookup k' = some w ↔ k' ≠ k ∧ m.lookup k' = some w := by
  by_cases h : k' = k
  · subst h; simp
  · simp [h, AList.lookup_erase_ne h]

theorem card_vals (m : GoMap V) : Multiset.card (vals m) = len m := by
  simp [vals, len]

@[simp]
theorem vals_empty : vals (∅ : GoMap V) = 0 := rfl

theorem mem_vals {m : GoMap V} {v : V} : v ∈ vals m ↔ ∃ k, m.lookup k = some v := by
  simp only [vals, Multiset.mem_coe, List.mem_map]
  constructor
  · rintro ⟨⟨k, v⟩, hm, rfl⟩
    exact ⟨k, AList.mem_lookup_iff.2 hm⟩
  · rintro ⟨k, hk⟩
    exact ⟨⟨k, v⟩, AList.mem_lookup_iff.1 hk, rfl⟩

/-- Deleting a present key takes exactly its value out of the map. -/
theorem vals_eq_cons_erase {m : GoMap V} {k : MasterID} {v : V} (h : m.lookup k = some v) :
    vals m = v ::ₘ vals (m.erase k) := by
  have hk : k ∈ m.entries.keys := AList.mem_keys.1 (mem_of_lookup h)
  obtain ⟨b, l₁, l₂, -, hl, he⟩ := List.exists_of_kerase hk
  have hb : b = v := by
    have : Sigma.mk k b ∈ m.entries := by rw [hl]; simp
    exact Option.some.inj ((AList.mem_lookup_iff.2 this).symm.trans h)
  subst hb
  have he' : (m.erase k).entries = l₁ ++ l₂ := he
  simp only [vals, he', hl, Multiset.cons_coe, Multiset.coe_eq_coe, List.map_append, List.map_cons]
  exact List.perm_middle

theorem vals_insert (m : GoMap V) (k : MasterID) (v : V) :
    vals (m.insert k v) = v ::ₘ vals (m.erase k) := rfl

theorem mem_vals_erase {m : GoMap V} {k : MasterID} {v : V} (h : v ∈ vals (m.erase k)) :
    v ∈ vals m :=
  let ⟨k', hk'⟩ := mem_vals.1 h
  mem_vals.2 ⟨k', (lookup_erase_eq_some.1 hk').2⟩

theorem mem_vals_insert {m : GoMap V} {k : MasterID} {v w : V} (h : w ∈ vals (m.insert k v)) :
    w = v ∨ w ∈ vals m :=
  (Multiset.mem_cons.1 h).imp_right mem_vals_erase

theorem vals_insert_of_not_mem {m : GoMap V} {k : MasterID} (v : V) (h : k ∉ m) :
    vals (m.insert k v) = v ::ₘ vals m := by
  simp only [vals, AList.insert_entries_of_neg h, List.map_cons, Multiset.cons_coe]

theorem erase_of_not_mem {m : GoMap V} {k : MasterID} (h : k ∉ m) : m.erase k = m :=
  AList.ext (List.kerase_of_not_mem_keys h)

end GoMap

end Microcosm
