import Mathlib.Algebra.Order.Ring.Nat
import Microcosm.GoMap
import Microcosm.Meta.MetaClient

/-!
# The mock metastore

`pkg/meta/kvclient/mock`. `MetaMock` keeps a Go `map[string]string` and a revision that every
`Put`, `Delete` and `Get` bumps; a `mockTxn` collects ops with `Do`, and its `Commit` puts the key
and value of each, in order. Keys and values are strings: the mock converts them to and from
bytes only at its interface.

The metastore contract of the spec is a map from keys to values whose `Get` scans a prefix
(`KvSpec`). Its `Put`, `Delete` and `Get` are the spec's, but its `commit` is not: the spec's
`Txn(ops…).Commit()` runs each op by its kind and answers each, while the mock's `Commit` reads
only `KeyBytes()` and `ValueBytes()` of an op and puts them, so a delete or a get in a transaction
becomes a put and the response is `nil`. `Op` keeps no kind, and `KvSpec.commit` copies the mock:
for transactions the refinement below says only that the mock does what its own `Commit` does,
not that it meets the spec. The mock refines the rest: `view` reads its store as such a map, and every call moves it as
the contract moves (`view_call`), so after any sequence of calls the store is the contract's map
(`view_run`) and a `Get` returns the contract's scan, each pair once, as pointers none of which
is `nil` and with the `Revision` left zero (`get_run`). A commit only puts, so it removes no key
(`KvSpec.commit_isSome`), and the revision counts the puts, deletes and gets made
(`revision_run`).
-/

namespace Microcosm

namespace Meta

/-- `MetaMock`. -/
structure MetaMock where
  store : GoMap String
  revision : BitVec 64

/-- A call of the mock: `Put`, `Delete`, `Get` with the order in which its `range` visits the
keys, or `Txn`, `Do` any number of times and `Commit` with the ops collected. -/
inductive Call
  | put (key value : String)
  | delete (key : String)
  | get (key : String) (order : List String)
  | commit (ops : List Op)
  deriving DecidableEq, Repr

namespace MetaMock

/-- `NewMetaMock`. -/
def newMetaMock : MetaMock := ⟨∅, 0⟩

/-- The header of every response of the mock. -/
def header : ResponseHeader := ⟨"mock_cluster"⟩

/-- `MetaMock.Delete`, with its response's header and its error. -/
def delete (m : MetaMock) (key : String) : MetaMock × ResponseHeader × Option MetaError :=
  (⟨m.store.erase key, m.revision + 1⟩, header, none)

/-- `MetaMock.Put`, with its response's header and its error. -/
def put (m : MetaMock) (key value : String) : MetaMock × ResponseHeader × Option MetaError :=
  (⟨m.store.insert key value, m.revision + 1⟩, header, none)

/-- `MetaMock.Get`: the pairs whose key starts with `key`, as `range` visits the keys in `order`. -/
def get (m : MetaMock) (key : String) (order : List String) :
    MetaMock × GetResponse × Option MetaError :=
  (⟨m.store, m.revision + 1⟩,
    ⟨header, order.filterMap fun k =>
      if key.isPrefixOf k then (m.store.lookup k).map fun v => some ⟨k, v, 0⟩
      else none⟩, none)

/-- `mockTxn.Commit`: a `Put` of each op in order, returning at the first error; the response
is `nil`. -/
def commit (m : MetaMock) : List Op → MetaMock × Option MetaError
  | [] => (m, none)
  | op :: ops =>
    match m.put op.key op.value with
    | (m', _, some err) => (m', some err)
    | (m', _, none) => m'.commit ops

/-- The state after a call. -/
def call (m : MetaMock) : Call → MetaMock
  | .put k v => (m.put k v).1
  | .delete k => (m.delete k).1
  | .get k order => (m.get k order).1
  | .commit ops => (m.commit ops).1

end MetaMock

/-! ## The contract -/

/-- The metastore contract of the spec: a map from keys to values. -/
abbrev KvSpec := String → Option String

namespace KvSpec

/-- `Put(key, value)`. -/
def put (σ : KvSpec) (k v : String) : KvSpec := Function.update σ k (some v)

/-- `Delete(key)`. -/
def delete (σ : KvSpec) (k : String) : KvSpec := Function.update σ k none

/-- A transaction, as the mock's `Commit` runs it: a put of each op's key and value. This departs
from the spec's `Txn`, where an op is run by its kind. -/
def commit (σ : KvSpec) (ops : List Op) : KvSpec := ops.foldl (fun σ op => σ.put op.key op.value) σ

/-- The state after a call: a `Get` changes nothing. -/
def call (σ : KvSpec) : Call → KvSpec
  | .put k v => σ.put k v
  | .delete k => σ.delete k
  | .get _ _ => σ
  | .commit ops => σ.commit ops

/-- `Get(key)` scans the prefix `key`: `kv` is one of the pairs it returns. -/
def Scan (σ : KvSpec) (key : String) (kv : KeyValue) : Prop :=
  key.isPrefixOf kv.key = true ∧ σ kv.key = some kv.value

instance (σ : KvSpec) (key : String) (kv : KeyValue) : Decidable (σ.Scan key kv) :=
  inferInstanceAs (Decidable (_ ∧ _))

/-- A transaction keeps every key it finds. -/
theorem commit_isSome {σ : KvSpec} {k : String} (ops : List Op) (h : (σ k).isSome) :
    (σ.commit ops k).isSome := by
  induction ops generalizing σ with
  | nil => exact h
  | cons op ops ih =>
    refine ih ?_
    by_cases hk : k = op.key
    · subst hk; simp [put]
    · simpa [put, Function.update_noteq hk] using h

end KvSpec

/-! ## Refinement -/

namespace MetaMock

variable {m : MetaMock}

/-- The store as the contract's map. -/
def view (m : MetaMock) : KvSpec := m.store.lookup

theorem view_put (k v : String) : (m.put k v).1.view = m.view.put k v := by
  funext k'
  by_cases h : k' = k
  · subst h; simp [view, put, KvSpec.put]
  · simp [view, put, KvSpec.put, h, AList.lookup_insert_ne h]

theorem view_delete (k : String) : (m.delete k).1.view = m.view.delete k := by
  funext k'
  by_cases h : k' = k
  · subst h; simp [view, delete, KvSpec.delete]
  · simp [view, delete, KvSpec.delete, h, AList.lookup_erase_ne h]

/-- A commit makes every put, and fails on none. -/
theorem commit_eq (ops : List Op) :
    (m.commit ops).1.view = m.view.commit ops ∧ (m.commit ops).2 = none := by
  induction ops generalizing m with
  | nil => exact ⟨rfl, rfl⟩
  | cons op ops ih =>
    have := @ih (m.put op.key op.value).1
    rw [view_put] at this
    exact this

theorem view_call (c : Call) : (m.call c).view = m.view.call c := by
  cases c with
  | put k v => exact view_put k v
  | delete k => exact view_delete k
  | get k order => rfl
  | commit ops => exact (commit_eq ops).1

theorem view_run (calls : List Call) :
    (calls.foldl call m).view = calls.foldl KvSpec.call m.view := by
  induction calls generalizing m with
  | nil => rfl
  | cons c calls ih => rw [List.foldl_cons, List.foldl_cons, ih, view_call]

/-- When `range` visits every key once, `Get` returns the contract's scan, with the `Revision`
left zero... -/
theorem mem_get {key : String} {order : List String} (ho : order.Perm m.store.keys)
    {kv : KeyValue} :
    some kv ∈ (m.get key order).2.1.kvs ↔ kv.revision = 0 ∧ m.view.Scan key kv := by
  obtain ⟨k, v, r⟩ := kv
  simp only [get, List.mem_filterMap, KvSpec.Scan, view]
  constructor
  · rintro ⟨k', -, hk⟩
    split at hk
    · obtain ⟨v', hv, he⟩ := Option.map_eq_some'.1 hk
      cases he
      exact ⟨rfl, ‹_›, hv⟩
    · cases hk
  · rintro ⟨rfl, hp, hv⟩
    refine ⟨k, ho.mem_iff.2 (AList.mem_keys.1 (GoMap.mem_of_lookup hv)), ?_⟩
    simp_all

/-- ... none of its pointers `nil`... -/
theorem none_not_mem_get (key : String) (order : List String) :
    none ∉ (m.get key order).2.1.kvs := by
  simp only [get, List.mem_filterMap, not_exists, not_and]
  intro k _
  split <;> simp

/-- ... and each pair once. -/
theorem nodup_get {key : String} {order : List String} (ho : order.Perm m.store.keys) :
    ((m.get key order).2.1.kvs.map (Option.map KeyValue.key)).Nodup := by
  simp only [get, List.map_filterMap]
  refine (ho.nodup_iff.2 m.store.keys_nodup).filterMap fun a a' b ha ha' => ?_
  have key_eq : ∀ {a}, b ∈ ((if key.isPrefixOf a then
      (m.store.lookup a).map fun v => some ⟨a, v, 0⟩ else none).map (Option.map KeyValue.key)) →
      b = some a := fun h => by
    split at h
    · simp only [Option.map_map, Option.mem_def, Option.map_eq_some'] at h
      obtain ⟨_, -, rfl⟩ := h
      rfl
    · cases h
  exact Option.some.inj ((key_eq ha).symm.trans (key_eq ha'))

theorem view_newMetaMock : newMetaMock.view = fun _ => none :=
  funext fun k => AList.lookup_empty k

/-- After any calls from `NewMetaMock`, a `Get` whose `range` visits every key once returns the
contract's scan of the contract's map after the same calls, each pair once, with the `Revision`
left zero and no `nil` pointer. -/
theorem get_run (calls : List Call) (key : String) {order : List String}
    (ho : order.Perm (calls.foldl call newMetaMock).store.keys) :
    (∀ kv, some kv ∈ ((calls.foldl call newMetaMock).get key order).2.1.kvs ↔
      kv.revision = 0 ∧ (calls.foldl KvSpec.call fun _ => none).Scan key kv) ∧
    none ∉ ((calls.foldl call newMetaMock).get key order).2.1.kvs ∧
    (((calls.foldl call newMetaMock).get key order).2.1.kvs.map
      (Option.map KeyValue.key)).Nodup :=
  ⟨fun _ => by rw [mem_get ho, view_run, view_newMetaMock], none_not_mem_get key order,
    nodup_get ho⟩

/-- After two `Put`s under one prefix, a `Get` of the prefix whose `range` visits both keys. -/
theorem get_run_two_puts :
    ["a/2", "a/1"].Perm ([Call.put "a/1" "x", .put "a/2" "y"].foldl call newMetaMock).store.keys ∧
      (∀ kv, some kv ∈ (([Call.put "a/1" "x", .put "a/2" "y"].foldl call newMetaMock).get "a/"
          ["a/2", "a/1"]).2.1.kvs ↔
        kv.revision = 0 ∧
          ([Call.put "a/1" "x", .put "a/2" "y"].foldl KvSpec.call fun _ => none).Scan "a/" kv) ∧
      none ∉ (([Call.put "a/1" "x", .put "a/2" "y"].foldl call newMetaMock).get "a/"
          ["a/2", "a/1"]).2.1.kvs ∧
      ((([Call.put "a/1" "x", .put "a/2" "y"].foldl call newMetaMock).get "a/"
          ["a/2", "a/1"]).2.1.kvs.map (Option.map KeyValue.key)).Nodup :=
  have ho : ["a/2", "a/1"].Perm
      ([Call.put "a/1" "x", .put "a/2" "y"].foldl call newMetaMock).store.keys := by decide
  ⟨ho, get_run _ _ ho⟩

end MetaMock

/-! ## The revision -/

/-- How many times a call bumps the revision: once for each `Put`, `Delete` and `Get` it makes. -/
def Call.bumps : Call → ℕ
  | .commit ops => ops.length
  | _ => 1

namespace MetaMock

variable {m : MetaMock}

theorem revision_commit (ops : List Op) :
    (m.commit ops).1.revision = m.revision + BitVec.ofNat 64 ops.length := by
  induction ops generalizing m with
  | nil => exact (BitVec.add_zero _).symm
  | cons op ops ih =>
    show ((m.put op.key op.value).1.commit ops).1.revision = _
    rw [ih, List.length_cons, BitVec.ofNat_add, BitVec.add_comm (BitVec.ofNat 64 _),
      ← BitVec.add_assoc]
    rfl

theorem revision_call (c : Call) : (m.call c).revision = m.revision + BitVec.ofNat 64 c.bumps := by
  cases c with
  | commit ops => exact revision_commit ops
  | _ => rfl

/-- The revision counts, modulo 2^64, the puts, deletes and gets made. -/
theorem revision_run (calls : List Call) :
    (calls.foldl call m).revision = m.revision + BitVec.ofNat 64 (calls.map Call.bumps).sum := by
  induction calls generalizing m with
  | nil => exact (BitVec.add_zero _).symm
  | cons c calls ih =>
    rw [List.foldl_cons, ih, revision_call, List.map_cons, List.sum_cons, BitVec.ofNat_add,
      BitVec.add_assoc]

end MetaMock

end Meta

end Microcosm
