import Microcosm.Meta.MetaClient

/-!
# The etcd client's responses

`pkg/meta/kvclient`. `makeGetResp` and `makeTxnResp` turn etcd's responses into the metaclient's.
Each makes its result slice with `make(…, len(…))`, which already holds that many `nil` pointers
(or zero `ResponseOp`s), and then appends the converted entries behind them:

* `makeGetResp_kvs`: the pairs of a range are `len(Kvs)` `nil` pointers, then a `KeyValue` for
  each live pair (a non-zero `Version`), in order, with `Revision = ModRevision`; so a `nil`
  pointer is among them exactly when the range has a pair (`none_mem_makeGetResp`).
* `makeTxnResp_responses`: the responses of a transaction are `len(Responses)` zero responses,
  then one of the matching kind for each etcd response that holds one, in order, a nested
  transaction again through `makeTxnResp` (`responseOf_responseTxn`); so a zero response is among
  them exactly when the transaction has a response (`zero_mem_makeTxnResp`), at every level.
* `makeGetResp_one_live`, `makeTxnResp_nested_put`: the placeholders at a range of one live pair,
  and at a put in a transaction nested in a transaction.

The etcd types are kept with the fields these functions read.
-/

namespace Microcosm

namespace Meta

/-- `mvccpb.KeyValue`, with the fields `makeGetResp` reads. -/
structure EtcdKeyValue where
  key : String
  value : String
  modRevision : BitVec 64
  version : BitVec 64
  deriving DecidableEq, Repr

/-- `clientv3.GetResponse`, by its `Kvs`. -/
structure EtcdGetResponse where
  kvs : List EtcdKeyValue
  deriving DecidableEq, Repr

mutual

/-- `etcdserverpb.ResponseOp`, by the case of its `Response`, `unset` when it holds none; the put
and delete-range responses are not read. -/
inductive EtcdResponseOp
  | unset
  | responseRange (r : EtcdGetResponse)
  | responsePut
  | responseDeleteRange
  | responseTxn (r : EtcdTxnResponse)

/-- `clientv3.TxnResponse`, by its `Responses`. -/
inductive EtcdTxnResponse
  | mk (responses : List EtcdResponseOp)

end

/-- `TxnResponse.Responses`. -/
def EtcdTxnResponse.responses : EtcdTxnResponse → List EtcdResponseOp
  | mk responses => responses

/-! ## The conversions -/

/-- `makePutResp`: it reads nothing of etcd's response. -/
def makePutResp : PutResponse := ⟨⟨""⟩⟩

/-- `makeDeleteResp`: it reads nothing of etcd's response. -/
def makeDeleteResp : DeleteResponse := ⟨⟨""⟩⟩

/-- The `KeyValue` that `makeGetResp` makes of a pair. -/
def EtcdKeyValue.toKeyValue (kv : EtcdKeyValue) : KeyValue := ⟨kv.key, kv.value, kv.modRevision⟩

/-- A pass of `makeGetResp`'s loop: a deleted pair (`Version` zero) is skipped, a live one
appended. -/
def appendKeyValue (kvs : List (Option KeyValue)) (kv : EtcdKeyValue) : List (Option KeyValue) :=
  if kv.version = 0 then kvs else kvs ++ [some kv.toKeyValue]

/-- `makeGetResp`. -/
def makeGetResp (etcdResp : EtcdGetResponse) : GetResponse :=
  ⟨⟨""⟩, etcdResp.kvs.foldl appendKeyValue (List.replicate etcdResp.kvs.length none)⟩

mutual

/-- The loop of `makeTxnResp` from `rsps` on: each response appends what the `switch` makes of
it. -/
def appendResponses (rsps : List ResponseOp) : List EtcdResponseOp → List ResponseOp
  | [] => rsps
  | eRsp :: eRsps => appendResponses (rsps ++ responseOf eRsp) eRsps

/-- The `switch` of `makeTxnResp`'s loop: what it appends for one response. At a nested
transaction it is `makeTxnResp`, written out (`responseOf_responseTxn`). -/
def responseOf : EtcdResponseOp → List ResponseOp
  | .unset => []
  | .responseRange r => [.responseGet (makeGetResp r)]
  | .responsePut => [.responsePut makePutResp]
  | .responseDeleteRange => [.responseDelete makeDeleteResp]
  | .responseTxn (.mk eRsps) =>
    [.responseTxn (.mk ⟨""⟩ (appendResponses (List.replicate eRsps.length .zero) eRsps))]

end

/-- `makeTxnResp`. -/
def makeTxnResp (etcdResp : EtcdTxnResponse) : TxnResponse :=
  .mk ⟨""⟩ (appendResponses (List.replicate etcdResp.responses.length .zero) etcdResp.responses)

/-! ## Ranges -/

theorem foldl_appendKeyValue (acc : List (Option KeyValue)) (kvs : List EtcdKeyValue) :
    kvs.foldl appendKeyValue acc =
      acc ++ (kvs.filter fun kv => kv.version ≠ 0).map (some ∘ EtcdKeyValue.toKeyValue) := by
  induction kvs generalizing acc with
  | nil => simp
  | cons kv kvs ih =>
    rw [List.foldl_cons, ih, appendKeyValue, List.filter_cons]
    by_cases h : kv.version = 0 <;> simp_all

/-- The pairs of a range: a `nil` pointer for each pair, then each live pair, in order. -/
theorem makeGetResp_kvs (r : EtcdGetResponse) :
    (makeGetResp r).kvs = List.replicate r.kvs.length none ++
      (r.kvs.filter fun kv => kv.version ≠ 0).map (some ∘ EtcdKeyValue.toKeyValue) :=
  foldl_appendKeyValue _ _

/-- A `nil` pointer is among the pairs exactly when the range has a pair. -/
theorem none_mem_makeGetResp (r : EtcdGetResponse) :
    none ∈ (makeGetResp r).kvs ↔ r.kvs ≠ [] := by
  simp [makeGetResp_kvs]

/-- A range of one live pair gives two pointers: a `nil` one, then the pair. -/
theorem makeGetResp_one_live :
    (makeGetResp ⟨[⟨"k", "v", 7, 1⟩]⟩).kvs = [none, some ⟨"k", "v", 7⟩] := rfl

/-! ## Transactions -/

theorem appendResponses_eq (rsps : List ResponseOp) (eRsps : List EtcdResponseOp) :
    appendResponses rsps eRsps = rsps ++ eRsps.flatMap responseOf := by
  induction eRsps generalizing rsps with
  | nil => simp [appendResponses]
  | cons eRsp eRsps ih => rw [appendResponses, ih, List.flatMap_cons, List.append_assoc]

/-- A nested transaction is converted by `makeTxnResp`. -/
theorem responseOf_responseTxn (r : EtcdTxnResponse) :
    responseOf (.responseTxn r) = [.responseTxn (makeTxnResp r)] := by
  cases r; rfl

/-- The responses of a transaction: a zero response for each etcd response, then what each etcd
response converts to, in order. -/
theorem makeTxnResp_responses (r : EtcdTxnResponse) :
    (makeTxnResp r).responses =
      List.replicate r.responses.length .zero ++ r.responses.flatMap responseOf :=
  appendResponses_eq _ _

/-- The `switch` appends no zero response. -/
theorem zero_not_mem_responseOf (eRsp : EtcdResponseOp) : ResponseOp.zero ∉ responseOf eRsp := by
  cases eRsp with
  | responseTxn r => simp [responseOf_responseTxn]
  | _ => simp [responseOf]

/-- A zero response is among a transaction's responses exactly when it has a response. -/
theorem zero_mem_makeTxnResp (r : EtcdTxnResponse) :
    ResponseOp.zero ∈ (makeTxnResp r).responses ↔ r.responses ≠ [] := by
  simp [makeTxnResp_responses, zero_not_mem_responseOf]

/-- A put in a transaction nested in a transaction: each level has a zero response ahead of its
converted one. -/
theorem makeTxnResp_nested_put :
    makeTxnResp (.mk [.responseTxn (.mk [.responsePut])]) =
      .mk ⟨""⟩ [.zero, .responseTxn (.mk ⟨""⟩ [.zero, .responsePut makePutResp])] := rfl

end Meta

end Microcosm
