import Mathlib.Data.List.Basic

/-!
# The metaclient's requests and responses

`pkg/meta/metaclient` is not under src: its types are kept with the fields that the mock store
and the etcd client fill or read. A slice of pointers is a list of options, `none` for `nil`;
keys and values are strings.
-/

namespace Microcosm

namespace Meta

/-- `metaclient.ResponseHeader`, with the field the mock sets. -/
structure ResponseHeader where
  clusterID : String
  deriving DecidableEq, Repr

/-- `metaclient.KeyValue`. -/
structure KeyValue where
  key : String
  value : String
  revision : BitVec 64
  deriving DecidableEq, Repr

/-- `metaclient.GetResponse`. -/
structure GetResponse where
  header : ResponseHeader
  kvs : List (Option KeyValue)
  deriving DecidableEq, Repr

/-- `metaclient.PutResponse`. -/
structure PutResponse where
  header : ResponseHeader
  deriving DecidableEq, Repr

/-- `metaclient.DeleteResponse`. -/
structure DeleteResponse where
  header : ResponseHeader
  deriving DecidableEq, Repr

mutual

/-- `metaclient.ResponseOp`, by its `Response`: `zero` is the zero value, whose `Response` is
`nil`. -/
inductive ResponseOp
  | zero
  | responseGet (r : GetResponse)
  | responsePut (r : PutResponse)
  | responseDelete (r : DeleteResponse)
  | responseTxn (r : TxnResponse)

/-- `metaclient.TxnResponse`. -/
inductive TxnResponse
  | mk (header : ResponseHeader) (responses : List ResponseOp)

end

/-- `TxnResponse.Responses`. -/
def TxnResponse.responses : TxnResponse → List ResponseOp
  | mk _ responses => responses

/-- `metaclient.Op`, by what the mock's `Commit` reads of it: `KeyBytes()` and `ValueBytes()`. -/
structure Op where
  key : String
  value : String
  deriving DecidableEq, Repr

/-- `metaclient.Error`. -/
structure MetaError where
  message : String
  deriving DecidableEq, Repr

end Meta

end Microcosm
