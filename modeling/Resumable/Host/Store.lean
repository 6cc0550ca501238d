import Resumable.Host.Record

/-!
The store of records, by attempt.
-/

namespace Resumable

inductive StoreError where
  | notFound (key : String)
  | serialization (reason : String)
  | backend (reason : String)
  deriving DecidableEq

def StoreError.message : StoreError → String
  | .notFound key => s!"Not found: {key}"
  | .serialization reason => s!"Serialization error: {reason}"
  | .backend reason => s!"Backend error: {reason}"

abbrev Store := Table StateRecord

namespace Store

def save (store : Store) (record : StateRecord) : Store :=
  Table.insert record.attemptId record store

def load (store : Store) (attemptId : String) : Except StoreError StateRecord :=
  match Table.get? attemptId store with
  | some record => .ok record
  | none => .error (.notFound attemptId)

def delete (store : Store) (attemptId : String) : Except StoreError Store :=
  if Table.has attemptId store then .ok (Table.erase attemptId store)
  else .error (.notFound attemptId)

end Store

end Resumable
