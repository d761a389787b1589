import Armada.Prisma

/-!
# Idempotency keys

The protocol that `submitPod`, `selectRoute` and `reorderStops` share. A request
with a key answers with the stored body if there is one; otherwise its
transaction first inserts a placeholder under the key, which the unique index
makes a claim, and last replaces it by its result. A transaction that fails
because of a clash answers with the body stored by the winner.
-/

namespace Armada

open Concurrency

/-- The result of an operation, or the stored result of an earlier one, which is
returned with `idempotent: true`. -/
inductive Reply where
  | fresh (body : ResponseBody)
  | replayed (body : ResponseBody)
  deriving DecidableEq

/-- The body of a reply, fresh or replayed. -/
def Reply.body : Reply → ResponseBody
  | .fresh body => body
  | .replayed body => body

namespace Idempotency

/-- The lookup before the work is done. -/
def stored : Option IdempotencyKey → Proc store (Option ResponseBody)
  | none => return none
  | some key => do
      let record ← Prisma.IdempotencyRecord.findUnique key
      return record.map IdempotencyRecord.responseBody

/-- The placeholder of a key, if there is one. -/
def claim : Option IdempotencyKey → Txn store Unit
  | none => return ()
  | some key => Prisma.IdempotencyRecord.create key 0 .pending

/-- The response of a key, if there is one. -/
def settle (key : Option IdempotencyKey) (responseStatus : Nat) (responseBody : ResponseBody) :
    Txn store Unit :=
  match key with
  | none => return ()
  | some key => Prisma.IdempotencyRecord.update key { responseStatus, responseBody }

/-- The `catch` of the transaction: replay after a clash, else the error again. -/
def recover (key : Option IdempotencyKey) (isUniqueConstraintError : Exception → Bool)
    (error : Exception) : Proc store Reply :=
  match key with
  | none => throw error
  | some key =>
      if isUniqueConstraintError error then do
        let record ← Prisma.IdempotencyRecord.findUnique key
        match record with
        | some record => return .replayed record.responseBody
        | none => throw error
      else throw error

/-- A transaction under a key: a clash on the key is answered from the record. -/
def transactOnce (key : Option IdempotencyKey) (isUniqueConstraintError : Exception → Bool)
    (body : Txn store ResponseBody) : Proc store Reply :=
  tryCatch (Reply.fresh <$> Proc.transact body) (recover key isUniqueConstraintError)

end Idempotency

end Armada
