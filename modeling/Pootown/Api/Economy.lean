import Mathlib.Tactic
import Pootown.Api.Statements

/-!
# The economy service

Accounts with their ledger accounts, and the two grants by which Coin is issued: one when a user is
provisioned, and one that brings a poor account back up to a minimum.
-/

namespace Pootown.Api

open Tables Transactions

def insufficientCoins : Failure := .http .insufficientCoins 422 "Insufficient account coins"

def accountNotFound : Failure := .http .accountNotFound 404 "Coin account was not found"

def sessionNotFound : Failure := .http .sessionNotFound 404 "Session was not found"

def idempotencyConflict : Failure :=
  .http .idempotencyConflict 409 "Idempotency key was already used"

def balanceView (account : AccountRow) : CoinBalance :=
  ⟨account.availableCoin, account.reservedCoin, account.version⟩

/-- Add to both balances of an account. -/
def AccountRow.move (available reserved : ℤ) (account : AccountRow) : AccountRow :=
  { account with
    availableCoin := account.availableCoin + available
    reservedCoin := account.reservedCoin + reserved
    version := account.version + 1 }

/-- The operation under a key, which a retry of its request finds. -/
def findOperation (userId : String) (scope : OperationScope) (idempotencyKey : String) :
    ApiTx (Option OperationRow) := do
  let operations ← select (·.economy.operations)
  return operations.find? fun row =>
    row.actorUserId = userId ∧ row.scope = scope ∧ row.idempotencyKey = idempotencyKey

def pendingOperation (id actorUserId : String) (scope : OperationScope)
    (idempotencyKey requestHash : String) : OperationRow :=
  ⟨id, actorUserId, scope, idempotencyKey, requestHash, none, .pending⟩

def noOpOperation (id actorUserId : String) (scope : OperationScope)
    (idempotencyKey requestHash : String) (response : ResponseSnapshot) : OperationRow :=
  ⟨id, actorUserId, scope, idempotencyKey, requestHash, some response, .noOp⟩

section Grants

variable (digests : Digests) (settings : Settings)

def ensureAccountInfrastructure (userId : String) : ApiTx Unit := do
  insertAccountIfAbsent userId
  insertLedgerAccountIfAbsent
    ⟨ledgerAccountId digests userId .userAvailable, some userId, .userAvailable⟩
    fun other => other.ownerUserId = some userId ∧ other.kind = .userAvailable
  insertLedgerAccountIfAbsent
    ⟨ledgerAccountId digests userId .userReserved, some userId, .userReserved⟩
    fun other => other.ownerUserId = some userId ∧ other.kind = .userReserved
  insertLedgerAccountIfAbsent ⟨"system_issuance", none, .systemIssuance⟩
    fun other => other.id = "system_issuance"

def lockAccountRow (userId : String) : ApiTx AccountRow := do
  let accounts ← select (·.economy.accounts)
  checkSome (accounts.find? fun account => account.userId = userId)
    (.error "Account not found after provisioning")

/-- Issue `amount` to the account of a user, and the account after it. -/
def applyGrant (userId operationId : String) (amount now : ℤ) (rescue : Bool) :
    ApiTx AccountRow := do
  let updated ← updateAccount userId (fun _ => True) fun account =>
    { account.move amount 0 with
      lastRescueGrantAt := if rescue then some (max (account.lastRescueGrantAt.getD now) now)
        else account.lastRescueGrantAt }
  insertEntry ⟨operationId, ledgerAccountId digests userId .userAvailable, amount⟩
  insertEntry ⟨operationId, "system_issuance", -amount⟩
  let account ← checkSome updated (.error "Grant account update returned no row")
  if rescue = false then
    commitOperation operationId (.operation operationId)
  return account

/-- The key under which a user has the initial grant, once. -/
def initialGrantKey : String := "initial-grant:v1"

def provisionUser (userId : String) (fresh : Fresh) (now : ℤ) : ApiTx CoinBalance := do
  ensureAccountInfrastructure digests userId
  let account ← lockAccountRow userId
  let inserted ← insertOperationIfAbsent (pendingOperation fresh.operationId userId .initialGrant
    initialGrantKey (digests.requestHash .initialGrant))
  if inserted then
    let granted ← applyGrant digests userId fresh.operationId settings.initialGrantCoin now false
    return balanceView granted
  else return balanceView account

/-- Provision the account of a user who has registered. -/
def provisionPrincipal (userId : String) (fresh : Fresh) (now : ℤ) : ApiTx CoinBalance := do
  check (userId ∈ (← select (·.users))) (.error "Authenticated user does not exist")
  provisionUser digests settings userId fresh now

/-- Register a user, with an account. -/
def registerUser (userId : String) (fresh : Fresh) (now : ℤ) : ApiTx CoinBalance := do
  check (userId ∉ (← select (·.users))) (.database "users_pkey")
  modify fun db => { db with users := db.users ++ [userId] }
  provisionUser digests settings userId fresh now

/-- The window since the last rescue grant has passed, and the account is below the minimum. -/
abbrev Rescuable (account : AccountRow) (now : ℤ) : Prop :=
  account.availableCoin + account.reservedCoin < settings.rescueBalanceCoin ∧
    ∀ lastRescue ∈ account.lastRescueGrantAt, lastRescue ≤ now - settings.rescueWindowMs

/-- The second transaction of a rescue, after the account has been provisioned. -/
def rescue (userId idempotencyKey : String) (fresh : Fresh) (now : ℤ) :
    ApiTx ResponseSnapshot := do
  let account ← lockAccountRow userId
  let prior ← findOperation userId .rescueGrant idempotencyKey
  match prior with
  | some prior => do
    check (prior.requestHash = digests.requestHash .rescueGrant) idempotencyConflict
    check (prior.status ≠ .pending) (.error "Incomplete rescue grant operation")
    checkSome prior.responseSnapshot .contract
  | none =>
    if Rescuable settings account now then do
      insertOperation (pendingOperation fresh.operationId userId .rescueGrant idempotencyKey
        (digests.requestHash .rescueGrant))
      let updated ← applyGrant digests userId fresh.operationId
        (settings.rescueBalanceCoin - (account.availableCoin + account.reservedCoin)) now true
      let response := .rescueGrant (balanceView updated) (some fresh.operationId)
      commitOperation fresh.operationId response
      return response
    else do
      let response := .rescueGrant (balanceView account) none
      insertOperation (noOpOperation fresh.operationId userId .rescueGrant idempotencyKey
        (digests.requestHash .rescueGrant) response)
      return response

end Grants

end Pootown.Api
