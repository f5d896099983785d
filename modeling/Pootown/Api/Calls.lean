import Mathlib.Tactic
import Pootown.Library.Runs
import Pootown.Api.InternalSessions
import Pootown.Api.Settlement
import Pootown.Server.StoreCalls

/-!
# The system of the API and the rooms

Every request to the API runs as one transaction, which commits as a whole or leaves the database as
it was: a transaction on a session holds the advisory lock of the session from its start to its end,
and those on an account its row. Between them the rooms change the realtime tables.

* `ApiCall`, `runCall`: the transactions;
* `SystemStep`: a transaction takes effect or fails, or a room does something; `afterCall`: the
  database after a call.
-/

namespace Pootown.Api

open Tables Transactions

/-! ### Recovery -/

/-- The evidence that a room has been at work: when its lease ends, and when it last wrote. -/
def runtimeEvidenceAt (lease : Server.LeaseRow) (checkpoint : Server.CheckpointRow) : ℤ :=
  max (max lease.leaseUntil lease.updatedAt) checkpoint.updatedAt

abbrev HasRecentRuntimeEvidence (db : Database) (session : SessionRow) (inactiveBefore : ℤ) : Prop :=
  ∃ lease ∈ db.realtime.leases session.roomId, lease.gameSessionId = session.id ∧
    ∃ checkpoint ∈ db.realtime.checkpoints session.roomId,
      checkpoint.gameSessionId = session.id ∧ checkpoint.fencingToken = lease.fencingToken ∧
        inactiveBefore < runtimeEvidenceAt lease checkpoint ∧
        session.stateVersion ≤ checkpoint.stateVersion

abbrev HasTerminalProof (db : Database) (gameId : String) : Prop :=
  (db.realtime.proofs gameId).isSome = true

/-- A session without a proof that no room has shown signs of. -/
abbrev Unrecoverable (db : Database) (session : SessionRow) (inactiveBefore : ℤ) : Prop :=
  (session.lifecycle = .active ∨ session.lifecycle = .settling) ∧
  (∃ t ∈ session.startedAt, t ≤ inactiveBefore) ∧ ¬ HasTerminalProof db session.id ∧
  ¬ HasRecentRuntimeEvidence db session inactiveBefore

def requireRecovery (gameId : String) (requiredAt : ℤ) : ApiTx Unit :=
  updateSession gameId .recoveryRequired fun row => { row with recoveryRequiredAt := some requiredAt }

def markRecoveryRequired (settings : Settings) (gameId : String) (inactiveBefore : ℤ) :
    ApiTx Bool := do
  let db ← select id
  match (findSession db gameId).filter fun session => Unrecoverable db session inactiveBefore with
  | none => return false
  | some _ => do
    requireRecovery gameId (inactiveBefore + settings.activeRecoveryGraceMs)
    return true

/-- A session whose proof does not settle it waits for an operator. -/
def markProofRecoveryRequired (gameId : String) (now : ℤ) : ApiTx Bool := do
  let db ← select id
  match (findSession db gameId).filter fun session =>
      (session.lifecycle = .active ∨ session.lifecycle = .settling) ∧ HasTerminalProof db gameId ∧
        ∀ row ∈ db.economy.settlements, row.gameSessionId ≠ gameId with
  | none => return false
  | some _ => do
    requireRecovery gameId now
    return true

/-! ### Calls -/

inductive ApiCall
  | registerUser (userId : String)
  | provisionPrincipal (userId : String)
  | rescue (userId idempotencyKey : String)
  | createSession (userId gameDefinitionId idempotencyKey : String)
  | joinSession (userId gameId idempotencyKey : String)
  | reconnectTicket (userId gameId idempotencyKey : String)
  | releaseJoinIntent (userId gameId idempotencyKey : String)
  | cancelSession (userId gameId idempotencyKey : String)
  | finalizeRoomCommand (gameId : String) (request : RoomSessionFinalizationRequest)
      (idempotencyKey : String)
  | cancelExpiredWaitingSession (gameId : String) (expiresBefore : ℤ)
  | releaseExpiredAdmission (reservationId : String) (expiredBefore : ℤ)
  | bootstrap (gameId : String)
  | consumeTicket (request : TicketConsumeRequest) (idempotencyKey : String)
  | markStarted (gameId roomId : String) (stateVersion : ℤ) (idempotencyKey : String)
  | settle (gameId : String) (request : SettlementRequest) (idempotencyKey : String)
  | abort (gameId : String) (reason : AbortReason) (idempotencyKey : String)
  | markRecoveryRequired (gameId : String) (inactiveBefore : ℤ)
  | markProofRecoveryRequired (gameId : String)

section System

variable (digests : Digests) (settings : Settings) (codec : Server.Codec)

/-- The transaction of a call, without what it returns. -/
noncomputable def runCall (fresh : Fresh) (now : ℤ) : ApiCall → ApiTx Unit
  | .registerUser userId => do let _ ← registerUser digests settings userId fresh now
  | .provisionPrincipal userId => do let _ ← provisionPrincipal digests settings userId fresh now
  | .rescue userId key => do let _ ← rescue digests settings userId key fresh now
  | .createSession userId definitionId key => do
    let _ ← createSession digests settings userId definitionId key fresh now
  | .joinSession userId gameId key => do
    let _ ← joinSession digests settings userId gameId key fresh now
  | .reconnectTicket userId gameId key => do
    let _ ← reconnectTicket digests settings userId gameId key fresh now
  | .releaseJoinIntent userId gameId key => do
    let _ ← releaseJoinIntent digests userId gameId key fresh now
  | .cancelSession userId gameId key => do
    let _ ← cancelSession digests userId gameId key fresh now
  | .finalizeRoomCommand gameId request key => do
    let _ ← finalizeRoomCommand digests gameId request key fresh now
  | .cancelExpiredWaitingSession gameId expiresBefore => do
    let _ ← cancelExpiredWaitingSession digests gameId expiresBefore fresh now
  | .releaseExpiredAdmission reservationId expiredBefore => do
    let _ ← releaseExpiredAdmission digests reservationId expiredBefore fresh now
  | .bootstrap gameId => do let _ ← bootstrap gameId
  | .consumeTicket request key => do let _ ← consumeTicket digests request key fresh now
  | .markStarted gameId roomId stateVersion key => do
    let _ ← markStarted digests gameId roomId stateVersion key fresh now
  | .settle gameId request key => do let _ ← settle digests gameId request key fresh now
  | .abort gameId reason key => do let _ ← abort digests gameId reason key fresh now
  | .markRecoveryRequired gameId inactiveBefore => do
    let _ ← markRecoveryRequired settings gameId inactiveBefore
  | .markProofRecoveryRequired gameId => do let _ ← markProofRecoveryRequired gameId now

/-! ### Steps -/

/-- The realtime tables as a room sees them, with the room of every session. -/
def roomView (db : Database) : Server.Realtime :=
  { db.realtime with sessions := fun gameId => (findSession db gameId).map SessionRow.roomId }

inductive SystemLabel
  | call (call : ApiCall) (fresh : Fresh) (now : ℤ)
  | room (label : Server.StoreLabel)

inductive SystemStep : Database → SystemLabel → Database → Prop
  | committed {db db' : Database} {call : ApiCall} {fresh : Fresh} {now : ℤ} :
      withTransaction (runCall digests settings fresh now call) db = .ok ((), db') →
      SystemStep db (.call call fresh now) db'
  | rolledBack {db : Database} {call : ApiCall} {fresh : Fresh} {now : ℤ} {failure : Failure} :
      withTransaction (runCall digests settings fresh now call) db = .error failure →
      SystemStep db (.call call fresh now) db
  | room {db : Database} {label : Server.StoreLabel} {realtime : Server.Realtime} :
      Server.StoreStep codec (roomView db) label realtime →
      SystemStep db (.room label) { db with realtime := realtime }

/-- The database after a call, whether it commits or fails. -/
noncomputable def afterCall (call : ApiCall) (fresh : Fresh) (now : ℤ) (db : Database) : Database :=
  match withTransaction (runCall digests settings fresh now call) db with
  | .ok (_, db') => db'
  | .error _ => db

theorem systemStep_afterCall (call : ApiCall) (fresh : Fresh) (now : ℤ) (db : Database) :
    SystemStep digests settings codec db (.call call fresh now)
      (afterCall digests settings call fresh now db) := by
  unfold afterCall
  split
  · exact .committed ‹_›
  · exact .rolledBack ‹_›

end System

/-- No user has registered yet, and no room has been opened. -/
structure Initial (db : Database) : Prop where
  users : db.users = []
  economy : db.economy = ⟨[], [], [], [], [], []⟩
  sessions : db.game.sessions = []
  players : db.game.players = []
  joinIntents : db.game.joinIntents = []
  tickets : db.game.tickets = []
  history : db.readModel.history = []
  leaderboard : db.readModel.leaderboard = []
  leases : ∀ roomId, db.realtime.leases roomId = none
  proofs : ∀ gameId, db.realtime.proofs gameId = none
  finalizations : ∀ key, db.realtime.finalizations key = none

end Pootown.Api
