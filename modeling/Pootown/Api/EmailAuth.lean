import Mathlib.Tactic
import Pootown.Library.Transactions
import Pootown.Model.Primitives

/-!
# Signing in with an email address

Users sign in with a password and get a session with two tokens. The refresh token of a session is
good for one more pair of tokens; the session keeps only its digest.

* `Identity`: users and sessions; `insertSession`, `updateSession` with their constraints and trigger;
* `Crypto`: the libraries that sign tokens, digest them, and compare passwords;
* `register`, `login`, `refresh`, `logout`: the service; `runAuth`: a call to it.
-/

namespace Pootown.Auth

open Transactions

/-! ### The database -/

/-- What `randomUUID` draws. -/
abbrev Uuid : Type := { id : String // utf16Length id = 36 }

abbrev Digest : Type := Vector UInt8 32

structure UserRow where
  id : Uuid
  email : String
  passwordHash : String
  createdAt : ℤ
  updatedAt : ℤ
  lastSeenAt : ℤ
  deriving DecidableEq

structure AuthSessionRow where
  id : Uuid
  userId : Uuid
  refreshTokenHash : Digest
  expiresAt : ℤ
  createdAt : ℤ
  updatedAt : ℤ
  revokedAt : Option ℤ
  deriving DecidableEq

/-- The sessions are kept under their identifiers. -/
structure Identity where
  users : List UserRow
  sessions : Table String AuthSessionRow

def Identity.empty : Identity := ⟨[], fun _ => none⟩

inductive AuthErrorCode
  | emailExists | credentialsInvalid | sessionInvalid
  deriving DecidableEq

inductive AuthFailure
  | http (code : AuthErrorCode) (status : ℕ) (message : String)
  | uniqueViolation (constraint : String)
  | database (message : String)
  | error (message : String)
  deriving DecidableEq

abbrev AuthTx (α : Type) : Type := Tx Identity AuthFailure α

/-- The timestamps of a session are in order. -/
abbrev AuthSessionRow.TimestampsOrdered (row : AuthSessionRow) : Prop :=
  row.createdAt ≤ row.updatedAt ∧ row.createdAt < row.expiresAt ∧
    ∀ revokedAt ∈ row.revokedAt, row.createdAt ≤ revokedAt

def insertSession (row : AuthSessionRow) : AuthTx Unit := do
  check row.TimestampsOrdered (.database "auth_session_timestamps_ordered")
  check (∃ user ∈ (← read).users, user.id = row.userId) (.database "auth_sessions_user_id_fkey")
  insertRow Identity.sessions (fun sessions s => { s with sessions := sessions }) row.id.val row
    (.uniqueViolation "auth_sessions_pkey")

/-- The trigger before an update of a session. -/
def validateAuthSessionUpdate (old new : AuthSessionRow) : AuthTx Unit := do
  check (old.id = new.id ∧ old.userId = new.userId ∧ old.expiresAt = new.expiresAt ∧
    old.createdAt = new.createdAt) (.database "auth session binding is immutable")
  check (old.revokedAt = none) (.database "revoked auth session is immutable")
  check (old.updatedAt ≤ new.updatedAt) (.database "auth session clock cannot move backwards")

/-- Rewrite the session that was read as `old`. -/
def updateSession (old new : AuthSessionRow) : AuthTx Unit := do
  validateAuthSessionUpdate old new
  check new.TimestampsOrdered (.database "auth_session_timestamps_ordered")
  write fun s => { s with sessions := Function.update s.sessions old.id.val (some new) }

/-! ### Tokens -/

structure AccessClaims where
  sub : String
  sid : String
  iat : ℤ
  exp : ℤ

structure RefreshClaims where
  sub : String
  sid : String
  jti : String
  iat : ℤ
  exp : ℤ
  deriving DecidableEq

/-- The libraries. A refresh token opens when its signature, algorithm, issuer, audience and type are
those of the service and all its claims are there. -/
structure Crypto where
  signAccess : AccessClaims → String
  signRefresh : RefreshClaims → String
  openRefresh : String → Option RefreshClaims
  open_signRefresh : ∀ claims, openRefresh (signRefresh claims) = some claims
  tokenHash : String → Digest
  compare : String → String → Bool

structure AuthSettings where
  accessTtlSeconds : ℤ
  refreshTtlSeconds : ℤ
  accessTtl_range : 60 ≤ accessTtlSeconds ∧ accessTtlSeconds ≤ 3600
  refreshTtl_range : 3600 ≤ refreshTtlSeconds ∧ refreshTtlSeconds ≤ 7776000

structure IssuedSession where
  accessToken : String
  accessTokenExpiresAtMs : ℤ
  userId : String
  email : String
  refreshToken : String
  refreshExpiresAt : ℤ

/-- What one call draws at random: the hash of a password is salted. -/
structure Drawn where
  userId : Uuid
  sessionId : Uuid
  jti : Uuid
  passwordHash : String

section Service

variable (crypto : Crypto) (settings : AuthSettings)

def issueTokens (user : UserRow) (sessionId : Uuid) (drawn : Drawn) (now : ℤ)
    (absoluteRefreshExpiry : Option ℤ) : IssuedSession :=
  let issuedAt := now / 1000
  let accessExpiresAt := issuedAt + settings.accessTtlSeconds
  let refreshExpiresAt :=
    absoluteRefreshExpiry.getD ((issuedAt + settings.refreshTtlSeconds) * 1000)
  { accessToken := crypto.signAccess ⟨user.id, sessionId, issuedAt, accessExpiresAt⟩
    accessTokenExpiresAtMs := accessExpiresAt * 1000
    userId := user.id
    email := user.email
    refreshToken :=
      crypto.signRefresh ⟨user.id, sessionId, drawn.jti, issuedAt, refreshExpiresAt / 1000⟩
    refreshExpiresAt := refreshExpiresAt }

/-- The claims of a refresh token that is accepted at a time. -/
def verifyRefreshToken (token : String) (now : ℤ) : Option RefreshClaims :=
  (crypto.openRefresh token).filter fun claims =>
    now / 1000 < claims.exp ∧
    0 < utf16Length claims.sub ∧ utf16Length claims.sub ≤ 128 ∧
    0 < utf16Length claims.sid ∧ utf16Length claims.sid ≤ 128 ∧
    claims.iat ≤ now / 1000 + 5 ∧ claims.exp - claims.iat ≤ settings.refreshTtlSeconds

/-! ### The service -/

def findAndTouchPrincipal (userId : Uuid) (now : ℤ) : AuthTx UserRow := do
  let touch : UserRow → UserRow := fun user =>
    { user with updatedAt := max user.updatedAt now, lastSeenAt := max user.lastSeenAt now }
  let user ← checkSome ((← read).users.find? fun user => user.id = userId)
    (.error "Authenticated user does not exist")
  write fun s =>
    { s with users := s.users.map fun user => if user.id = userId then touch user else user }
  return touch user

def createSession (user : UserRow) (drawn : Drawn) (now : ℤ) : AuthTx IssuedSession := do
  let issued := issueTokens crypto settings user drawn.sessionId drawn now none
  insertSession ⟨drawn.sessionId, user.id, crypto.tokenHash issued.refreshToken,
    issued.refreshExpiresAt, now, now, none⟩
  return issued

def createEmailUser (email : String) (drawn : Drawn) (now : ℤ) : AuthTx UserRow := do
  let user : UserRow := ⟨drawn.userId, email, drawn.passwordHash, now, now, now⟩
  check (∀ other ∈ (← read).users, other.id ≠ user.id) (.uniqueViolation "users_pkey")
  check (∀ other ∈ (← read).users, other.email ≠ email) (.uniqueViolation "users_email_key")
  write fun s => { s with users := s.users ++ [user] }
  return user

/-- The session of the claims, as the row lock finds it. -/
def findSession (s : Identity) (claims : RefreshClaims) : Option AuthSessionRow :=
  (s.sessions claims.sid).filter fun row => row.userId.val = claims.sub

def AuthSessionRow.revoke (now : ℤ) (row : AuthSessionRow) : AuthSessionRow :=
  { row with
    revokedAt := some (max row.updatedAt now)
    updatedAt := max row.updatedAt now }

def AuthSessionRow.rotate (hash : Digest) (now : ℤ) (row : AuthSessionRow) : AuthSessionRow :=
  { row with refreshTokenHash := hash, updatedAt := max row.updatedAt now }

/-- The transaction of a refresh. A token that is not the last one of a live session revokes it. -/
def rotateSession (refreshToken : String) (claims : RefreshClaims) (drawn : Drawn) (now : ℤ) :
    AuthTx (Option IssuedSession) := do
  match findSession (← read) claims with
  | none => return none
  | some session =>
    if session.revokedAt ≠ none ∨ session.expiresAt ≤ now then return none
    else if session.refreshTokenHash ≠ crypto.tokenHash refreshToken then do
      updateSession session (session.revoke now)
      return none
    else do
      let user ← findAndTouchPrincipal session.userId now
      let issued := issueTokens crypto settings user session.id drawn now (some session.expiresAt)
      updateSession session (session.rotate (crypto.tokenHash issued.refreshToken) now)
      return some issued

/-- The statement of a logout. -/
def revokeSession (claims : RefreshClaims) (now : ℤ) : AuthTx Unit := do
  match (findSession (← read) claims).filter fun row => row.revokedAt = none with
  | none => pure ()
  | some session => updateSession session (session.revoke now)

def loginSession (email password : String) (drawn : Drawn) (now : ℤ) :
    AuthTx (Option IssuedSession) := do
  match (← read).users.find? fun user => user.email = email with
  | none => return none
  | some user =>
    if crypto.compare password user.passwordHash = true then do
      let touched ← findAndTouchPrincipal user.id now
      let issued ← createSession crypto settings touched drawn now
      return some issued
    else return none

/-- The economy service may fail to provision a new user. -/
def registerSession (email : String) (provisioned : Bool) (drawn : Drawn) (now : ℤ) :
    AuthTx IssuedSession := do
  let user ← createEmailUser email drawn now
  check (provisioned = true) (.error "Coin account was not provisioned")
  createSession crypto settings user drawn now

/-! ### Calls -/

/-- Run `work` as a whole or not at all; what it returns, and the tables after it. -/
def withTransaction {α : Type} (work : AuthTx α) (s : Identity) : Except AuthFailure α × Identity :=
  match work s with
  | .ok (a, s') => (.ok a, s')
  | .error failure => (.error failure, s)

/-- The failure with which a transaction answers that has committed nothing to hand out. -/
def orFail {α : Type} (failure : AuthFailure) :
    Except AuthFailure (Option α) × Identity → Except AuthFailure α × Identity
  | (.ok (some a), s) => (.ok a, s)
  | (.ok none, s) => (.error failure, s)
  | (.error failure', s) => (.error failure', s)

def emailExists : AuthFailure := .http .emailExists 409 "Email is already registered"

def credentialsInvalid : AuthFailure :=
  .http .credentialsInvalid 401 "Email or password is invalid"

def sessionInvalid : AuthFailure := .http .sessionInvalid 401 "Session is invalid"

def register (email : String) (provisioned : Bool) (drawn : Drawn) (now : ℤ) (s : Identity) :
    Except AuthFailure IssuedSession × Identity :=
  match withTransaction (registerSession crypto settings email provisioned drawn now) s with
  | (.error (.uniqueViolation _), s') => (.error emailExists, s')
  | result => result

def login (email password : String) (drawn : Drawn) (now : ℤ) (s : Identity) :
    Except AuthFailure IssuedSession × Identity :=
  orFail credentialsInvalid
    (withTransaction (loginSession crypto settings email password drawn now) s)

def refresh (refreshToken : String) (drawn : Drawn) (now : ℤ) (s : Identity) :
    Except AuthFailure IssuedSession × Identity :=
  match verifyRefreshToken crypto settings refreshToken now with
  | none => (.error sessionInvalid, s)
  | some claims => orFail sessionInvalid
      (withTransaction (rotateSession crypto settings refreshToken claims drawn now) s)

def logout (refreshToken : Option String) (now : ℤ) (s : Identity) :
    Except AuthFailure Unit × Identity :=
  match refreshToken.bind fun token => verifyRefreshToken crypto settings token now with
  | none => (.ok (), s)
  | some claims => withTransaction (revokeSession claims now) s

inductive AuthCall
  | register (email : String) (provisioned : Bool)
  | login (email password : String)
  | refresh (refreshToken : String)
  | logout (refreshToken : Option String)

/-- A call to the service: what it hands out, if anything, and the tables after it. -/
def runAuth (drawn : Drawn) (now : ℤ) (s : Identity) :
    AuthCall → Except AuthFailure (Option IssuedSession) × Identity
  | .register email provisioned =>
    (register crypto settings email provisioned drawn now s).map (·.map some) id
  | .login email password => (login crypto settings email password drawn now s).map (·.map some) id
  | .refresh refreshToken => (refresh crypto settings refreshToken drawn now s).map (·.map some) id
  | .logout refreshToken =>
    (logout crypto settings refreshToken now s).map (·.map fun _ => none) id

/-- A call with what it has drawn, the clock of its host, and its answer. -/
structure AuthLabel where
  call : AuthCall
  drawn : Drawn
  now : ℤ
  answer : Except AuthFailure (Option IssuedSession)

def AuthStep (s : Identity) (label : AuthLabel) (s' : Identity) : Prop :=
  runAuth crypto settings label.drawn label.now s label.call = (label.answer, s')

end Service

end Pootown.Auth
