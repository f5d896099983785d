import Mathlib.Tactic
import Pootown.Api.EmailAuth
import Pootown.Library.CanonicalJson
import Pootown.Library.Runs

/-!
# Refresh tokens are good for one use

* `AuthEffect`: what a call can do to the sessions, with what it hands out; `AuthStep.effect`;
* `SessionHistory`: what the sessions say of the calls so far, kept by every call;
* `refresh_of_reused`, `logout_of_verified`: an earlier token, or a logout, revokes the session;
* `Revoked`: such a session, for ever, and without another token;
* `refresh_tokens_single_use`.
-/

namespace Pootown.Auth

open Runs Transactions

variable {crypto : Crypto} {settings : AuthSettings} {s s' : Identity} {now : ℤ} {drawn : Drawn}

/-! ### What the statements do -/

theorem insertSession_eq_ok {row : AuthSessionRow} {u : Unit} :
    insertSession row s = .ok (u, s') ↔ row.TimestampsOrdered ∧
      (∃ user ∈ s.users, user.id = row.userId) ∧ s.sessions row.id = none ∧
      s' = { s with sessions := Function.update s.sessions row.id (some row) } := by
  simp only [insertSession, check_bind_eq_ok, read_bind, insertRow_eq_ok]

theorem validateAuthSessionUpdate_eq_ok {old new : AuthSessionRow} {u : Unit} :
    validateAuthSessionUpdate old new s = .ok (u, s') ↔
      ((old.id = new.id ∧ old.userId = new.userId ∧ old.expiresAt = new.expiresAt ∧
        old.createdAt = new.createdAt) ∧ old.revokedAt = none ∧ old.updatedAt ≤ new.updatedAt) ∧
      s' = s := by
  simp only [validateAuthSessionUpdate, check_bind_eq_ok, check_eq_ok, and_assoc]

theorem updateSession_eq_ok {old new : AuthSessionRow} {u : Unit} :
    updateSession old new s = .ok (u, s') ↔
      ((old.id = new.id ∧ old.userId = new.userId ∧ old.expiresAt = new.expiresAt ∧
        old.createdAt = new.createdAt) ∧ old.revokedAt = none ∧ old.updatedAt ≤ new.updatedAt) ∧
      new.TimestampsOrdered ∧
      s' = { s with sessions := Function.update s.sessions old.id (some new) } := by
  rw [updateSession, bind_eq_ok]
  simp only [validateAuthSessionUpdate_eq_ok, check_bind_eq_ok, write_eq_ok]
  constructor
  · rintro ⟨_, _, ⟨hvalid, rfl⟩, hordered, rfl⟩
    exact ⟨hvalid, hordered, rfl⟩
  · rintro ⟨hvalid, hordered, rfl⟩
    exact ⟨(), s, ⟨hvalid, rfl⟩, hordered, rfl⟩

theorem findAndTouchPrincipal_ok {userId : Uuid} {user : UserRow}
    (h : findAndTouchPrincipal userId now s = .ok (user, s')) :
    user.id = userId ∧ s'.sessions = s.sessions := by
  simp only [findAndTouchPrincipal, read_bind, checkSome_bind_eq_ok, write_bind, pure_eq_ok] at h
  obtain ⟨found, hfind, rfl, rfl⟩ := h
  exact ⟨by simpa using List.find?_some hfind, rfl⟩

/-- A revoked row passes the trigger and the constraint. -/
theorem updateSession_revoke {row : AuthSessionRow} (hlive : row.revokedAt = none)
    (hordered : row.TimestampsOrdered) : updateSession row (row.revoke now) s =
      .ok ((), { s with sessions := Function.update s.sessions row.id (some (row.revoke now)) }) := by
  refine updateSession_eq_ok.2 ⟨⟨⟨rfl, rfl, rfl, rfl⟩, hlive, le_max_left _ _⟩, ?_, rfl⟩
  have hle : row.createdAt ≤ max row.updatedAt now := hordered.1.trans (le_max_left _ _)
  exact ⟨hle, hordered.2.1, fun revokedAt h => by cases h; exact hle⟩

/-! ### What a call does -/

/-- What the call hands out. -/
def AuthLabel.issued (label : AuthLabel) : Option IssuedSession :=
  match label.answer with
  | .ok issued => issued
  | .error _ => none

/-- The effects of a call on the sessions, with the tokens it hands out. -/
inductive AuthEffect (crypto : Crypto) (settings : AuthSettings) (s : Identity) (label : AuthLabel)
    (s' : Identity) : Prop
  | quiet : label.issued = none → s'.sessions = s.sessions → AuthEffect crypto settings s label s'
  | created (user : UserRow) (issued : IssuedSession) (row : AuthSessionRow) :
      issued = issueTokens crypto settings user label.drawn.sessionId label.drawn label.now none →
      row = ⟨label.drawn.sessionId, user.id, crypto.tokenHash issued.refreshToken,
        issued.refreshExpiresAt, label.now, label.now, none⟩ →
      label.issued = some issued → row.TimestampsOrdered → s.sessions row.id = none →
      s'.sessions = Function.update s.sessions row.id (some row) →
      AuthEffect crypto settings s label s'
  | revoked (row : AuthSessionRow) (key : String) : label.issued = none →
      s.sessions key = some row → row.revokedAt = none → (row.revoke label.now).TimestampsOrdered →
      s'.sessions = Function.update s.sessions row.id (some (row.revoke label.now)) →
      AuthEffect crypto settings s label s'
  | rotated (token key : String) (user : UserRow) (issued : IssuedSession) (row : AuthSessionRow) :
      label.call = .refresh token → s.sessions key = some row → row.revokedAt = none →
      label.now < row.expiresAt → row.refreshTokenHash = crypto.tokenHash token →
      user.id = row.userId →
      issued = issueTokens crypto settings user row.id label.drawn label.now (some row.expiresAt) →
      label.issued = some issued →
      (row.rotate (crypto.tokenHash issued.refreshToken) label.now).TimestampsOrdered →
      s'.sessions = Function.update s.sessions row.id
        (some (row.rotate (crypto.tokenHash issued.refreshToken) label.now)) →
      AuthEffect crypto settings s label s'

theorem findSession_eq_some {claims : RefreshClaims} {row : AuthSessionRow} :
    findSession s claims = some row ↔
      s.sessions claims.sid = some row ∧ row.userId.val = claims.sub := by
  simp [findSession, Option.filter_eq_some_iff]

theorem createSession_ok {user : UserRow} {issued : IssuedSession}
    (h : createSession crypto settings user drawn now s = .ok (issued, s')) :
    issued = issueTokens crypto settings user drawn.sessionId drawn now none ∧ ∃ row,
      row = AuthSessionRow.mk drawn.sessionId user.id (crypto.tokenHash issued.refreshToken)
        issued.refreshExpiresAt now now none ∧ row.TimestampsOrdered ∧ s.sessions row.id = none ∧
      s'.sessions = Function.update s.sessions row.id (some row) := by
  simp only [createSession, bind_eq_ok, pure_eq_ok] at h
  obtain ⟨_, _, hinsert, rfl, rfl⟩ := h
  obtain ⟨hordered, -, hnew, rfl⟩ := insertSession_eq_ok.1 hinsert
  exact ⟨rfl, _, rfl, hordered, hnew, rfl⟩

theorem loginSession_ok {email password : String} {answer : Option IssuedSession}
    (h : loginSession crypto settings email password drawn now s = .ok (answer, s')) :
    (answer = none ∧ s' = s) ∨ ∃ user issued m, answer = some issued ∧ m.sessions = s.sessions ∧
      createSession crypto settings user drawn now m = .ok (issued, s') := by
  simp only [loginSession, read_bind] at h
  cases hfind : s.users.find? fun user => user.email = email with
  | none =>
    rw [hfind] at h
    obtain ⟨rfl, rfl⟩ := pure_eq_ok.1 h
    exact .inl ⟨rfl, rfl⟩
  | some user =>
    rw [hfind] at h
    rcases ite_eq_ok.1 h with ⟨-, h⟩ | ⟨-, h⟩
    · simp only [bind_eq_ok, pure_eq_ok] at h
      obtain ⟨user, m, htouch, issued, _, hcreate, rfl, rfl⟩ := h
      exact .inr ⟨user, issued, m, rfl, (findAndTouchPrincipal_ok htouch).2, hcreate⟩
    · obtain ⟨rfl, rfl⟩ := pure_eq_ok.1 h
      exact .inl ⟨rfl, rfl⟩

theorem registerSession_ok {email : String} {provisioned : Bool} {issued : IssuedSession}
    (h : registerSession crypto settings email provisioned drawn now s = .ok (issued, s')) :
    ∃ user m, m.sessions = s.sessions ∧
      createSession crypto settings user drawn now m = .ok (issued, s') := by
  simp only [registerSession, createEmailUser, bind_bind, read_bind, check_bind_eq_ok,
    write_bind] at h
  obtain ⟨-, -, h⟩ := h
  obtain ⟨user, m, huser, h⟩ := bind_eq_ok.1 h
  obtain ⟨rfl, rfl⟩ := pure_eq_ok.1 huser
  obtain ⟨-, h⟩ := check_bind_eq_ok.1 h
  refine ⟨_, _, ?_, h⟩
  rfl

theorem rotateSession_ok {token : String} {claims : RefreshClaims} {answer : Option IssuedSession}
    (h : rotateSession crypto settings token claims drawn now s = .ok (answer, s')) :
    (answer = none ∧ s' = s) ∨
    (∃ row, answer = none ∧ s.sessions claims.sid = some row ∧ row.revokedAt = none ∧
      updateSession row (row.revoke now) s = .ok ((), s')) ∨
    ∃ row user issued m, answer = some issued ∧ s.sessions claims.sid = some row ∧
      row.revokedAt = none ∧ now < row.expiresAt ∧
      row.refreshTokenHash = crypto.tokenHash token ∧ user.id = row.userId ∧
      issued = issueTokens crypto settings user row.id drawn now (some row.expiresAt) ∧
      m.sessions = s.sessions ∧
      updateSession row (row.rotate (crypto.tokenHash issued.refreshToken) now) m
        = .ok ((), s') := by
  simp only [rotateSession, read_bind] at h
  cases hfind : findSession s claims with
  | none =>
    rw [hfind] at h
    obtain ⟨rfl, rfl⟩ := pure_eq_ok.1 h
    exact .inl ⟨rfl, rfl⟩
  | some row =>
    rw [hfind] at h
    have hrow := (findSession_eq_some.1 hfind).1
    rcases ite_eq_ok.1 h with ⟨-, h⟩ | ⟨hlive, h⟩
    · obtain ⟨rfl, rfl⟩ := pure_eq_ok.1 h
      exact .inl ⟨rfl, rfl⟩
    rw [not_or, not_not, not_le] at hlive
    rcases ite_eq_ok.1 h with ⟨-, h⟩ | ⟨hhash, h⟩
    · simp only [bind_eq_ok, pure_eq_ok] at h
      obtain ⟨_, _, hupdate, rfl, rfl⟩ := h
      exact .inr (.inl ⟨row, rfl, hrow, hlive.1, hupdate⟩)
    · simp only [bind_eq_ok, pure_eq_ok] at h
      obtain ⟨user, m, htouch, _, _, hupdate, rfl, rfl⟩ := h
      obtain ⟨huser, hsessions⟩ := findAndTouchPrincipal_ok htouch
      exact .inr (.inr ⟨row, user, _, m, rfl, hrow, hlive.1, hlive.2, not_not.1 hhash, huser, rfl,
        hsessions, hupdate⟩)

theorem revokeSession_ok {claims : RefreshClaims} {u : Unit}
    (h : revokeSession claims now s = .ok (u, s')) :
    s' = s ∨ ∃ row, s.sessions claims.sid = some row ∧ row.revokedAt = none ∧
      updateSession row (row.revoke now) s = .ok ((), s') := by
  simp only [revokeSession, read_bind] at h
  cases hfind : (findSession s claims).filter fun row => row.revokedAt = none with
  | none =>
    rw [hfind] at h
    exact .inl (pure_eq_ok.1 h).2.symm
  | some row =>
    rw [hfind] at h
    obtain ⟨hfound, hlive⟩ := Option.filter_eq_some_iff.1 hfind
    exact .inr ⟨row, (findSession_eq_some.1 hfound).1, by simpa using hlive, h⟩

/-- What a new session comes with. -/
theorem AuthEffect.of_createSession {label : AuthLabel} {user : UserRow} {issued : IssuedSession}
    {m : Identity} (hsessions : m.sessions = s.sessions) (hissued : label.issued = some issued)
    (h : createSession crypto settings user label.drawn label.now m = .ok (issued, s')) :
    AuthEffect crypto settings s label s' := by
  obtain ⟨hgiven, row, hrow, hordered, hnew, hafter⟩ := createSession_ok h
  rw [hsessions] at hnew hafter
  exact .created user issued row hgiven hrow hissued hordered hnew hafter

/-- What a live session is revoked by. -/
theorem AuthEffect.of_revoke {label : AuthLabel} {row : AuthSessionRow} {key : String}
    (hissued : label.issued = none) (hrow : s.sessions key = some row) (hlive : row.revokedAt = none)
    (h : updateSession row (row.revoke label.now) s = .ok ((), s')) :
    AuthEffect crypto settings s label s' := by
  obtain ⟨-, hordered, rfl⟩ := updateSession_eq_ok.1 h
  exact .revoked row key hissued hrow hlive hordered rfl

theorem AuthStep.effect {label : AuthLabel} (h : AuthStep crypto settings s label s') :
    AuthEffect crypto settings s label s' := by
  obtain ⟨call, drawn, now, answer⟩ := label
  cases call with
  | register email provisioned =>
    cases hwork : registerSession crypto settings email provisioned drawn now s with
    | error failure =>
      simp only [AuthStep, runAuth, register, withTransaction, hwork] at h
      cases failure <;> cases h <;> exact .quiet rfl rfl
    | ok result =>
      obtain ⟨issued, s''⟩ := result
      simp only [AuthStep, runAuth, register, withTransaction, hwork] at h
      cases h
      obtain ⟨user, m, hsessions, hcreate⟩ := registerSession_ok hwork
      exact .of_createSession hsessions rfl hcreate
  | login email password =>
    cases hwork : loginSession crypto settings email password drawn now s with
    | error failure =>
      simp only [AuthStep, runAuth, login, withTransaction, hwork] at h
      cases h
      exact .quiet rfl rfl
    | ok result =>
      obtain ⟨issued, s''⟩ := result
      simp only [AuthStep, runAuth, login, withTransaction, hwork] at h
      obtain ⟨rfl, rfl⟩ | ⟨user, issued, m, rfl, hsessions, hcreate⟩ := loginSession_ok hwork
      · cases h
        exact .quiet rfl rfl
      · cases h
        exact .of_createSession hsessions rfl hcreate
  | refresh token =>
    cases hverify : verifyRefreshToken crypto settings token now with
    | none =>
      simp only [AuthStep, runAuth, refresh, hverify] at h
      cases h
      exact .quiet rfl rfl
    | some claims =>
      cases hwork : rotateSession crypto settings token claims drawn now s with
      | error failure =>
        simp only [AuthStep, runAuth, refresh, hverify, withTransaction, hwork] at h
        cases h
        exact .quiet rfl rfl
      | ok result =>
        obtain ⟨issued, s''⟩ := result
        simp only [AuthStep, runAuth, refresh, hverify, withTransaction, hwork] at h
        obtain ⟨rfl, rfl⟩ | ⟨row, rfl, hrow, hlive, hupdate⟩ | ⟨row, user, issued, m, rfl, hrow,
          hlive, hexpires, hhash, huser, hgiven, hsessions, hupdate⟩ := rotateSession_ok hwork
        · cases h
          exact .quiet rfl rfl
        · cases h
          exact .of_revoke rfl hrow hlive hupdate
        · cases h
          obtain ⟨-, hordered, rfl⟩ := updateSession_eq_ok.1 hupdate
          rw [hsessions]
          exact .rotated token claims.sid user issued row rfl hrow hlive hexpires hhash huser hgiven rfl
            hordered rfl
  | logout token =>
    cases hverify : token.bind fun token => verifyRefreshToken crypto settings token now with
    | none =>
      simp only [AuthStep, runAuth, logout, hverify] at h
      cases h
      exact .quiet rfl rfl
    | some claims =>
      cases hwork : revokeSession claims now s with
      | error failure =>
        simp only [AuthStep, runAuth, logout, hverify, withTransaction, hwork] at h
        cases h
        exact .quiet rfl rfl
      | ok result =>
        obtain ⟨u, s''⟩ := result
        simp only [AuthStep, runAuth, logout, hverify, withTransaction, hwork] at h
        cases h
        obtain rfl | ⟨row, hrow, hlive, hupdate⟩ := revokeSession_ok hwork
        · exact .quiet rfl rfl
        · exact .of_revoke rfl hrow hlive hupdate

/-! ### What the sessions say of the calls -/

/-- The session that a refresh token is for. -/
def tokenSession (crypto : Crypto) (token : String) : Option String :=
  (crypto.openRefresh token).map RefreshClaims.sid

/-- What the call hands out for a session. -/
def AuthLabel.issuedTo (crypto : Crypto) (sid : String) (label : AuthLabel) :
    Option IssuedSession :=
  label.issued.filter fun issued => tokenSession crypto issued.refreshToken = some sid

/-- The refresh tokens of a session, in the order in which they were handed out. -/
def tokensOf (crypto : Crypto) (sid : String) (labels : List AuthLabel) : List String :=
  labels.filterMap fun label => (label.issuedTo crypto sid).map IssuedSession.refreshToken

theorem tokenSession_issueTokens (user : UserRow) (sessionId : Uuid) (expiry : Option ℤ) :
    tokenSession crypto (issueTokens crypto settings user sessionId drawn now expiry).refreshToken
      = some sessionId.val := by
  simp [tokenSession, issueTokens, crypto.open_signRefresh]

theorem AuthLabel.issuedTo_of_none {label : AuthLabel} (h : label.issued = none) (sid : String) :
    label.issuedTo crypto sid = none := by
  rw [AuthLabel.issuedTo, h]
  rfl

theorem AuthLabel.issuedTo_of_some {label : AuthLabel} {issued : IssuedSession} {sid : String}
    (h : label.issued = some issued) (hsid : tokenSession crypto issued.refreshToken = some sid)
    (k : String) : label.issuedTo crypto k = if sid = k then some issued else none := by
  simp [AuthLabel.issuedTo, h, hsid, Option.filter]

theorem tokensOf_snoc (sid : String) (past : List AuthLabel) (label : AuthLabel) :
    tokensOf crypto sid (past ++ [label]) = tokensOf crypto sid past ++
      ((label.issuedTo crypto sid).map IssuedSession.refreshToken).toList := by
  rw [tokensOf, List.filterMap_append]
  refine congrArg (_ ++ ·) ?_
  rw [List.filterMap_cons]
  cases (label.issuedTo crypto sid).map IssuedSession.refreshToken with
  | none => rfl
  | some token => rfl

/-- The clocks of the hosts agree so far that no call runs before an earlier one. -/
abbrev ClocksForward (labels : List AuthLabel) : Prop :=
  (labels.map AuthLabel.now).Pairwise (· ≤ ·)

/-- What the row of a session says of the calls so far. Its digest is that of the last token; the
tokens all expire with the session. -/
structure RowHistory (crypto : Crypto) (settings : AuthSettings) (past : List AuthLabel)
    (sid : String) (row : AuthSessionRow) : Prop where
  keyed : row.id.val = sid
  ordered : row.TimestampsOrdered
  expiry : row.expiresAt = (row.createdAt / 1000 + settings.refreshTtlSeconds) * 1000
  last : ∃ older last, tokensOf crypto sid past = older ++ [last] ∧
    row.refreshTokenHash = crypto.tokenHash last
  started : ∃ label ∈ past, label.now = row.createdAt
  issued : ∀ label ∈ past, ∀ issued ∈ label.issuedTo crypto sid,
    issued.refreshExpiresAt = row.expiresAt ∧ label.now < row.expiresAt ∧
    crypto.openRefresh issued.refreshToken = some ⟨row.userId, sid, label.drawn.jti,
      label.now / 1000, row.expiresAt / 1000⟩
  forward : ClocksForward past → ∀ label ∈ past, label.issuedTo crypto sid ≠ none →
    row.createdAt ≤ label.now

/-- What the sessions say of the calls so far. -/
structure SessionHistory (crypto : Crypto) (settings : AuthSettings) (past : List AuthLabel)
    (s : Identity) : Prop where
  row : ∀ sid row, s.sessions sid = some row → RowHistory crypto settings past sid row
  unissued : ∀ sid, s.sessions sid = none → tokensOf crypto sid past = []

section History

variable {past : List AuthLabel} {label : AuthLabel} {sid : String} {row : AuthSessionRow}

theorem ClocksForward.of_snoc (h : ClocksForward (past ++ [label])) :
    ClocksForward past ∧ ∀ earlier ∈ past, earlier.now ≤ label.now := by
  rw [ClocksForward, List.map_append, List.pairwise_append] at h
  exact ⟨h.1, fun earlier hmem =>
    h.2.2 _ (List.mem_map_of_mem hmem) _ (List.mem_singleton_self _)⟩

/-- A call that hands out nothing for a session leaves its history as it was. -/
theorem RowHistory.quiet (h : RowHistory crypto settings past sid row)
    (hquiet : label.issuedTo crypto sid = none) :
    RowHistory crypto settings (past ++ [label]) sid row where
  keyed := h.keyed
  ordered := h.ordered
  expiry := h.expiry
  last := by
    obtain ⟨older, last, htokens, hhash⟩ := h.last
    refine ⟨older, last, ?_, hhash⟩
    rw [tokensOf_snoc, hquiet, htokens]
    exact List.append_nil _
  started := by
    obtain ⟨first, hmem, hnow⟩ := h.started
    exact ⟨first, List.mem_append_left _ hmem, hnow⟩
  issued := by
    intro other hmem issued hissued
    rcases List.mem_append.1 hmem with hmem | hmem
    · exact h.issued other hmem issued hissued
    · rw [List.mem_singleton.1 hmem, hquiet] at hissued
      cases hissued
  forward := by
    intro hclocks other hmem hother
    rcases List.mem_append.1 hmem with hmem | hmem
    · exact h.forward hclocks.of_snoc.1 other hmem hother
    · rw [List.mem_singleton.1 hmem] at hother
      exact absurd hquiet hother

theorem RowHistory.revoke (h : RowHistory crypto settings past sid row)
    (hordered : (row.revoke now).TimestampsOrdered) :
    RowHistory crypto settings past sid (row.revoke now) :=
  ⟨h.keyed, hordered, h.expiry, h.last, h.started, h.issued, h.forward⟩

/-- The next token of a session. -/
theorem RowHistory.rotate (h : RowHistory crypto settings past sid row) {user : UserRow}
    {issued : IssuedSession} (huser : user.id = row.userId) (hexpires : label.now < row.expiresAt)
    (hgiven : issued = issueTokens crypto settings user row.id label.drawn label.now
      (some row.expiresAt))
    (hissued : label.issuedTo crypto sid = some issued)
    (hordered : (row.rotate (crypto.tokenHash issued.refreshToken) label.now).TimestampsOrdered) :
    RowHistory crypto settings (past ++ [label]) sid
      (row.rotate (crypto.tokenHash issued.refreshToken) label.now) where
  keyed := h.keyed
  ordered := hordered
  expiry := h.expiry
  last := by
    refine ⟨tokensOf crypto sid past, issued.refreshToken, ?_, rfl⟩
    rw [tokensOf_snoc, hissued]
    rfl
  started := by
    obtain ⟨first, hmem, hnow⟩ := h.started
    exact ⟨first, List.mem_append_left _ hmem, hnow⟩
  issued := by
    intro other hmem given hother
    rcases List.mem_append.1 hmem with hmem | hmem
    · exact h.issued other hmem given hother
    · rw [List.mem_singleton.1 hmem, hissued] at hother
      cases hother
      rw [List.mem_singleton.1 hmem]
      refine ⟨by rw [hgiven]; rfl, hexpires, ?_⟩
      rw [hgiven]
      show crypto.openRefresh (crypto.signRefresh _) = _
      rw [crypto.open_signRefresh, huser, h.keyed]
      rfl
  forward := by
    intro hclocks other hmem hother
    obtain ⟨hpast, hle⟩ := hclocks.of_snoc
    rcases List.mem_append.1 hmem with hmem | hmem
    · exact h.forward hpast other hmem hother
    · obtain ⟨first, hfirst, hnow⟩ := h.started
      rw [List.mem_singleton.1 hmem]
      show row.createdAt ≤ label.now
      exact hnow ▸ hle first hfirst

/-- The first token of a session. -/
theorem RowHistory.created (htokens : tokensOf crypto sid past = []) {user : UserRow}
    {issued : IssuedSession} (hsid : label.drawn.sessionId.val = sid)
    (hgiven : issued = issueTokens crypto settings user label.drawn.sessionId label.drawn label.now
      none)
    (hrow : row = ⟨label.drawn.sessionId, user.id, crypto.tokenHash issued.refreshToken,
      issued.refreshExpiresAt, label.now, label.now, none⟩)
    (hissued : label.issuedTo crypto sid = some issued) (hordered : row.TimestampsOrdered) :
    RowHistory crypto settings (past ++ [label]) sid row := by
  have hnone : ∀ other ∈ past, other.issuedTo crypto sid = none := by
    intro other hmem
    have := List.filterMap_eq_nil_iff.1 htokens other hmem
    exact Option.map_eq_none_iff.1 this
  have hexpiry : row.expiresAt = (row.createdAt / 1000 + settings.refreshTtlSeconds) * 1000 := by
    rw [hrow, hgiven]
    rfl
  have hcreated : row.createdAt = label.now := by rw [hrow]
  constructor
  case keyed => rw [hrow, hsid]
  case ordered => exact hordered
  case expiry => exact hexpiry
  case last =>
    refine ⟨[], issued.refreshToken, ?_, by rw [hrow]⟩
    rw [tokensOf_snoc, hissued, htokens]
    rfl
  case started => exact ⟨label, List.mem_append_right _ (List.mem_singleton_self _), hcreated.symm⟩
  case issued =>
    intro other hmem given hother
    rcases List.mem_append.1 hmem with hmem | hmem
    · rw [hnone other hmem] at hother
      cases hother
    · rw [List.mem_singleton.1 hmem, hissued] at hother
      cases hother
      rw [List.mem_singleton.1 hmem]
      refine ⟨by rw [hrow], hcreated ▸ hordered.2.1, ?_⟩
      rw [hrow, hgiven]
      show crypto.openRefresh (crypto.signRefresh _) = _
      rw [crypto.open_signRefresh, hsid]
      rfl
  case forward =>
    intro _ other hmem hother
    rcases List.mem_append.1 hmem with hmem | hmem
    · exact absurd (hnone other hmem) hother
    · rw [List.mem_singleton.1 hmem, hcreated]

/-- A rewritten row is the only one whose history the call goes into. -/
theorem SessionHistory.update (h : SessionHistory crypto settings past s)
    (hothers : ∀ k, k ≠ sid → label.issuedTo crypto k = none)
    (hrow : RowHistory crypto settings (past ++ [label]) sid row)
    (hs' : s'.sessions = Function.update s.sessions sid (some row)) :
    SessionHistory crypto settings (past ++ [label]) s' where
  row := by
    intro k other hother
    rw [hs'] at hother
    by_cases hk : k = sid
    · subst hk
      rw [Function.update_self] at hother
      cases hother
      exact hrow
    · rw [Function.update_of_ne hk] at hother
      exact (h.row k other hother).quiet (hothers k hk)
  unissued := by
    intro k hnone
    rw [hs'] at hnone
    by_cases hk : k = sid
    · subst hk
      rw [Function.update_self] at hnone
      cases hnone
    · rw [Function.update_of_ne hk] at hnone
      rw [tokensOf_snoc, hothers k hk, h.unissued k hnone]
      rfl

theorem SessionHistory.step (h : SessionHistory crypto settings past s)
    (hstep : AuthStep crypto settings s label s') :
    SessionHistory crypto settings (past ++ [label]) s' := by
  have hothers : ∀ {issued : IssuedSession} {sid : String}, label.issued = some issued →
      tokenSession crypto issued.refreshToken = some sid →
      label.issuedTo crypto sid = some issued ∧
        ∀ k, k ≠ sid → label.issuedTo crypto k = none := by
    intro issued sid hissued hsid
    have hto := AuthLabel.issuedTo_of_some hissued hsid
    exact ⟨by rw [hto, if_pos rfl], fun k hk => by rw [hto, if_neg (Ne.symm hk)]⟩
  cases hstep.effect with
  | quiet hissued hsessions =>
    constructor
    · intro sid row hrow
      rw [hsessions] at hrow
      exact (h.row sid row hrow).quiet (AuthLabel.issuedTo_of_none hissued sid)
    · intro sid hnone
      rw [hsessions] at hnone
      rw [tokensOf_snoc, AuthLabel.issuedTo_of_none hissued, h.unissued sid hnone]
      rfl
  | created user issued row hgiven hrow hissued hordered hnew hsessions =>
    have hid : row.id = label.drawn.sessionId := by rw [hrow]
    have hsid : tokenSession crypto issued.refreshToken = some row.id.val := by
      rw [hgiven, tokenSession_issueTokens, hid]
    obtain ⟨hto, hne⟩ := hothers hissued hsid
    exact h.update hne (.created (h.unissued _ hnew) (by rw [hid]) hgiven hrow hto hordered)
      hsessions
  | revoked row key hissued hrow hlive hordered hsessions =>
    have hhistory := h.row key row hrow
    rw [hhistory.keyed] at hsessions
    have hquiet : ∀ key, label.issuedTo crypto key = none := AuthLabel.issuedTo_of_none hissued
    exact h.update (fun k _ => hquiet k) ((hhistory.quiet (hquiet key)).revoke hordered) hsessions
  | rotated token key user issued row hcall hrow hlive hexpires hhash huser hgiven hissued hordered
      hsessions =>
    have hhistory := h.row key row hrow
    have hsid : tokenSession crypto issued.refreshToken = some key := by
      rw [hgiven, tokenSession_issueTokens, hhistory.keyed]
    obtain ⟨hto, hne⟩ := hothers hissued hsid
    rw [hhistory.keyed] at hsessions
    exact h.update hne (hhistory.rotate huser hexpires hgiven hto hordered) hsessions

theorem sessionHistory_of_run {labels : List AuthLabel}
    (hrun : Run (AuthStep crypto settings) .empty labels s) :
    SessionHistory crypto settings labels s :=
  have hempty : SessionHistory crypto settings [] .empty :=
    ⟨fun _ _ h => (nomatch h), fun _ _ => rfl⟩
  hrun.history (fun _ _ _ _ h hstep => h.step hstep) hempty

/-- A token of a session names it and its user. -/
theorem RowHistory.open_of_mem (h : RowHistory crypto settings past sid row) {token : String}
    (hmem : token ∈ tokensOf crypto sid past) : ∃ label ∈ past, label.issuedTo crypto sid ≠ none ∧
      crypto.openRefresh token = some ⟨row.userId, sid, label.drawn.jti, label.now / 1000,
        row.expiresAt / 1000⟩ := by
  obtain ⟨label, hlabel, htoken⟩ := List.mem_filterMap.1 hmem
  obtain ⟨issued, hissued, rfl⟩ := Option.map_eq_some_iff.1 htoken
  exact ⟨label, hlabel, by rw [hissued]; exact Option.some_ne_none _,
    (h.issued label hlabel issued hissued).2.2⟩

theorem SessionHistory.exists_row (h : SessionHistory crypto settings past s) {token : String}
    (hmem : token ∈ tokensOf crypto sid past) : ∃ row, s.sessions sid = some row := by
  cases hrow : s.sessions sid with
  | some row => exact ⟨row, rfl⟩
  | none =>
    rw [h.unissued sid hrow] at hmem
    cases hmem

end History

/-! ### Refreshing -/

theorem verifyRefreshToken_eq_some {token : String} {claims : RefreshClaims} :
    verifyRefreshToken crypto settings token now = some claims ↔
      crypto.openRefresh token = some claims ∧ now / 1000 < claims.exp ∧
      0 < utf16Length claims.sub ∧ utf16Length claims.sub ≤ 128 ∧
      0 < utf16Length claims.sid ∧ utf16Length claims.sid ≤ 128 ∧
      claims.iat ≤ now / 1000 + 5 ∧ claims.exp - claims.iat ≤ settings.refreshTtlSeconds := by
  simp [verifyRefreshToken, Option.filter_eq_some_iff]

/-- At some time, some refresh with the token succeeds. -/
def Refreshable (crypto : Crypto) (settings : AuthSettings) (token : String) (s : Identity) : Prop :=
  ∃ drawn now issued s', refresh crypto settings token drawn now s = (.ok issued, s')

theorem Refreshable.live {token : String} (h : Refreshable crypto settings token s) :
    ∃ claims row, crypto.openRefresh token = some claims ∧ s.sessions claims.sid = some row ∧
      row.revokedAt = none ∧ row.refreshTokenHash = crypto.tokenHash token := by
  obtain ⟨drawn, now, issued, s', hrefresh⟩ := h
  cases hverify : verifyRefreshToken crypto settings token now with
  | none =>
    simp only [refresh, hverify] at hrefresh
    cases hrefresh
  | some claims =>
    have hopen := (verifyRefreshToken_eq_some.1 hverify).1
    cases hwork : rotateSession crypto settings token claims drawn now s with
    | error failure =>
      simp only [refresh, hverify, withTransaction, hwork] at hrefresh
      cases hrefresh
    | ok result =>
      obtain ⟨answer, s''⟩ := result
      simp only [refresh, hverify, withTransaction, hwork] at hrefresh
      obtain ⟨rfl, -⟩ | ⟨-, rfl, -⟩ | ⟨row, -, -, -, -, hrow, hlive, -, hhash, -⟩ :=
        rotateSession_ok hwork
      · cases hrefresh
      · cases hrefresh
      · exact ⟨claims, row, hopen, hrow, hlive, hhash⟩

/-- A session that has ended before its time. -/
def Revoked (sid : String) (s : Identity) : Prop :=
  ∃ row, s.sessions sid = some row ∧ row.revokedAt ≠ none

section Reuse

variable {past : List AuthLabel} {sid token : String} {claims : RefreshClaims} {row : AuthSessionRow}

/-- The session that a token of it finds. -/
theorem SessionHistory.findSession (h : SessionHistory crypto settings past s)
    (hmem : token ∈ tokensOf crypto sid past)
    (hverify : verifyRefreshToken crypto settings token now = some claims) : ∃ row,
      s.sessions sid = some row ∧ findSession s claims = some row ∧ now < row.expiresAt := by
  obtain ⟨row, hrow⟩ := h.exists_row hmem
  obtain ⟨label, -, -, hopen⟩ := (h.row sid row hrow).open_of_mem hmem
  obtain ⟨hopen', hexp, -⟩ := verifyRefreshToken_eq_some.1 hverify
  rw [hopen] at hopen'
  cases hopen'
  have hexp : now / 1000 < row.expiresAt / 1000 := hexp
  exact ⟨row, hrow, findSession_eq_some.2 ⟨hrow, rfl⟩, by omega⟩

theorem revoked_update (s : Identity) (row : AuthSessionRow) (hid : row.id.val = sid)
    (hrow : row.revokedAt ≠ none) :
    Revoked sid { s with sessions := Function.update s.sessions row.id (some row) } :=
  ⟨row, by rw [← hid]; exact Function.update_self .., hrow⟩

/-- A token of a revoked session is good for nothing. -/
theorem refresh_of_revoked (drawn : Drawn) (h : SessionHistory crypto settings past s)
    (hmem : token ∈ tokensOf crypto sid past)
    (hverify : verifyRefreshToken crypto settings token now = some claims)
    (hrevoked : Revoked sid s) :
    refresh crypto settings token drawn now s = (.error sessionInvalid, s) := by
  obtain ⟨row, hrow, hfind, -⟩ := h.findSession hmem hverify
  obtain ⟨revoked, hat, hended⟩ := hrevoked
  cases hrow.symm.trans hat
  have hwork : rotateSession crypto settings token claims drawn now s = .ok (none, s) := by
    simp only [rotateSession, read_bind, hfind]
    rw [if_pos (.inl hended)]
    rfl
  simp only [refresh, hverify, withTransaction, hwork]
  rfl

/-- Another token than the last one revokes the session, and is good for nothing. -/
theorem refresh_of_reused (h : SessionHistory crypto settings past s)
    (hmem : token ∈ tokensOf crypto sid past)
    (hverify : verifyRefreshToken crypto settings token now = some claims)
    (hhash : ∀ row, s.sessions sid = some row → row.refreshTokenHash ≠ crypto.tokenHash token) :
    ∃ s', refresh crypto settings token drawn now s = (.error sessionInvalid, s') ∧
      Revoked sid s' := by
  obtain ⟨row, hrow, hfind, hexpires⟩ := h.findSession hmem hverify
  have hhistory := h.row sid row hrow
  simp only [refresh, hverify]
  by_cases hlive : row.revokedAt = none
  · refine ⟨_, ?_, revoked_update s (row.revoke now) hhistory.keyed (Option.some_ne_none _)⟩
    have hwork : rotateSession crypto settings token claims drawn now s = .ok (none, { s with
        sessions := Function.update s.sessions row.id (some (row.revoke now)) }) := by
      simp only [rotateSession, read_bind, hfind]
      rw [if_neg (by rw [not_or, not_not, not_le]; exact ⟨hlive, hexpires⟩),
        if_pos (hhash row hrow), bind_of_ok (updateSession_revoke hlive hhistory.ordered)]
      rfl
    simp only [withTransaction, hwork]
    rfl
  · have hrefused := refresh_of_revoked drawn h hmem hverify ⟨row, hrow, hlive⟩
    simp only [refresh, hverify] at hrefused
    exact ⟨s, hrefused, row, hrow, hlive⟩

/-- The last token of a live session gets the next one. -/
theorem refresh_of_last (drawn : Drawn) {user : UserRow}
    (hverify : verifyRefreshToken crypto settings token now = some claims)
    (hfind : findSession s claims = some row) (hlive : row.revokedAt = none)
    (hexpires : now < row.expiresAt) (hhash : row.refreshTokenHash = crypto.tokenHash token)
    (huser : s.users.find? (fun user => user.id = row.userId) = some user)
    (hordered : row.TimestampsOrdered) : ∃ touched s',
      touched.id = user.id ∧ touched.email = user.email ∧
      refresh crypto settings token drawn now s =
        (.ok (issueTokens crypto settings touched row.id drawn now (some row.expiresAt)), s') := by
  have hclock : row.createdAt ≤ max row.updatedAt now := hordered.1.trans (le_max_left _ _)
  obtain ⟨touched, m, htouch, hid, hemail⟩ : ∃ touched m,
      findAndTouchPrincipal row.userId now s = .ok (touched, m) ∧ touched.id = user.id ∧
        touched.email = user.email := by
    simp only [findAndTouchPrincipal, read_bind, huser]
    exact ⟨_, _, rfl, rfl, rfl⟩
  obtain ⟨s', hwork⟩ : ∃ s', rotateSession crypto settings token claims drawn now s =
      .ok (some (issueTokens crypto settings touched row.id drawn now (some row.expiresAt)),
        s') := by
    simp only [rotateSession, read_bind, hfind]
    rw [if_neg (by rw [not_or, not_not, not_le]; exact ⟨hlive, hexpires⟩),
      if_neg (not_not.2 hhash), bind_of_ok htouch]
    exact ⟨_, bind_of_ok ((updateSession_eq_ok (u := ())).2
      ⟨⟨⟨rfl, rfl, rfl, rfl⟩, hlive, le_max_left _ _⟩, ⟨hclock, hordered.2⟩, rfl⟩)⟩
  refine ⟨touched, s', hid, hemail, ?_⟩
  simp only [refresh, hverify, withTransaction, hwork]
  rfl

theorem logout_of_verified (h : SessionHistory crypto settings past s)
    (hmem : token ∈ tokensOf crypto sid past)
    (hverify : verifyRefreshToken crypto settings token now = some claims) :
    ∃ s', logout crypto settings (some token) now s = (.ok (), s') ∧ Revoked sid s' := by
  obtain ⟨row, hrow, hfind, -⟩ := h.findSession hmem hverify
  have hhistory := h.row sid row hrow
  simp only [logout, Option.bind_some, hverify]
  by_cases hlive : row.revokedAt = none
  · refine ⟨_, ?_, revoked_update s (row.revoke now) hhistory.keyed (Option.some_ne_none _)⟩
    have hwork : revokeSession claims now s = .ok ((), { s with
        sessions := Function.update s.sessions row.id (some (row.revoke now)) }) := by
      simp only [revokeSession, read_bind, hfind, Option.filter_some, hlive, decide_true, if_true]
      exact updateSession_revoke hlive hhistory.ordered
    simp only [withTransaction, hwork]
    rfl
  · refine ⟨s, ?_, row, hrow, hlive⟩
    have hwork : revokeSession claims now s = .ok ((), s) := by
      simp only [revokeSession, read_bind, hfind, Option.filter_some, hlive, decide_false,
        Bool.false_eq_true, if_false]
      rfl
    simp only [withTransaction, hwork]

/-- A revoked session stays revoked, and gets no more tokens. -/
theorem Revoked.step {label : AuthLabel} (h : SessionHistory crypto settings past s)
    (hrevoked : Revoked sid s) (hstep : AuthStep crypto settings s label s') :
    Revoked sid s' ∧ label.issuedTo crypto sid = none := by
  obtain ⟨revoked, hat, hended⟩ := hrevoked
  have hother : ∀ {k : String} {row : AuthSessionRow}, k ≠ sid →
      s'.sessions = Function.update s.sessions k (some row) → Revoked sid s' := by
    intro k row hk hsessions
    exact ⟨revoked, by rw [hsessions, Function.update_of_ne hk.symm, hat], hended⟩
  have hquiet : ∀ {k : String} {issued : IssuedSession}, k ≠ sid → label.issued = some issued →
      tokenSession crypto issued.refreshToken = some k → label.issuedTo crypto sid = none := by
    intro k issued hk hissued hsid
    rw [AuthLabel.issuedTo_of_some hissued hsid, if_neg hk]
  cases hstep.effect with
  | quiet hissued hsessions =>
    exact ⟨⟨revoked, by rw [hsessions, hat], hended⟩, AuthLabel.issuedTo_of_none hissued sid⟩
  | created user issued row hgiven hrow hissued hordered hnew hsessions =>
    have hk : row.id.val ≠ sid := fun heq => by rw [heq, hat] at hnew; cases hnew
    have hid : label.drawn.sessionId = row.id := by rw [hrow]
    exact ⟨hother hk hsessions, hquiet hk hissued (by rw [hgiven, tokenSession_issueTokens, hid])⟩
  | revoked row key hissued hrow hlive hordered hsessions =>
    have hkeyed := (h.row key row hrow).keyed
    have hk : row.id.val ≠ sid := by
      rintro rfl
      rw [← hkeyed, hat] at hrow
      cases hrow
      exact hended hlive
    exact ⟨hother hk hsessions, AuthLabel.issuedTo_of_none hissued sid⟩
  | rotated token key user issued row hcall hrow hlive hexpires hhash huser hgiven hissued hordered
      hsessions =>
    have hkeyed := (h.row key row hrow).keyed
    have hk : row.id.val ≠ sid := by
      rintro rfl
      rw [← hkeyed, hat] at hrow
      cases hrow
      exact hended hlive
    exact ⟨hother hk hsessions, hquiet hk hissued (by rw [hgiven, tokenSession_issueTokens])⟩

theorem tokensOf_append (labels labels' : List AuthLabel) :
    tokensOf crypto sid (labels ++ labels') =
      tokensOf crypto sid labels ++ tokensOf crypto sid labels' :=
  List.filterMap_append

theorem Revoked.run {labels : List AuthLabel} (h : SessionHistory crypto settings past s)
    (hrevoked : Revoked sid s) (hrun : Run (AuthStep crypto settings) s labels s') :
    tokensOf crypto sid labels = [] := by
  have hstep : ∀ earlier s label s', SessionHistory crypto settings earlier s ∧ Revoked sid s ∧
      tokensOf crypto sid earlier = tokensOf crypto sid past → AuthStep crypto settings s label s' →
      SessionHistory crypto settings (earlier ++ [label]) s' ∧ Revoked sid s' ∧
        tokensOf crypto sid (earlier ++ [label]) = tokensOf crypto sid past := by
    rintro earlier s label s' ⟨hhistory, hrevoked, hsame⟩ hstep
    obtain ⟨hstays, hquiet⟩ := hrevoked.step hhistory hstep
    refine ⟨hhistory.step hstep, hstays, ?_⟩
    rw [tokensOf_snoc, hquiet, hsame]
    exact List.append_nil _
  obtain ⟨-, -, htokens⟩ := hrun.history hstep ⟨h, hrevoked, rfl⟩
  rwa [tokensOf_append, List.append_right_eq_self] at htokens

end Reuse

/-! ### Single use -/

theorem AuthStep.refresh_eq {label : AuthLabel} {token : String}
    (h : AuthStep crypto settings s label s') (hcall : label.call = .refresh token) :
    (refresh crypto settings token label.drawn label.now s).2 = s' := by
  rw [AuthStep, hcall] at h
  exact congrArg Prod.snd h

theorem AuthStep.logout_eq {label : AuthLabel} {token : String}
    (h : AuthStep crypto settings s label s') (hcall : label.call = .logout (some token)) :
    (logout crypto settings (some token) label.now s).2 = s' := by
  rw [AuthStep, hcall] at h
  exact congrArg Prod.snd h

/-- No two tokens were handed out with the same `jti`. -/
abbrev FreshTokens (labels : List AuthLabel) : Prop :=
  ((labels.filter fun label => label.issued.isSome).map fun label => label.drawn.jti).Nodup

/-- The tokens handed out so far. -/
def issuedTokens (labels : List AuthLabel) : Set String :=
  { token | ∃ label ∈ labels, ∃ issued ∈ label.issued, issued.refreshToken = token }

section SingleUse

variable {labels : List AuthLabel} {sid token : String}

theorem mem_issuedTokens (h : token ∈ tokensOf crypto sid labels) : token ∈ issuedTokens labels := by
  obtain ⟨label, hmem, htoken⟩ := List.mem_filterMap.1 h
  obtain ⟨issued, hissued, rfl⟩ := Option.map_eq_some_iff.1 htoken
  exact ⟨label, hmem, issued, (Option.filter_eq_some_iff.1 hissued).1, rfl⟩

theorem nodup_tokensOf (hopen : ∀ label ∈ labels, ∀ issued ∈ label.issuedTo crypto sid, ∃ claims,
      crypto.openRefresh issued.refreshToken = some claims ∧ claims.jti = label.drawn.jti)
    (hfresh : FreshTokens labels) : (tokensOf crypto sid labels).Nodup := by
  induction labels with
  | nil => exact List.nodup_nil
  | cons label rest ih =>
    have hrest : FreshTokens rest :=
      hfresh.sublist (((List.sublist_cons_self label rest).filter _).map _)
    have ih := ih (fun other hmem => hopen other (List.mem_cons_of_mem _ hmem)) hrest
    rw [tokensOf, List.filterMap_cons]
    cases hto : label.issuedTo crypto sid with
    | none => exact ih
    | some issued =>
      refine List.nodup_cons.2 ⟨fun hmem => ?_, ih⟩
      obtain ⟨other, hother, htoken⟩ := List.mem_filterMap.1 hmem
      obtain ⟨issued', hto', hsame⟩ := Option.map_eq_some_iff.1 htoken
      obtain ⟨claims, hclaims, hjti⟩ := hopen label (List.mem_cons_self ..) issued hto
      obtain ⟨claims', hclaims', hjti'⟩ :=
        hopen other (List.mem_cons_of_mem _ hother) issued' hto'
      rw [hsame, hclaims] at hclaims'
      cases hclaims'
      have hgiven := (Option.filter_eq_some_iff.1 hto).1
      have hgiven' := (Option.filter_eq_some_iff.1 hto').1
      rw [FreshTokens, List.filter_cons_of_pos (by rw [hgiven]; rfl), List.map_cons,
        List.nodup_cons] at hfresh
      refine hfresh.1 (List.mem_map.2 ⟨other, List.mem_filter.2 ⟨hother, ?_⟩, ?_⟩)
      · rw [hgiven']
        rfl
      · exact Subtype.ext (hjti'.symm.trans hjti)

/-- The digest of a session's row is that of its last token only. -/
theorem SessionHistory.hash_ne (h : SessionHistory crypto settings labels s)
    (hfresh : FreshTokens labels) (hinj : Set.InjOn crypto.tokenHash (issuedTokens labels))
    {older : List String} {last : String} (htokens : tokensOf crypto sid labels = older ++ [last])
    (hmem : token ∈ older) (row : AuthSessionRow) (hrow : s.sessions sid = some row) :
    row.refreshTokenHash ≠ crypto.tokenHash token := by
  have hhistory := h.row sid row hrow
  have hnodup := nodup_tokensOf (fun label hlabel issued hissued =>
    ⟨_, (hhistory.issued label hlabel issued hissued).2.2, rfl⟩) hfresh
  obtain ⟨older', last', htokens', hhash⟩ := hhistory.last
  obtain ⟨rfl, hlast⟩ := List.append_inj' (htokens.symm.trans htokens') rfl
  cases hlast
  rw [hhash]
  intro heq
  have hlast : last ∈ tokensOf crypto sid labels := by
    rw [htokens]
    exact List.mem_append_right _ (List.mem_singleton_self _)
  have holder : token ∈ tokensOf crypto sid labels := by
    rw [htokens]
    exact List.mem_append_left _ hmem
  have hsame := hinj (mem_issuedTokens hlast) (mem_issuedTokens holder) heq
  rw [htokens, List.nodup_append] at hnodup
  exact hnodup.2.2 token hmem last (List.mem_singleton_self _) hsame.symm

/-- The call ends a session: by a logout, or by another token than the last one. -/
def AuthLabel.Ends (crypto : Crypto) (settings : AuthSettings) (before : List AuthLabel)
    (sid : String) (label : AuthLabel) : Prop :=
  ∃ token ∈ tokensOf crypto sid before,
    verifyRefreshToken crypto settings token label.now ≠ none ∧
    (label.call = .logout (some token) ∨ label.call = .refresh token ∧
      ∃ older last, tokensOf crypto sid before = older ++ [last] ∧ token ∈ older)

theorem FreshTokens.of_append {after : List AuthLabel} (h : FreshTokens (labels ++ after)) :
    FreshTokens labels :=
  h.sublist (((List.sublist_append_left labels after).filter _).map _)

theorem issuedTokens_append (after : List AuthLabel) :
    issuedTokens labels ⊆ issuedTokens (labels ++ after) := by
  rintro token ⟨label, hmem, hissued⟩
  exact ⟨label, List.mem_append_left _ hmem, hissued⟩

/-- After a logout or a reuse no token is handed out for the session. -/
theorem tokensOf_after_ends {before after : List AuthLabel} {label : AuthLabel}
    (hrun : Run (AuthStep crypto settings) .empty (before ++ label :: after) s)
    (hfresh : FreshTokens (before ++ label :: after))
    (hinj : Set.InjOn crypto.tokenHash (issuedTokens (before ++ label :: after)))
    (hends : label.Ends crypto settings before sid) : tokensOf crypto sid after = [] := by
  obtain ⟨m, hbefore, hrest⟩ := hrun.of_append
  cases hrest with
  | @cons _ m' _ _ _ hstep hafter =>
    have hhistory := sessionHistory_of_run hbefore
    obtain ⟨token, hmem, hverify, hcall⟩ := hends
    obtain ⟨claims, hverify⟩ := Option.ne_none_iff_exists'.1 hverify
    have hrevoked : Revoked sid m' := by
      obtain hcall | ⟨hcall, older, last, htokens, holder⟩ := hcall
      · obtain ⟨after, hlogout, hrevoked⟩ := logout_of_verified hhistory hmem hverify
        rwa [← hstep.logout_eq hcall, hlogout]
      · obtain ⟨after, hrefresh, hrevoked⟩ := refresh_of_reused hhistory hmem hverify
          (hhistory.hash_ne hfresh.of_append (hinj.mono (issuedTokens_append _)) htokens holder)
        rwa [← hstep.refresh_eq hcall, hrefresh]
    exact hrevoked.run (hhistory.step hstep) hafter

/-- Where the clocks agree, a token of a session that is not accepted has expired. -/
theorem SessionHistory.verify_of_clocks (h : SessionHistory crypto settings labels s)
    {row : AuthSessionRow} (hrow : s.sessions sid = some row)
    (hmem : token ∈ tokensOf crypto sid labels) (hclocks : ClocksForward labels) {now : ℤ}
    (hnow : ∀ label ∈ labels, label.now ≤ now) (hlive : now < row.expiresAt) :
    verifyRefreshToken crypto settings token now ≠ none := by
  have hhistory := h.row sid row hrow
  obtain ⟨label, hlabel, hissued, hopen⟩ := hhistory.open_of_mem hmem
  have hsub := row.userId.property
  have hsid : utf16Length sid = 36 := by
    rw [← hhistory.keyed]
    exact row.id.property
  have hexpiry := hhistory.expiry
  have hcreated := hhistory.forward hclocks label hlabel hissued
  have hissuedAt := hnow label hlabel
  refine Option.ne_none_iff_exists'.2 ⟨_, verifyRefreshToken_eq_some.2 ⟨hopen, ?_⟩⟩
  refine ⟨?_, ?_, ?_, ?_, ?_, ?_, ?_⟩
  · show now / 1000 < row.expiresAt / 1000
    omega
  · show 0 < utf16Length row.userId.val
    omega
  · show utf16Length row.userId.val ≤ 128
    omega
  · show 0 < utf16Length sid
    omega
  · show utf16Length sid ≤ 128
    omega
  · show label.now / 1000 ≤ now / 1000 + 5
    omega
  · show row.expiresAt / 1000 - label.now / 1000 ≤ settings.refreshTtlSeconds
    omega

/-- Where the clocks agree, no token outlives a logout with any token of the session. -/
theorem tokensOf_after_logout {before after : List AuthLabel} {label : AuthLabel}
    (hrun : Run (AuthStep crypto settings) .empty (before ++ label :: after) s)
    (hfresh : FreshTokens (before ++ label :: after))
    (hinj : Set.InjOn crypto.tokenHash (issuedTokens (before ++ label :: after)))
    (hclocks : ClocksForward (before ++ label :: after)) (hmem : token ∈ tokensOf crypto sid before)
    (hcall : label.call = .logout (some token)) : tokensOf crypto sid after = [] := by
  by_cases hverify : verifyRefreshToken crypto settings token label.now = none
  · obtain ⟨m, hbefore, -⟩ := hrun.of_append
    have hhistory := sessionHistory_of_run hbefore
    have hend := sessionHistory_of_run hrun
    obtain ⟨row, hrow⟩ := hhistory.exists_row hmem
    rw [ClocksForward, List.map_append, List.map_cons, List.pairwise_append,
      List.pairwise_cons] at hclocks
    obtain ⟨hpast, ⟨hlater, -⟩, hearlier⟩ := hclocks
    have hexpired : row.expiresAt ≤ label.now := by
      by_contra hlive
      exact hhistory.verify_of_clocks hrow hmem hpast (fun other hother =>
        hearlier _ (List.mem_map_of_mem hother) _ (List.mem_cons_self ..)) (not_le.1 hlive) hverify
    -- The row keeps the expiry that its first token had.
    obtain ⟨first, hfirst, hgiven⟩ := List.mem_filterMap.1 hmem
    obtain ⟨issued, hissued, -⟩ := Option.map_eq_some_iff.1 hgiven
    have hexpiry := (hhistory.row sid row hrow).issued first hfirst issued hissued
    have hfirst : first ∈ before ++ label :: after := List.mem_append_left _ hfirst
    have hmem' : token ∈ tokensOf crypto sid (before ++ label :: after) := by
      rw [tokensOf_append]
      exact List.mem_append_left _ hmem
    obtain ⟨last, hlast⟩ := hend.exists_row hmem'
    have hlastExpiry := (hend.row sid last hlast).issued first hfirst issued hissued
    refine List.filterMap_eq_nil_iff.2 fun other hother => Option.map_eq_none_iff.2 ?_
    by_contra hto
    obtain ⟨issued', hto⟩ := Option.ne_none_iff_exists'.1 hto
    have hlive := (hend.row sid last hlast).issued other
      (List.mem_append_right _ (List.mem_cons_of_mem _ hother)) issued' hto
    have hle := hlater _ (List.mem_map_of_mem hother)
    omega
  · exact tokensOf_after_ends hrun hfresh hinj ⟨token, hmem, hverify, .inl hcall⟩

end SingleUse

/-- Of the refresh tokens of a session at most one can be used at any time, and any earlier one that
is still accepted revokes the session. After that, or after a logout, the session gets no more
tokens, and none of its tokens outlives the expiry that the session was opened with. -/
theorem refresh_tokens_single_use (crypto : Crypto) (settings : AuthSettings)
    {labels : List AuthLabel} {s : Identity}
    (hrun : Run (AuthStep crypto settings) .empty labels s) (hfresh : FreshTokens labels)
    (hinj : Set.InjOn crypto.tokenHash (issuedTokens labels)) (sid : String) :
    (∀ token ∈ tokensOf crypto sid labels, ∀ token' ∈ tokensOf crypto sid labels,
      Refreshable crypto settings token s → Refreshable crypto settings token' s → token = token') ∧
    (∀ older last, tokensOf crypto sid labels = older ++ [last] → ∀ token ∈ older, ∀ now,
      verifyRefreshToken crypto settings token now ≠ none → ∀ drawn, ∃ s',
        refresh crypto settings token drawn now s = (.error sessionInvalid, s') ∧ Revoked sid s') ∧
    (∀ before label after, labels = before ++ label :: after →
      label.Ends crypto settings before sid → tokensOf crypto sid after = []) ∧
    (ClocksForward labels → ∀ before label after, labels = before ++ label :: after →
      ∀ token ∈ tokensOf crypto sid before, label.call = .logout (some token) →
        tokensOf crypto sid after = []) ∧
    ∃ expiry, ∀ label ∈ labels, ∀ issued ∈ label.issuedTo crypto sid, label.now < expiry ∧
      issued.refreshExpiresAt = expiry ∧ ∃ claims,
        crypto.openRefresh issued.refreshToken = some claims ∧ claims.exp = expiry / 1000 := by
  have hhistory := sessionHistory_of_run hrun
  refine ⟨fun token hmem token' hmem' hlive hlive' => ?_, fun older last htokens token hmem now
    hverify drawn => ?_, ?_, ?_, ?_⟩
  · obtain ⟨row, hrow⟩ := hhistory.exists_row hmem
    have hhash : ∀ token ∈ tokensOf crypto sid labels, Refreshable crypto settings token s →
        row.refreshTokenHash = crypto.tokenHash token := by
      intro token hmem hlive
      obtain ⟨claims, row', hopen, hrow', -, hhash⟩ := hlive.live
      obtain ⟨_, -, -, hopen'⟩ := (hhistory.row sid row hrow).open_of_mem hmem
      rw [hopen'] at hopen
      cases hopen
      cases hrow.symm.trans hrow'
      exact hhash
    exact hinj (mem_issuedTokens hmem) (mem_issuedTokens hmem')
      ((hhash token hmem hlive).symm.trans (hhash token' hmem' hlive'))
  · obtain ⟨claims, hverify⟩ := Option.ne_none_iff_exists'.1 hverify
    have hissued : token ∈ tokensOf crypto sid labels := by
      rw [htokens]
      exact List.mem_append_left _ hmem
    exact refresh_of_reused hhistory hissued hverify (hhistory.hash_ne hfresh hinj htokens hmem)
  · rintro before label after rfl hends
    exact tokensOf_after_ends hrun hfresh hinj hends
  · rintro hclocks before label after rfl token hmem hcall
    exact tokensOf_after_logout hrun hfresh hinj hclocks hmem hcall
  · cases hrow : s.sessions sid with
    | none =>
      refine ⟨0, fun label hmem issued hissued => ?_⟩
      have hnone := List.filterMap_eq_nil_iff.1 (hhistory.unissued sid hrow) label hmem
      rw [Option.mem_def.1 hissued] at hnone
      cases hnone
    | some row =>
      refine ⟨row.expiresAt, fun label hmem issued hissued => ?_⟩
      obtain ⟨hexpiry, hlive, hopen⟩ := (hhistory.row sid row hrow).issued label hmem issued hissued
      exact ⟨hlive, hexpiry, _, hopen, rfl⟩

/-! ### A session -/

/-- The payload of a refresh token. -/
def claimsText (claims : RefreshClaims) : String :=
  String.ofList (CanonicalJson.render (.obj [("iat", .num claims.iat), ("exp", .num claims.exp),
    ("sid", .str claims.sid), ("sub", .str claims.sub), ("jti", .str claims.jti)]))

theorem claimsText_injective : Function.Injective claimsText := by
  intro claims claims' h
  have h := CanonicalJson.render_injective (String.ofList_injective h)
  obtain ⟨sub, sid, jti, iat, exp⟩ := claims
  obtain ⟨sub', sid', jti', iat', exp'⟩ := claims'
  simp only [CanonicalJson.Json.obj.injEq, List.cons.injEq, Prod.mk.injEq,
    CanonicalJson.Json.str.injEq, CanonicalJson.Json.num.injEq, true_and, and_true] at h
  obtain ⟨rfl, rfl, rfl, rfl, rfl⟩ := h
  rfl

/-- A digest that tells texts apart by how they begin. -/
def sampleDigest (text : String) : Digest :=
  .replicate 32 ((text.toList.take 8).map Char.toNat).sum.toUInt8

open Classical in
/-- Tokens that show their claims. -/
noncomputable def plainCrypto : Crypto where
  signAccess claims := claims.sid
  signRefresh := claimsText
  openRefresh token := if h : ∃ claims, claimsText claims = token then some h.choose else none
  open_signRefresh claims := by
    have h : ∃ other, claimsText other = claimsText claims := ⟨claims, rfl⟩
    rw [dif_pos h, claimsText_injective h.choose_spec]
  tokenHash := sampleDigest
  compare password hash := password == hash

def shortSettings : AuthSettings := ⟨60, 3600, by decide, by decide⟩

/-- An identifier for each digit. -/
def uuid (digit : Fin 6) : Uuid :=
  ⟨String.ofList (List.replicate 35 '0' ++ [Nat.digitChar digit]), by revert digit; decide⟩

def drawnWith (jti : Uuid) : Drawn :=
  ⟨uuid 1, uuid 2, jti, "digest of the password"⟩

section Alice

variable (now : ℤ)

def alice : UserRow :=
  ⟨uuid 1, "alice@example.com", "digest of the password", now, now, now⟩

/-- What alice gets when she registers. -/
noncomputable def firstIssued : IssuedSession :=
  issueTokens plainCrypto shortSettings (alice now) (uuid 2) (drawnWith (uuid 3)) now none

noncomputable def registering : AuthLabel where
  call := .register "alice@example.com" true
  drawn := drawnWith (uuid 3)
  now := now
  answer := .ok (some (firstIssued now))

noncomputable def openedSession : AuthSessionRow :=
  ⟨uuid 2, uuid 1, sampleDigest (firstIssued now).refreshToken, (now / 1000 + 3600) * 1000, now, now,
    none⟩

noncomputable def registered : Identity :=
  ⟨[alice now], Function.update (fun _ => none) (uuid 2) (some (openedSession now))⟩

/-- A call of alice's with the token that she has. -/
noncomputable def refreshing (token : String) (answer : Except AuthFailure IssuedSession) :
    AuthLabel where
  call := .refresh token
  drawn := drawnWith (uuid 4)
  now := now
  answer := answer.map some

def loggingOut (token : String) : AuthLabel where
  call := .logout (some token)
  drawn := drawnWith (uuid 5)
  now := now
  answer := .ok none

variable {now}

theorem refreshing_step {token : String} {answer : Except AuthFailure IssuedSession}
    (h : refresh plainCrypto shortSettings token (drawnWith (uuid 4)) now s = (answer, s')) :
    AuthStep plainCrypto shortSettings s (refreshing now token answer) s' :=
  congrArg (Prod.map (Except.map some) id) h

theorem loggingOut_step {token : String}
    (h : logout plainCrypto shortSettings (some token) now s = (.ok (), s')) :
    AuthStep plainCrypto shortSettings s (loggingOut now token) s' :=
  congrArg (Prod.map (Except.map fun _ => none) id) h

theorem verify_firstIssued {later : ℤ} (hlive : later / 1000 < now / 1000 + 3600)
    (hclocks : now / 1000 ≤ later / 1000 + 5) :
    verifyRefreshToken plainCrypto shortSettings (firstIssued now).refreshToken later =
      some ⟨uuid 1, uuid 2, uuid 3, now / 1000, now / 1000 + 3600⟩ := by
  have hopen : plainCrypto.openRefresh (firstIssued now).refreshToken =
      some ⟨uuid 1, uuid 2, uuid 3, now / 1000, now / 1000 + 3600⟩ := by
    refine (plainCrypto.open_signRefresh _).trans (congrArg some ?_)
    show RefreshClaims.mk _ _ _ _ ((now / 1000 + 3600) * 1000 / 1000) = _
    rw [Int.mul_ediv_cancel _ (by decide)]
    rfl
  have hid : ∀ id : Uuid, 0 < utf16Length id ∧ utf16Length id ≤ 128 := by
    intro id
    have hlength : utf16Length id = 36 := id.property
    omega
  refine verifyRefreshToken_eq_some.2 ⟨hopen, hlive, (hid _).1, (hid _).2, (hid _).1,
    (hid _).2, hclocks, ?_⟩
  show now / 1000 + 3600 - now / 1000 ≤ 3600
  omega

theorem tokenSession_firstIssued :
    tokenSession plainCrypto (firstIssued now).refreshToken = some (uuid 2).val :=
  tokenSession_issueTokens _ _ _

theorem issuedTo_registering :
    (registering now).issuedTo plainCrypto (uuid 2) = some (firstIssued now) :=
  (AuthLabel.issuedTo_of_some rfl tokenSession_firstIssued _).trans (if_pos rfl)

theorem issuedTo_refreshing {token : String} {issued : IssuedSession} {iat exp : ℤ}
    (h : issued.refreshToken = claimsText ⟨uuid 1, uuid 2, uuid 4, iat, exp⟩) :
    (refreshing now token (.ok issued)).issuedTo plainCrypto (uuid 2) = some issued := by
  have hissued : tokenSession plainCrypto issued.refreshToken = some (uuid 2).val := by
    rw [tokenSession, h]
    exact congrArg (Option.map RefreshClaims.sid) (plainCrypto.open_signRefresh _)
  exact (AuthLabel.issuedTo_of_some rfl hissued _).trans (if_pos rfl)

/-- The first refresh of the session. -/
theorem refresh_firstIssued (now later : ℤ) (hlive : later / 1000 < now / 1000 + 3600)
    (hclocks : now / 1000 ≤ later / 1000 + 5) : ∃ issued s',
      refresh plainCrypto shortSettings (firstIssued now).refreshToken (drawnWith (uuid 4)) later
        (registered now) = (.ok issued, s') ∧
      issued.refreshToken =
        claimsText ⟨uuid 1, uuid 2, uuid 4, later / 1000, now / 1000 + 3600⟩ := by
  have hrow : (registered now).sessions (uuid 2) = some (openedSession now) := by
    simp only [registered, Function.update_self]
  obtain ⟨touched, s', hid, -, hrefresh⟩ := refresh_of_last (drawnWith (uuid 4))
    (verify_firstIssued hlive hclocks) (findSession_eq_some.2 ⟨hrow, rfl⟩) rfl
    (show later < (now / 1000 + 3600) * 1000 by omega) rfl
    (show (registered now).users.find? _ = some (alice now) from rfl)
    ⟨le_rfl, show now < (now / 1000 + 3600) * 1000 by omega, fun _ h => by cases h⟩
  refine ⟨_, s', hrefresh, congrArg claimsText ?_⟩
  show RefreshClaims.mk touched.id.val _ _ _ ((now / 1000 + 3600) * 1000 / 1000) = _
  rw [hid, Int.mul_ediv_cancel _ (by decide)]
  rfl

theorem injOn_tokenHash {labels : List AuthLabel} {first second : String}
    (hissued : ∀ token ∈ issuedTokens labels, token = first ∨ token = second)
    (hne : sampleDigest first ≠ sampleDigest second) :
    Set.InjOn plainCrypto.tokenHash (issuedTokens labels) := by
  intro token hmem token' hmem' heq
  obtain rfl | rfl := hissued token hmem <;> obtain rfl | rfl := hissued token' hmem'
  · rfl
  · exact absurd heq hne
  · exact absurd heq.symm hne
  · rfl

end Alice

/-- Alice registers, refreshes her session and logs out with her second token. She cannot use both
tokens, and the session gets no further one. -/
theorem refresh_tokens_single_use_alice : ∃ issued s before after,
    before = [registering 1000, refreshing 2000 (firstIssued 1000).refreshToken (.ok issued)] ∧
    after = [refreshing 4000 issued.refreshToken (.error sessionInvalid)] ∧
    Run (AuthStep plainCrypto shortSettings) .empty
      (before ++ loggingOut 3000 issued.refreshToken :: after) s ∧
    tokensOf plainCrypto (uuid 2) before = [(firstIssued 1000).refreshToken, issued.refreshToken] ∧
    (firstIssued 1000).refreshToken ≠ issued.refreshToken ∧
    ¬ (Refreshable plainCrypto shortSettings (firstIssued 1000).refreshToken s ∧
      Refreshable plainCrypto shortSettings issued.refreshToken s) ∧
    (∃ s', refresh plainCrypto shortSettings (firstIssued 1000).refreshToken (drawnWith (uuid 5)) 4000
      s = (.error sessionInvalid, s') ∧ Revoked (uuid 2) s') ∧
    tokensOf plainCrypto (uuid 2) after = [] := by
  obtain ⟨issued, m, hrefresh, htoken⟩ :=
    refresh_firstIssued 1000 2000 (by decide) (by decide)
  set before := [registering 1000, refreshing 2000 (firstIssued 1000).refreshToken (.ok issued)]
    with hbefore
  have hopen : plainCrypto.openRefresh issued.refreshToken =
      some ⟨uuid 1, uuid 2, uuid 4, 2, 3601⟩ := by
    rw [htoken]
    exact plainCrypto.open_signRefresh _
  have hverify : ∀ later ∈ [(3000 : ℤ), 4000],
      verifyRefreshToken plainCrypto shortSettings issued.refreshToken later =
        some ⟨uuid 1, uuid 2, uuid 4, 2, 3601⟩ := by
    intro later hlater
    refine verifyRefreshToken_eq_some.2 ⟨hopen, ?_⟩
    simp only [List.mem_cons, List.not_mem_nil, or_false] at hlater
    obtain rfl | rfl := hlater <;> decide
  have hrun : Run (AuthStep plainCrypto shortSettings) .empty before m :=
    .cons (m := registered 1000) rfl (.cons (refreshing_step hrefresh) (.nil m))
  have htokens : tokensOf plainCrypto (uuid 2) before =
      [(firstIssued 1000).refreshToken, issued.refreshToken] := by
    simp only [hbefore, tokensOf, List.filterMap_cons, List.filterMap_nil, issuedTo_registering,
      issuedTo_refreshing htoken, Option.map_some]
  have hmem : issued.refreshToken ∈ tokensOf plainCrypto (uuid 2) before := by
    rw [htokens]
    exact List.mem_cons_of_mem _ (List.mem_singleton_self _)
  -- The logout revokes the session, and the refresh after it finds it so.
  have hhistory := sessionHistory_of_run hrun
  obtain ⟨s, hlogout, hrevoked⟩ := logout_of_verified hhistory hmem (hverify 3000 (by decide))
  have hleaves := loggingOut_step hlogout
  have hrefused : refresh plainCrypto shortSettings issued.refreshToken (drawnWith (uuid 4)) 4000 s =
      (.error sessionInvalid, s) := by
    refine refresh_of_revoked _ (hhistory.step hleaves) ?_ (hverify 4000 (by decide)) hrevoked
    rw [tokensOf_append]
    exact List.mem_append_left _ hmem
  have hwhole : Run (AuthStep plainCrypto shortSettings) .empty (before ++
      loggingOut 3000 issued.refreshToken ::
        [refreshing 4000 issued.refreshToken (.error sessionInvalid)]) s :=
    hrun.append (.cons hleaves (.cons (refreshing_step hrefused) (.nil s)))
  have hne : sampleDigest (firstIssued 1000).refreshToken ≠ sampleDigest issued.refreshToken := by
    rw [htoken, firstIssued]
    show sampleDigest (claimsText _) ≠ _
    rw [sampleDigest, sampleDigest, claimsText, claimsText, String.toList_ofList,
      String.toList_ofList]
    decide +kernel
  have hgiven : ∀ token ∈ issuedTokens (before ++ loggingOut 3000 issued.refreshToken ::
      [refreshing 4000 issued.refreshToken (.error sessionInvalid)]),
      token = (firstIssued 1000).refreshToken ∨ token = issued.refreshToken := by
    rintro _ ⟨label, hlabel, given, hgiven, rfl⟩
    simp only [hbefore, List.cons_append, List.nil_append, List.mem_cons, List.not_mem_nil,
      or_false] at hlabel
    obtain rfl | rfl | rfl | rfl := hlabel <;> cases hgiven
    · exact .inl rfl
    · exact .inr rfl
  obtain ⟨hone, hreuse, hended, -⟩ := refresh_tokens_single_use plainCrypto shortSettings hwhole
    (show List.Nodup [uuid 3, uuid 4] by decide) (injOn_tokenHash hgiven hne) (uuid 2)
  have hdistinct : (firstIssued 1000).refreshToken ≠ issued.refreshToken :=
    fun heq => hne (congrArg sampleDigest heq)
  have hafter := hended before _ _ rfl ⟨_, hmem,
    ne_of_eq_of_ne (hverify 3000 (by decide)) (Option.some_ne_none _), .inl rfl⟩
  have hall : tokensOf plainCrypto (uuid 2) (before ++ loggingOut 3000 issued.refreshToken ::
      [refreshing 4000 issued.refreshToken (.error sessionInvalid)]) =
      [(firstIssued 1000).refreshToken, issued.refreshToken] := by
    rw [tokensOf_append, htokens]
    rfl
  rw [hall] at hone
  refine ⟨issued, s, before, _, rfl, rfl, hwhole, htokens, hdistinct, ?_, ?_, hafter⟩
  · rintro ⟨hlive, hlive'⟩
    exact hdistinct (hone _ (List.mem_cons_self ..) _
      (List.mem_cons_of_mem _ (List.mem_singleton_self _)) hlive hlive')
  · exact hreuse [(firstIssued 1000).refreshToken] _ hall _ (List.mem_singleton_self _) 4000
      (ne_of_eq_of_ne (verify_firstIssued (by decide) (by decide)) (Option.some_ne_none _)) _

/-- On a host whose clock is nine seconds behind, a logout revokes nothing. -/
theorem not_refresh_tokens_single_use : ∃ issued s token before after,
    token = (firstIssued 10000).refreshToken ∧ before = [registering 10000] ∧
    after = [refreshing 20000 token (.ok issued)] ∧
    Run (AuthStep plainCrypto shortSettings) .empty (before ++ loggingOut 1000 token :: after) s ∧
    FreshTokens (before ++ loggingOut 1000 token :: after) ∧
    Set.InjOn plainCrypto.tokenHash (issuedTokens (before ++ loggingOut 1000 token :: after)) ∧
    token ∈ tokensOf plainCrypto (uuid 2) before ∧ tokensOf plainCrypto (uuid 2) after ≠ [] := by
  obtain ⟨issued, s, hrefresh, htoken⟩ :=
    refresh_firstIssued 10000 20000 (by decide) (by decide)
  have hverify : verifyRefreshToken plainCrypto shortSettings (firstIssued 10000).refreshToken 1000 =
      none := by
    by_contra hsome
    obtain ⟨claims, hclaims⟩ := Option.ne_none_iff_exists'.1 hsome
    obtain ⟨hopen, -, -, -, -, -, hclocks, -⟩ := verifyRefreshToken_eq_some.1 hclaims
    cases hopen.symm.trans (plainCrypto.open_signRefresh _)
    exact absurd hclocks (by decide)
  have hne : sampleDigest (firstIssued 10000).refreshToken ≠ sampleDigest issued.refreshToken := by
    rw [htoken, firstIssued]
    show sampleDigest (claimsText _) ≠ _
    rw [sampleDigest, sampleDigest, claimsText, claimsText, String.toList_ofList,
      String.toList_ofList]
    decide +kernel
  refine ⟨issued, s, _, _, _, rfl, rfl, rfl, ?_, ?_, injOn_tokenHash ?_ hne, ?_, ?_⟩
  · refine .cons (m := registered 10000) rfl
      (.cons (loggingOut_step ?_) (.cons (refreshing_step hrefresh) (.nil s)))
    simp only [logout, Option.bind_some, hverify]
  · show List.Nodup [uuid 3, uuid 4]
    decide
  · rintro _ ⟨label, hlabel, given, hgiven, rfl⟩
    simp only [List.cons_append, List.nil_append, List.mem_cons, List.not_mem_nil, or_false] at hlabel
    obtain rfl | rfl | rfl := hlabel <;> cases hgiven
    · exact .inl rfl
    · exact .inr rfl
  · simp only [tokensOf, List.filterMap_cons, List.filterMap_nil, issuedTo_registering,
      Option.map_some]
    exact List.mem_singleton_self _
  · simp only [tokensOf, List.filterMap_cons, List.filterMap_nil,
      issuedTo_refreshing htoken, Option.map_some]
    exact List.cons_ne_nil _ _

end Pootown.Auth
