import Mathlib.Tactic
import Pootown.Library.Tables
import Pootown.Server.Fencing

/-!
# Presence

A room keeps its attached clients in memory, and reports to the store that somebody is connected, or
that nobody is attached any more. Its handlers are suspended while the store or the API works.

* `PresenceRoom`: sessions and clients, the reports in flight, and the store;
* `authenticate`, `join`, `attach`, `bootstrapFailed`, `detachClient`, `expire`: the handlers, from
  one suspension to the next;
* `offlineAbortCandidates`: the sessions that the API may abort because everybody is offline;
* `Calm`: the interleavings that the handlers reckon with; `PresenceSound`: what they keep there;
* `attached_online`, `not_attached_online`.
-/

namespace Pootown.Server

open Runs Tables Transactions

/-! ### Sessions and clients -/

/-- How far the handlers of a client have come. -/
inductive ClientStage
  | authenticated
  | connecting
  | bootstrapping (previousAllOfflineAt : Option ℤ)
  | attached
  | gone

structure RoomClient where
  playerId : String
  stage : ClientStage

structure ActiveSession where
  playerId : String
  clientSessionId : String
  joined : Bool

/-- `goingOffline` are the calls of `markAllOffline` in flight, with the time each gives, if any. -/
structure PresenceRoom where
  lease : RoomLease
  activeSessions : List ActiveSession
  clients : Table String RoomClient
  goingOffline : List (Option ℤ)
  store : Realtime

namespace PresenceRoom

def hasAttachedClient (room : PresenceRoom) : Bool :=
  room.activeSessions.any ActiveSession.joined

def session (room : PresenceRoom) (playerId : String) : Option ActiveSession :=
  room.activeSessions.find? fun session => session.playerId = playerId

/-- The session of a player is that of a client. -/
def holdsSession (room : PresenceRoom) (client playerId : String) : Bool :=
  (room.session playerId).any fun session => session.clientSessionId = client

def moveTo (room : PresenceRoom) (client playerId : String) (stage : ClientStage) : PresenceRoom :=
  { room with clients := Function.update room.clients client (some ⟨playerId, stage⟩) }

/-- Report that everybody is offline, unless somebody is attached. -/
def reportOffline (room : PresenceRoom) (now : Option ℤ) : PresenceRoom :=
  if room.hasAttachedClient then room else { room with goingOffline := now :: room.goingOffline }

/-- The end of `onAuth`: the player has no session yet. -/
def authenticate (room : PresenceRoom) (client playerId : String) : PresenceRoom :=
  { room.moveTo client playerId .authenticated with
    activeSessions := room.activeSessions ++ [⟨playerId, client, false⟩] }

/-- The start of `onJoin`, up to its report that somebody is connected. -/
def join (room : PresenceRoom) (client playerId : String) : PresenceRoom :=
  if room.holdsSession client playerId then room.moveTo client playerId .connecting
  else room.moveTo client playerId .gone

/-- The end of `onJoin`, when the API lets the client in. -/
def attach (room : PresenceRoom) (client playerId : String) : PresenceRoom :=
  { room.moveTo client playerId .attached with
    activeSessions := room.activeSessions.map fun session =>
      if session.clientSessionId = client then { session with joined := true } else session }

/-- The end of `onJoin`, when the API does not let the client in. -/
def bootstrapFailed (room : PresenceRoom) (client playerId : String)
    (previousAllOfflineAt : Option ℤ) : PresenceRoom :=
  (room.moveTo client playerId .gone).reportOffline previousAllOfflineAt

/-- `onLeave` and `onDrop`. -/
def detachClient (room : PresenceRoom) (client playerId : String) : PresenceRoom :=
  if room.holdsSession client playerId then
    { room.moveTo client playerId .gone with
      activeSessions := room.activeSessions.filter fun session => session.playerId ≠ playerId
      }.reportOffline none
  else room.moveTo client playerId .gone

/-- The time to take a seat is over. -/
def expire (room : PresenceRoom) (client playerId : String) : PresenceRoom :=
  if (room.session playerId).any fun session =>
      session.clientSessionId = client ∧ session.joined = false then
    { room with
      activeSessions := room.activeSessions.filter fun session => session.playerId ≠ playerId }
  else room

end PresenceRoom

/-! ### Abandoned sessions -/

/-- Every lease is for the room of its session. -/
def LeasesBound (db : Realtime) : Prop :=
  ∀ roomId row, db.leases roomId = some row → db.sessions row.gameSessionId = some roomId

/-- When the session of a lease may be aborted: by the deadline of its presence, if that is stored
under the lease, or else by the end of the lease. -/
def abortDeadline (lease : LeaseRow) (presence : Option PresenceRow) : ℤ :=
  ((presence.filter fun row => row.gameSessionId = lease.gameSessionId ∧
    row.fencingToken = lease.fencingToken).bind PresenceRow.abortDeadlineAt).getD
    (lease.leaseUntil + 120000)

/-- The sessions whose deadline has passed, whatever their lifecycle is. -/
def offlineAbortCandidates (db : Realtime) (now : ℤ) : Set String :=
  { gameId | ∃ roomId lease, db.leases roomId = some lease ∧ lease.gameSessionId = gameId ∧
    abortDeadline lease (db.presence roomId) ≤ now }

/-! ### Steps -/

inductive PresenceLabel
  | authenticated (client : String)
  | joining (client : String)
  | connected (client : String)
  | connectFailed (client : String)
  | attached (client : String)
  | bootstrapFailed (client : String)
  | detached (client : String)
  | expired (client : String)
  | offline
  | offlineFailed
  | others

/-- A handler goes on to its next suspension, a report takes effect or fails, or the rest of the
system leaves the presence of the room alone. Where the answer to `markConnected` is lost, it may
have taken effect. -/
inductive PresenceStep : PresenceRoom → PresenceLabel → PresenceRoom → Prop
  | authenticated (s : PresenceRoom) (client playerId : String) : s.clients client = none →
      s.session playerId = none →
      PresenceStep s (.authenticated client) (s.authenticate client playerId)
  | joining (s : PresenceRoom) (client playerId : String) :
      s.clients client = some ⟨playerId, .authenticated⟩ →
      PresenceStep s (.joining client) (s.join client playerId)
  | connected (s : PresenceRoom) (client playerId : String) (now : ℤ) (previous : Option ℤ)
      (store : Realtime) : s.clients client = some ⟨playerId, .connecting⟩ →
      markConnected s.lease now s.store = .ok (previous, store) →
      PresenceStep s (.connected client)
        { s.moveTo client playerId (.bootstrapping previous) with store := store }
  | connectFailed (s : PresenceRoom) (client playerId : String) (now : ℤ) (store : Realtime) :
      s.clients client = some ⟨playerId, .connecting⟩ →
      store = s.store ∨ (∃ previous, markConnected s.lease now s.store = .ok (previous, store)) →
      PresenceStep s (.connectFailed client) { s.moveTo client playerId .gone with store := store }
  | attached (s : PresenceRoom) (client playerId : String) (previous : Option ℤ) :
      s.clients client = some ⟨playerId, .bootstrapping previous⟩ →
      PresenceStep s (.attached client) (s.attach client playerId)
  | bootstrapFailed (s : PresenceRoom) (client playerId : String) (previous : Option ℤ) :
      s.clients client = some ⟨playerId, .bootstrapping previous⟩ →
      PresenceStep s (.bootstrapFailed client) (s.bootstrapFailed client playerId previous)
  | detached (s : PresenceRoom) (client playerId : String) :
      s.clients client = some ⟨playerId, .attached⟩ →
      PresenceStep s (.detached client) (s.detachClient client playerId)
  | expired (s : PresenceRoom) (client playerId : String) :
      PresenceStep s (.expired client) (s.expire client playerId)
  | offline (s : PresenceRoom) (given : Option ℤ) (now : ℤ) (deadline : Option ℤ)
      (store : Realtime) : given ∈ s.goingOffline →
      markAllOffline s.lease (given.getD now) s.store = .ok (deadline, store) →
      PresenceStep s .offline
        { s with goingOffline := s.goingOffline.erase given, store := store }
  | offlineFailed (s : PresenceRoom) (given : Option ℤ) : given ∈ s.goingOffline →
      PresenceStep s .offlineFailed { s with goingOffline := s.goingOffline.erase given }
  | others (s : PresenceRoom) (store : Realtime) :
      store.presence s.lease.roomId = s.store.presence s.lease.roomId → LeasesBound store →
      PresenceStep s .others { s with store := store }

/-- A room that has just been opened. -/
structure OpenedPresence (s : PresenceRoom) : Prop where
  activeSessions : s.activeSessions = []
  clients : ∀ client, s.clients client = none
  goingOffline : s.goingOffline = []
  leases : LeasesBound s.store

/-- `markConnected` has taken effect for the client, which waits for the API. -/
def PresenceRoom.IsBootstrapping (s : PresenceRoom) (client : String) : Prop :=
  ∃ playerId previous, s.clients client = some ⟨playerId, .bootstrapping previous⟩

def PresenceRoom.IsAttached (s : PresenceRoom) (client : String) : Prop :=
  ∃ playerId, s.clients client = some ⟨playerId, .attached⟩

/-- The interleavings that the handlers reckon with. `markConnected` does not take effect while a
`markAllOffline` is in flight; no client leaves, or fails to join, while another waits for the API
unless a third is attached; and the seat of a client does not expire while its `onJoin` is
suspended. -/
def Calm (s : PresenceRoom) : PresenceLabel → Prop
  | .connected _ => s.goingOffline = []
  | .bootstrapFailed client | .detached client =>
    (∃ other, other ≠ client ∧ s.IsBootstrapping other) →
      ∃ other, other ≠ client ∧ s.IsAttached other
  | .expired client =>
    (∀ playerId, s.clients client ≠ some ⟨playerId, .connecting⟩) ∧ ¬ s.IsBootstrapping client
  | _ => True

/-! ### What the handlers keep -/

/-- Nobody reports the room offline. -/
def PresenceRoom.Online (s : PresenceRoom) : Prop :=
  ∃ row, s.store.presence s.lease.roomId = some row ∧ row.allOfflineAt = none

/-- A player has one session, and only that of an attached client has been joined. -/
structure SessionsRecorded (s : PresenceRoom) : Prop where
  stage : ∀ session ∈ s.activeSessions, ∃ stage,
    s.clients session.clientSessionId = some ⟨session.playerId, stage⟩ ∧
      (session.joined = true → stage = .attached)
  players : (s.activeSessions.map ActiveSession.playerId).Nodup

/-- `markConnected` has taken effect for a client that has not left. -/
def ClientStage.Reported : ClientStage → Prop
  | .bootstrapping _ | .attached => True
  | _ => False

/-- `onJoin` has found the session of a client that has not left. -/
def ClientStage.Seated : ClientStage → Prop
  | .connecting | .bootstrapping _ | .attached => True
  | _ => False

def PresenceRoom.HasReported (s : PresenceRoom) : Prop :=
  ∃ client playerId stage, s.clients client = some ⟨playerId, stage⟩ ∧ stage.Reported

/-- Every client that `onJoin` has let in has its session, and while one is reported the room is
online and nothing in flight says otherwise. -/
structure PresenceSound (s : PresenceRoom) : Prop where
  sessions : SessionsRecorded s
  held : ∀ client playerId stage, s.clients client = some ⟨playerId, stage⟩ → stage.Seated →
    ∃ session ∈ s.activeSessions, session.playerId = playerId ∧ session.clientSessionId = client ∧
      (stage = .attached → session.joined = true)
  online : s.HasReported → s.Online ∧ s.goingOffline = []
  leases : LeasesBound s.store

section Sound

variable {s s' : PresenceRoom} {label : PresenceLabel} {client playerId : String}

theorem SessionsRecorded.moved {stage stage' : ClientStage} (h : SessionsRecorded s)
    (hbefore : s.clients client = some ⟨playerId, stage⟩) (hstage : stage ≠ .attached)
    (hclients : s'.clients = Function.update s.clients client (some ⟨playerId, stage'⟩))
    (hsessions : s'.activeSessions = s.activeSessions) : SessionsRecorded s' where
  stage := by
    intro session hmem
    rw [hsessions] at hmem
    obtain ⟨before, hclient, hjoined⟩ := h.stage session hmem
    rw [hclients]
    by_cases heq : session.clientSessionId = client
    · rw [heq, hbefore, Option.some.injEq, RoomClient.mk.injEq] at hclient
      obtain ⟨hplayer, rfl⟩ := hclient
      refine ⟨stage', by rw [heq, Function.update_self, hplayer], fun hjoin => ?_⟩
      exact absurd (hjoined hjoin) hstage
    · exact ⟨before, by rw [Function.update_of_ne heq, hclient], hjoined⟩
  players := hsessions ▸ h.players

theorem SessionsRecorded.stayed (h : SessionsRecorded s) (hclients : s'.clients = s.clients)
    (hsessions : s'.activeSessions.Sublist s.activeSessions) : SessionsRecorded s' where
  stage session hmem := hclients ▸ h.stage session (hsessions.subset hmem)
  players := h.players.sublist (hsessions.map _)

/-- A client whose session is not the player's has none. -/
theorem SessionsRecorded.clientSessionId_ne {stage : ClientStage} (h : SessionsRecorded s)
    (hclient : s.clients client = some ⟨playerId, stage⟩)
    (hother : ¬ s.holdsSession client playerId = true) :
    ∀ session ∈ s.activeSessions, session.clientSessionId ≠ client := by
  rintro session hmem rfl
  obtain ⟨before, hbefore, -⟩ := h.stage session hmem
  rw [hclient, Option.some.injEq, RoomClient.mk.injEq] at hbefore
  have hfind : s.session playerId = some session := hbefore.1 ▸ find?_of_nodup h.players hmem
  rw [PresenceRoom.holdsSession, hfind] at hother
  simp at hother

theorem SessionsRecorded.authenticated (h : SessionsRecorded s) (hnew : s.clients client = none)
    (hnone : s.session playerId = none) : SessionsRecorded (s.authenticate client playerId) where
  stage := by
    intro session hmem
    rcases List.mem_append.1 hmem with hold | hlast
    · obtain ⟨stage, hclient, hjoined⟩ := h.stage session hold
      have hne : session.clientSessionId ≠ client := by
        rintro heq
        rw [heq, hnew] at hclient
        cases hclient
      exact ⟨stage, (Function.update_of_ne hne _ _).trans hclient, hjoined⟩
    · obtain rfl := List.mem_singleton.1 hlast
      exact ⟨.authenticated, Function.update_self .., fun hjoin => by cases hjoin⟩
  players := by
    have hfresh : ∀ session ∈ s.activeSessions, session.playerId ≠ playerId := by
      simpa [PresenceRoom.session] using hnone
    simp only [PresenceRoom.authenticate, List.map_append, List.map_cons, List.map_nil]
    refine List.nodup_append.2 ⟨h.players, List.nodup_singleton _, ?_⟩
    intro player hplayer other hother
    obtain ⟨session, hmem, rfl⟩ := List.mem_map.1 hplayer
    obtain rfl := List.mem_singleton.1 hother
    exact hfresh session hmem

theorem SessionsRecorded.attached {stage : ClientStage} (h : SessionsRecorded s)
    (hclient : s.clients client = some ⟨playerId, stage⟩) :
    SessionsRecorded (s.attach client playerId) where
  stage := by
    intro session hmem
    obtain ⟨before, hmem', rfl⟩ := List.mem_map.1 hmem
    obtain ⟨stage', hbefore, hjoined⟩ := h.stage before hmem'
    by_cases heq : before.clientSessionId = client
    · rw [heq, hclient, Option.some.injEq, RoomClient.mk.injEq] at hbefore
      rw [if_pos heq]
      refine ⟨.attached, ?_, fun _ => rfl⟩
      rw [← hbefore.1, heq]
      exact Function.update_self ..
    · rw [if_neg heq]
      exact ⟨stage', (Function.update_of_ne heq _ _).trans hbefore, hjoined⟩
  players := by
    have hsame : (s.attach client playerId).activeSessions.map ActiveSession.playerId =
        s.activeSessions.map ActiveSession.playerId := by
      simp only [PresenceRoom.attach, List.map_map]
      refine List.map_congr_left fun session _ => ?_
      simp only [Function.comp]
      split <;> rfl
    rw [hsame]
    exact h.players

theorem reportOffline_same (room : PresenceRoom) (now : Option ℤ) :
    (room.reportOffline now).activeSessions = room.activeSessions ∧
      (room.reportOffline now).clients = room.clients ∧
      (room.reportOffline now).lease = room.lease ∧ (room.reportOffline now).store = room.store := by
  unfold PresenceRoom.reportOffline
  split <;> exact ⟨rfl, rfl, rfl, rfl⟩

theorem detachClient_same (room : PresenceRoom) (client playerId : String) :
    (room.detachClient client playerId).clients
        = Function.update room.clients client (some ⟨playerId, .gone⟩) ∧
      (room.detachClient client playerId).lease = room.lease ∧
      (room.detachClient client playerId).store = room.store := by
  unfold PresenceRoom.detachClient
  split
  · obtain ⟨-, hclients, hlease, hstore⟩ := reportOffline_same
      { room.moveTo client playerId .gone with
        activeSessions := room.activeSessions.filter fun session => session.playerId ≠ playerId } none
    exact ⟨hclients, hlease, hstore⟩
  · exact ⟨rfl, rfl, rfl⟩

theorem SessionsRecorded.detached {stage : ClientStage} (h : SessionsRecorded s)
    (hclient : s.clients client = some ⟨playerId, stage⟩) :
    SessionsRecorded (s.detachClient client playerId) := by
  -- what is left is not the client's
  have hleft : (s.detachClient client playerId).activeSessions.Sublist s.activeSessions ∧
      ∀ session ∈ (s.detachClient client playerId).activeSessions,
        session.clientSessionId ≠ client := by
    unfold PresenceRoom.detachClient
    split
    next =>
      rw [(reportOffline_same _ _).1]
      refine ⟨List.filter_sublist, fun session hmem heq => ?_⟩
      obtain ⟨hmem', hne⟩ := List.mem_filter.1 hmem
      obtain ⟨before, hbefore, -⟩ := h.stage session hmem'
      rw [heq, hclient, Option.some.injEq, RoomClient.mk.injEq] at hbefore
      exact of_decide_eq_true hne hbefore.1.symm
    next hother => exact ⟨List.Sublist.refl _, h.clientSessionId_ne hclient hother⟩
  refine ⟨fun session hmem => ?_, h.players.sublist (hleft.1.map _)⟩
  obtain ⟨before, hbefore, hjoined⟩ := h.stage session (hleft.1.subset hmem)
  refine ⟨before, ?_, hjoined⟩
  rw [(detachClient_same s client playerId).1, Function.update_of_ne (hleft.2 session hmem), hbefore]

theorem expire_same (room : PresenceRoom) (client playerId : String) :
    (room.expire client playerId).clients = room.clients ∧
      (room.expire client playerId).lease = room.lease ∧
      (room.expire client playerId).store = room.store ∧
      (room.expire client playerId).activeSessions.Sublist room.activeSessions := by
  unfold PresenceRoom.expire
  split
  · exact ⟨rfl, rfl, rfl, List.filter_sublist⟩
  · exact ⟨rfl, rfl, rfl, List.Sublist.refl _⟩

theorem online_congr (hlease : s'.lease = s.lease)
    (hpresence : s'.store.presence s.lease.roomId = s.store.presence s.lease.roomId)
    (h : s.Online) : s'.Online := by
  unfold PresenceRoom.Online
  rw [hlease, hpresence]
  exact h

theorem online_of_same (hlease : s'.lease = s.lease) (hstore : s'.store = s.store)
    (h : s.Online) : s'.Online :=
  online_congr hlease (by rw [hstore]) h

/-- Once somebody has connected, the room is online. -/
theorem online_of_connected {now : ℤ} {previous : Option ℤ} {store : Realtime}
    (h : markConnected s.lease now s.store = .ok (previous, store)) (hstore : s'.store = store)
    (hlease : s'.lease = s.lease) : s'.Online ∧ (LeasesBound s.store → LeasesBound store) := by
  obtain ⟨-, -, rfl⟩ := markConnected_eq_ok.1 h
  refine ⟨?_, fun hbound => hbound⟩
  unfold PresenceRoom.Online
  rw [hlease, hstore]
  exact ⟨_, Function.update_self .., rfl⟩

/-- Where one client moves to a stage that is not reported, another one is. -/
theorem hasReported_of_moved {stage : ClientStage}
    (hclients : s'.clients = Function.update s.clients client (some ⟨playerId, stage⟩))
    (hstage : ¬ stage.Reported) (h : s'.HasReported) : ∃ other playerId' stage', other ≠ client ∧
      s.clients other = some ⟨playerId', stage'⟩ ∧ stage'.Reported := by
  obtain ⟨other, playerId', stage', hother, hreported⟩ := h
  rw [hclients] at hother
  by_cases heq : other = client
  · rw [heq, Function.update_self] at hother
    cases hother
    exact absurd hreported hstage
  · rw [Function.update_of_ne heq] at hother
    exact ⟨other, playerId', stage', heq, hother, hreported⟩

theorem PresenceSound.session_eq (h : PresenceSound s) {session : ActiveSession}
    (hmem : session ∈ s.activeSessions) : s.session session.playerId = some session :=
  find?_of_nodup h.sessions.players hmem

/-- The guard of the reports sees every attached client. -/
theorem PresenceSound.hasAttachedClient (h : PresenceSound s)
    (hattached : s.IsAttached client) : s.hasAttachedClient = true := by
  obtain ⟨playerId, hclient⟩ := hattached
  obtain ⟨session, hmem, -, -, hjoined⟩ := h.held client playerId .attached hclient trivial
  exact List.any_eq_true.2 ⟨session, hmem, hjoined rfl⟩

/-- Where somebody else is reported when a client leaves or fails to join, somebody else is
attached. -/
theorem Calm.attached {stage : ClientStage} {other playerId' : String}
    (h : (∃ other, other ≠ client ∧ s.IsBootstrapping other) →
      ∃ other, other ≠ client ∧ s.IsAttached other)
    (hne : other ≠ client) (hother : s.clients other = some ⟨playerId', stage⟩)
    (hreported : stage.Reported) : ∃ other, other ≠ client ∧ s.IsAttached other := by
  cases stage with
  | bootstrapping previous => exact h ⟨other, hne, playerId', previous, hother⟩
  | attached => exact ⟨other, hne, playerId', hother⟩
  | authenticated | connecting | gone => cases hreported

/-- A step that moves a client which was not attached, and will not be. -/
theorem PresenceSound.moved {stage stage' : ClientStage} (h : PresenceSound s)
    (hbefore : s.clients client = some ⟨playerId, stage⟩) (hstage : stage ≠ .attached)
    (hclients : s'.clients = Function.update s.clients client (some ⟨playerId, stage'⟩))
    (hsessions : s'.activeSessions = s.activeSessions) (hstage' : stage' ≠ .attached)
    (hseated : stage'.Seated → ∃ session ∈ s.activeSessions, session.playerId = playerId ∧
      session.clientSessionId = client)
    (honline : s'.HasReported → s'.Online ∧ s'.goingOffline = [])
    (hleases : LeasesBound s'.store) : PresenceSound s' where
  sessions := h.sessions.moved hbefore hstage hclients hsessions
  held := by
    intro other playerId' stage'' hother hheld
    rw [hclients] at hother
    rw [hsessions]
    by_cases heq : other = client
    · rw [heq, Function.update_self] at hother
      cases hother
      obtain ⟨session, hmem, hplayer, hclient⟩ := hseated hheld
      exact ⟨session, hmem, hplayer, hclient.trans heq.symm, fun hattached =>
        absurd hattached hstage'⟩
    · rw [Function.update_of_ne heq] at hother
      exact h.held other playerId' stage'' hother hheld
  online := honline
  leases := hleases

/-- A step that moves no client and closes no session of one that `onJoin` has let in. -/
theorem PresenceSound.stayed (h : PresenceSound s) (hclients : s'.clients = s.clients)
    (hsub : s'.activeSessions.Sublist s.activeSessions)
    (hkept : ∀ session ∈ s.activeSessions, ∀ stage, s.clients session.clientSessionId =
      some ⟨session.playerId, stage⟩ → stage.Seated → (stage = .attached → session.joined = true) →
      session ∈ s'.activeSessions)
    (honline : s.HasReported → s'.Online ∧ s'.goingOffline = [])
    (hleases : LeasesBound s'.store) : PresenceSound s' where
  sessions := h.sessions.stayed hclients hsub
  held := by
    intro other playerId' stage hother hheld
    rw [hclients] at hother
    obtain ⟨session, hmem, rfl, rfl, hjoined⟩ := h.held other playerId' stage hother hheld
    exact ⟨session, hkept session hmem stage hother hheld hjoined, rfl, rfl, hjoined⟩
  online := by
    rintro ⟨other, playerId', stage, hother, hreported⟩
    exact honline ⟨other, playerId', stage, hclients ▸ hother, hreported⟩
  leases := hleases

theorem PresenceSound.authenticated (h : PresenceSound s) (hnew : s.clients client = none)
    (hnone : s.session playerId = none) : PresenceSound (s.authenticate client playerId) where
  sessions := h.sessions.authenticated hnew hnone
  held := by
    intro other playerId' stage hother hheld
    by_cases heq : other = client
    · rw [heq] at hother
      cases (Function.update_self ..).symm.trans hother
      cases hheld
    · obtain ⟨session, hmem, hrest⟩ := h.held other playerId' stage
        ((Function.update_of_ne heq _ _).symm.trans hother) hheld
      exact ⟨session, List.mem_append_left _ hmem, hrest⟩
  online := by
    intro hreported
    have hclients : (s.authenticate client playerId).clients =
        Function.update s.clients client (some ⟨playerId, .authenticated⟩) := rfl
    obtain ⟨other, playerId', stage, -, hother, hstage⟩ :=
      hasReported_of_moved hclients id hreported
    exact h.online ⟨other, playerId', stage, hother, hstage⟩
  leases := h.leases

theorem PresenceSound.attached {previous : Option ℤ} (h : PresenceSound s)
    (hclient : s.clients client = some ⟨playerId, .bootstrapping previous⟩) :
    PresenceSound (s.attach client playerId) where
  sessions := h.sessions.attached hclient
  held := by
    intro other playerId' stage hother hheld
    by_cases heq : other = client
    · rw [heq] at hother
      cases (Function.update_self ..).symm.trans hother
      obtain ⟨session, hmem, hplayer, hsession, -⟩ := h.held client playerId _ hclient trivial
      refine ⟨{ session with joined := true }, List.mem_map.2 ⟨session, hmem, if_pos hsession⟩,
        hplayer, hsession.trans heq.symm, fun _ => rfl⟩
    · obtain ⟨session, hmem, hplayer, rfl, hjoined⟩ := h.held other playerId' stage
        ((Function.update_of_ne heq _ _).symm.trans hother) hheld
      exact ⟨session, List.mem_map.2 ⟨session, hmem, if_neg heq⟩, hplayer, rfl, hjoined⟩
  online := fun _ => h.online ⟨client, playerId, _, hclient, trivial⟩
  leases := h.leases

theorem PresenceSound.bootstrapFailed {previous : Option ℤ} (h : PresenceSound s)
    (hclient : s.clients client = some ⟨playerId, .bootstrapping previous⟩)
    (hcalm : Calm s (.bootstrapFailed client)) :
    PresenceSound (s.bootstrapFailed client playerId previous) := by
  obtain ⟨hsessions, hclients, hlease, hstore⟩ :=
    reportOffline_same (s.moveTo client playerId .gone) previous
  obtain ⟨honline, hnone⟩ := h.online ⟨client, playerId, _, hclient, trivial⟩
  refine h.moved hclient (by simp) hclients hsessions (by simp) (fun hheld => hheld.elim) ?_
    (by rw [PresenceRoom.bootstrapFailed, hstore]; exact h.leases)
  intro hreported
  obtain ⟨other, playerId', stage, hne, hother, hstage⟩ :=
    hasReported_of_moved hclients id hreported
  obtain ⟨third, -, hattached⟩ := Calm.attached hcalm hne hother hstage
  have hguard : (s.moveTo client playerId .gone).hasAttachedClient = true :=
    h.hasAttachedClient hattached
  refine ⟨online_of_same hlease hstore honline, ?_⟩
  rw [PresenceRoom.bootstrapFailed, PresenceRoom.reportOffline, if_pos hguard]
  exact hnone

theorem PresenceSound.detached (h : PresenceSound s)
    (hclient : s.clients client = some ⟨playerId, .attached⟩) (hcalm : Calm s (.detached client)) :
    PresenceSound (s.detachClient client playerId) := by
  obtain ⟨honline, hnone⟩ := h.online ⟨client, playerId, _, hclient, trivial⟩
  obtain ⟨session, hmem, rfl, hsession, -⟩ := h.held client playerId _ hclient trivial
  have hfind := h.session_eq hmem
  have hholds : s.holdsSession client session.playerId = true := by
    rw [PresenceRoom.holdsSession, hfind]
    simpa using hsession
  let left : PresenceRoom := { s.moveTo client session.playerId .gone with
    activeSessions := s.activeSessions.filter fun other => other.playerId ≠ session.playerId }
  have hleft : s.detachClient client session.playerId = left.reportOffline none := by
    rw [PresenceRoom.detachClient, if_pos hholds]
  obtain ⟨hsessions, hclients, hlease, hstore⟩ := reportOffline_same left none
  -- the sessions of the others stay
  have hstays : ∀ other playerId' stage, other ≠ client →
      s.clients other = some ⟨playerId', stage⟩ → stage.Seated → ∃ session' ∈ left.activeSessions,
        session'.playerId = playerId' ∧ session'.clientSessionId = other ∧
          (stage = .attached → session'.joined = true) := by
    intro other playerId' stage hne hother hheld
    obtain ⟨session', hmem', rfl, hsession', hjoined⟩ := h.held other playerId' stage hother hheld
    refine ⟨session', List.mem_filter.2 ⟨hmem', decide_eq_true fun heq => hne ?_⟩, rfl, hsession',
      hjoined⟩
    have hfind' := h.session_eq hmem'
    rw [heq, hfind] at hfind'
    cases hfind'
    exact hsession'.symm.trans hsession
  rw [hleft]
  refine ⟨hleft ▸ h.sessions.detached hclient, ?_, ?_, ?_⟩
  · intro other playerId' stage hother hheld
    rw [hclients] at hother
    rw [hsessions]
    by_cases heq : other = client
    · rw [heq] at hother
      cases (Function.update_self ..).symm.trans hother
      cases hheld
    · exact hstays other playerId' stage heq ((Function.update_of_ne heq _ _).symm.trans hother) hheld
  · intro hreported
    obtain ⟨other, playerId', stage, hne, hother, hstage⟩ :=
      hasReported_of_moved (s := s) hclients id hreported
    obtain ⟨third, hthird, playerId'', hattached⟩ := Calm.attached hcalm hne hother hstage
    obtain ⟨session', hmem', -, -, hjoined⟩ := hstays third playerId'' _ hthird hattached trivial
    have hguard : left.hasAttachedClient = true :=
      List.any_eq_true.2 ⟨session', hmem', hjoined rfl⟩
    refine ⟨online_of_same hlease hstore honline, ?_⟩
    rw [PresenceRoom.reportOffline, if_pos hguard]
    exact hnone
  · rw [hstore]
    exact h.leases

theorem PresenceSound.expired (h : PresenceSound s) (hcalm : Calm s (.expired client)) :
    PresenceSound (s.expire client playerId) := by
  obtain ⟨hclients, hlease, hstore, hsub⟩ := expire_same s client playerId
  have hgoing : (s.expire client playerId).goingOffline = s.goingOffline := by
    unfold PresenceRoom.expire
    split <;> rfl
  refine h.stayed hclients hsub ?_ ?_ ?_
  · intro session hmem stage hclient hheld hjoined
    unfold PresenceRoom.expire
    split
    next hexpires =>
      refine List.mem_filter.2 ⟨hmem, decide_eq_true ?_⟩
      -- the session that expires has not been joined, and its client has not begun to
      rintro rfl
      rw [h.session_eq hmem] at hexpires
      obtain ⟨rfl, hnot⟩ : session.clientSessionId = client ∧ session.joined = false := by
        simpa using hexpires
      cases stage with
      | connecting => exact hcalm.1 _ hclient
      | bootstrapping previous => exact hcalm.2 ⟨_, previous, hclient⟩
      | attached =>
        rw [hjoined rfl] at hnot
        cases hnot
      | authenticated | gone => cases hheld
    next => exact hmem
  · intro hreported
    obtain ⟨honline, hnone⟩ := h.online hreported
    exact ⟨online_of_same hlease hstore honline, hgoing.trans hnone⟩
  · rw [hstore]
    exact h.leases

/-- Every step in a calm interleaving keeps what the handlers rely on. -/
theorem PresenceSound.step (h : PresenceSound s) (hcalm : Calm s label)
    (hstep : PresenceStep s label s') : PresenceSound s' := by
  cases hstep with
  | authenticated client playerId hnew hnone => exact h.authenticated hnew hnone
  | joining client playerId hclient =>
    have hmoved : ∀ stage : ClientStage, ¬ stage.Reported → (stage.Seated → ∃ session ∈
        s.activeSessions, session.playerId = playerId ∧ session.clientSessionId = client) →
        PresenceSound (s.moveTo client playerId stage) := by
      intro stage hstage hseated
      refine h.moved hclient (by simp) rfl rfl ?_ hseated ?_ h.leases
      · rintro rfl
        exact hstage trivial
      · intro hreported
        obtain ⟨other, playerId', stage', -, hother, hstage'⟩ :=
          hasReported_of_moved (s := s) rfl hstage hreported
        exact h.online ⟨other, playerId', stage', hother, hstage'⟩
    unfold PresenceRoom.join
    split
    next hholds =>
      obtain ⟨session, hfind, hsession⟩ := (Option.any_eq_true _ _).1 hholds
      exact hmoved .connecting id fun _ => ⟨session, (find?_key_eq_some hfind).1,
        (find?_key_eq_some hfind).2, of_decide_eq_true hsession⟩
    next => exact hmoved .gone id fun hheld => hheld.elim
  | connected client playerId now previous store hclient hconnected =>
    obtain ⟨honline, hbound⟩ := @online_of_connected s
      { s.moveTo client playerId (.bootstrapping previous) with store := store }
      _ _ _ hconnected rfl rfl
    obtain ⟨session, hmem, hplayer, hsession, -⟩ := h.held client playerId _ hclient trivial
    exact h.moved hclient (by simp) rfl rfl (by simp) (fun _ => ⟨session, hmem, hplayer, hsession⟩)
      (fun _ => ⟨honline, hcalm⟩) (hbound h.leases)
  | connectFailed client playerId now store hclient hstore =>
    have hkept : (s.Online → PresenceRoom.Online
        { s.moveTo client playerId .gone with store := store }) ∧ LeasesBound store := by
      rcases hstore with rfl | ⟨previous, hconnected⟩
      · exact ⟨online_congr rfl rfl, h.leases⟩
      · obtain ⟨honline, hbound⟩ := @online_of_connected s
          { s.moveTo client playerId .gone with store := store } _ _ _ hconnected rfl rfl
        exact ⟨fun _ => honline, hbound h.leases⟩
    refine h.moved hclient (by simp) rfl rfl (by simp) (fun hheld => hheld.elim) ?_ hkept.2
    intro hreported
    obtain ⟨other, playerId', stage, -, hother, hstage⟩ :=
      hasReported_of_moved (s := s) rfl id hreported
    obtain ⟨honline, hnone⟩ := h.online ⟨other, playerId', stage, hother, hstage⟩
    exact ⟨hkept.1 honline, hnone⟩
  | attached client playerId previous hclient => exact h.attached hclient
  | bootstrapFailed client playerId previous hclient => exact h.bootstrapFailed hclient hcalm
  | detached client playerId hclient => exact h.detached hclient hcalm
  | expired client playerId => exact h.expired hcalm
  | offline given now deadline store hmem hoffline =>
    obtain ⟨-, rfl⟩ := markAllOffline_ok hoffline
    refine h.stayed rfl (List.Sublist.refl _) (fun _ hmem' _ _ _ _ => hmem') ?_ h.leases
    intro hreported
    rw [(h.online hreported).2] at hmem
    cases hmem
  | offlineFailed given hmem =>
    refine h.stayed rfl (List.Sublist.refl _) (fun _ hmem' _ _ _ _ => hmem') ?_ h.leases
    intro hreported
    rw [(h.online hreported).2] at hmem
    cases hmem
  | others store hpresence hbound =>
    refine h.stayed rfl (List.Sublist.refl _) (fun _ hmem' _ _ _ _ => hmem') ?_ hbound
    intro hreported
    obtain ⟨honline, hnone⟩ := h.online hreported
    exact ⟨online_congr (s := s) rfl hpresence honline, hnone⟩

theorem OpenedPresence.sound (h : OpenedPresence s) : PresenceSound s where
  sessions := by
    refine ⟨?_, ?_⟩ <;> rw [h.activeSessions]
    · simp
    · exact List.nodup_nil
  held := by
    intro client _ _ hclient
    rw [h.clients] at hclient
    cases hclient
  online := by
    rintro ⟨client, _, _, hclient, -⟩
    rw [h.clients] at hclient
    cases hclient
  leases := h.leases

/-- The deadline of a room that is online is beyond the end of its lease. -/
theorem abortDeadline_of_online {lease : LeaseRow} (h : s.Online) :
    abortDeadline lease (s.store.presence s.lease.roomId) = lease.leaseUntil + 120000 := by
  obtain ⟨row, hrow, honline⟩ := h
  have hdeadline : row.abortDeadlineAt = none := by
    rw [row.deadline_eq, honline]
    rfl
  unfold abortDeadline
  rw [hrow]
  cases hfilter : (some row).filter fun row => row.gameSessionId = lease.gameSessionId ∧
      row.fencingToken = lease.fencingToken with
  | none => rfl
  | some row' =>
    obtain ⟨rfl, -⟩ := Option.filter_eq_some_iff.1 hfilter |>.imp_left Option.some.inj
    simp [hdeadline]

/-- In a calm interleaving a room with an attached client is online, and the API does not abort its
session while the lease is live. -/
theorem attached_online (start s : PresenceRoom) (labels : List PresenceLabel)
    (hopened : OpenedPresence start) (hrun : Run (Guarded Calm PresenceStep) start labels s)
    (hattached : s.hasAttachedClient = true ∨
      ∃ client playerId, s.clients client = some ⟨playerId, .attached⟩) :
    s.Online ∧ ∀ now lease, s.store.leases s.lease.roomId = some lease → now < lease.leaseUntil →
      lease.gameSessionId ∉ offlineAbortCandidates s.store now := by
  have hsound : PresenceSound s :=
    hrun.invariant (fun _ _ _ h hstep => h.step hstep.2 hstep.1) hopened.sound
  have hreported : s.HasReported := by
    rcases hattached with hany | ⟨client, playerId, hclient⟩
    · obtain ⟨session, hmem, hjoined⟩ := List.any_eq_true.1 hany
      obtain ⟨stage, hstage, hattach⟩ := hsound.sessions.stage session hmem
      obtain rfl := hattach hjoined
      exact ⟨_, _, _, hstage, trivial⟩
    · exact ⟨client, playerId, _, hclient, trivial⟩
  have honline := (hsound.online hreported).1
  refine ⟨honline, fun now lease hlease hlive => ?_⟩
  rintro ⟨roomId, lease', hlease', hgame, hdeadline⟩
  -- the lease is the only one of its session
  have hroom : roomId = s.lease.roomId := by
    have hsame := hsound.leases _ _ hlease'
    rw [hgame, hsound.leases _ _ hlease] at hsame
    exact (Option.some.inj hsame).symm
  subst hroom
  obtain rfl := Option.some.inj (hlease.symm.trans hlease')
  rw [abortDeadline_of_online honline] at hdeadline
  omega

end Sound

/-! ### A room reported offline -/

/-- A room without clients, with a lease until `200000`. -/
def emptyRoom : PresenceRoom where
  lease := ⟨1, "game", "server", 200000, "room"⟩
  activeSessions := []
  clients := fun _ => none
  goingOffline := []
  store := setLease "room" ⟨"game", "server", 200000, 1, 0⟩ (freshRealtime fun _ => some "room")

theorem emptyRoom_opened : OpenedPresence emptyRoom where
  activeSessions := rfl
  clients := fun _ => rfl
  goingOffline := rfl
  leases := by
    intro roomId row hrow
    by_cases hroom : roomId = "room"
    · rw [hroom]
      rfl
    · have hnone : emptyRoom.store.leases roomId = none := Function.update_of_ne hroom _ _
      rw [hnone] at hrow
      cases hrow

/-- Alice and Bob attach, and Bob leaves again: nobody reports the room offline, and it is online. -/
theorem attached_online_alice : ∃ s : PresenceRoom,
    Run (Guarded Calm PresenceStep) emptyRoom
      [.authenticated "a", .joining "a", .connected "a", .attached "a", .authenticated "b",
        .joining "b", .connected "b", .attached "b", .detached "b"] s ∧
    s.hasAttachedClient = true ∧ s.goingOffline = [] ∧ s.Online ∧
    ∃ lease, s.store.leases s.lease.roomId = some lease ∧ 120003 < lease.leaseUntil ∧
      lease.gameSessionId ∉ offlineAbortCandidates s.store 120003 := by
  have hrun : Run (Guarded Calm PresenceStep) emptyRoom
      [.authenticated "a", .joining "a", .connected "a", .attached "a", .authenticated "b",
        .joining "b", .connected "b", .attached "b", .detached "b"] _ :=
    .cons ⟨.authenticated _ "a" "alice" rfl rfl, trivial⟩
      (.cons ⟨.joining _ "a" "alice" rfl, trivial⟩
        (.cons ⟨.connected _ "a" "alice" 1 none _ rfl rfl, rfl⟩
          (.cons ⟨.attached _ "a" "alice" none rfl, trivial⟩
            (.cons ⟨.authenticated _ "b" "bob" rfl rfl, trivial⟩
              (.cons ⟨.joining _ "b" "bob" rfl, trivial⟩
                (.cons ⟨.connected _ "b" "bob" 2 none _ rfl rfl, rfl⟩
                  (.cons ⟨.attached _ "b" "bob" none rfl, trivial⟩
                    (.cons ⟨.detached _ "b" "bob" rfl, fun _ => ⟨"a", by decide, "alice", rfl⟩⟩
                      (.nil _)))))))))
  obtain ⟨honline, hkept⟩ := attached_online _ _ _ emptyRoom_opened hrun (.inl rfl)
  exact ⟨_, hrun, rfl, rfl, honline, _, rfl, by decide, hkept 120003 _ rfl (by decide)⟩

/-- Bob joins while Alice leaves: his report takes effect first, hers second, and then he is
attached to a room that is reported offline, and whose session is aborted two minutes later. -/
theorem not_attached_online : ∃ labels s, OpenedPresence emptyRoom ∧
    Run PresenceStep emptyRoom labels s ∧ s.goingOffline = [] ∧
    (∀ client playerId, s.clients client ≠ some ⟨playerId, .connecting⟩) ∧
    s.hasAttachedClient = true ∧ ¬ s.Online ∧
    ∃ lease, s.store.leases s.lease.roomId = some lease ∧ 120003 < lease.leaseUntil ∧
      lease.gameSessionId ∈ offlineAbortCandidates s.store 120003 := by
  refine ⟨_, _, emptyRoom_opened,
    .cons (.authenticated _ "a" "alice" rfl rfl) (.cons (.joining _ "a" "alice" rfl)
      (.cons (.connected _ "a" "alice" 1 none _ rfl rfl)
        (.cons (.attached _ "a" "alice" none rfl)
          (.cons (.authenticated _ "b" "bob" rfl rfl) (.cons (.joining _ "b" "bob" rfl)
            (.cons (.connected _ "b" "bob" 2 none _ rfl rfl)
              (.cons (.detached _ "a" "alice" rfl)
                (.cons (.offline _ none 3 (some 120003) _ (List.mem_cons_self ..) rfl)
                  (.cons (.attached _ "b" "bob" none rfl) (.nil _)))))))))), rfl, ?_, rfl, ?_,
    _, rfl, by decide, "room", _, rfl, rfl, by decide⟩
  · intro client playerId hclient
    by_cases hbob : client = "b"
    · rw [hbob] at hclient
      cases hclient
    · by_cases halice : client = "a"
      · rw [halice] at hclient
        cases hclient
      · -- no step is about a third client
        cases ((Function.update_of_ne hbob _ _).trans ((Function.update_of_ne halice _ _).trans
          ((Function.update_of_ne hbob _ _).trans ((Function.update_of_ne hbob _ _).trans
          ((Function.update_of_ne hbob _ _).trans ((Function.update_of_ne halice _ _).trans
          ((Function.update_of_ne halice _ _).trans ((Function.update_of_ne halice _ _).trans
          (Function.update_of_ne halice _ _))))))))).symm.trans hclient
  · rintro ⟨row, hrow, honline⟩
    cases hrow
    cases honline

end Pootown.Server
