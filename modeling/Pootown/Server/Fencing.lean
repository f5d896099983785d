import Mathlib.Tactic
import Pootown.Server.StoreCalls

/-!
# Fencing

Whatever the clocks of its callers say, the store keeps a room for one owner at a time: every change
of owner raises the fencing token, and a lease under an earlier token writes nothing.

* `Fenced`: tokens never fall, and rise with every change of owner;
* `CarriesToken`: checkpoints and presence are stored under the token of the lease;
* `leases_fence`: both hold along every run of calls, and a lease another owner has taken over is
  of no use.
-/

namespace Pootown.Server

open Runs Transactions

/-- A store without rooms. -/
def freshRealtime (sessions : Table String String) : Realtime where
  sessions := sessions
  leases := fun _ => none
  checkpoints := fun _ => none
  commands := fun _ => none
  events := fun _ => none
  proofs := fun _ => none
  finalizations := fun _ => none
  presence := fun _ => none

def Fresh (db : Realtime) : Prop := ∃ sessions, db = freshRealtime sessions

/-- Every lease of `db` is still there in `db'`, for the same game, under no lower token, and under
a higher one if it has changed hands. -/
def Fenced (db db' : Realtime) : Prop :=
  ∀ roomId row, db.leases roomId = some row → ∃ row', db'.leases roomId = some row' ∧
    row'.gameSessionId = row.gameSessionId ∧ row.fencingToken ≤ row'.fencingToken ∧
    (row.instanceId ≠ row'.instanceId → row.fencingToken < row'.fencingToken)

instance : Std.Refl Fenced where
  refl _ _ row hrow := ⟨row, hrow, rfl, le_rfl, fun hne => absurd rfl hne⟩

instance : IsTrans Realtime Fenced where
  trans db m db' h h' := by
    intro roomId row hrow
    obtain ⟨row₁, hrow₁, hgame₁, hle₁, hlt₁⟩ := h roomId row hrow
    obtain ⟨row₂, hrow₂, hgame₂, hle₂, hlt₂⟩ := h' roomId row₁ hrow₁
    refine ⟨row₂, hrow₂, hgame₂.trans hgame₁, hle₁.trans hle₂, fun hne => ?_⟩
    by_cases hsame : row.instanceId = row₁.instanceId
    · exact hle₁.trans_lt (hlt₂ (hsame ▸ hne))
    · exact (hlt₁ hsame).trans_le hle₂

variable {codec : Codec} {db db' : Realtime} {lease : RoomLease} {now : ℤ}

theorem fenced_of_leases_eq (h : db'.leases = db.leases) : Fenced db db' :=
  fun _ row hrow => ⟨row, by rw [h, hrow], rfl, le_rfl, fun hne => absurd rfl hne⟩

/-- A lease row that is set under its own game and owner, and no lower token, fences. -/
theorem fenced_setLease {roomId : String} {row : LeaseRow} {m : Realtime}
    (hm : m.leases = db.leases)
    (h : ∀ current, db.leases roomId = some current → row.gameSessionId = current.gameSessionId ∧
      current.fencingToken ≤ row.fencingToken ∧
      (current.instanceId ≠ row.instanceId → current.fencingToken < row.fencingToken)) :
    Fenced db (setLease roomId row m) := by
  intro roomId' current hcurrent
  by_cases hroom : roomId' = roomId
  · subst hroom
    obtain ⟨hgame, hle, hlt⟩ := h current hcurrent
    exact ⟨row, by simp [setLease], hgame, hle, hlt⟩
  · exact ⟨current, by simp [setLease, hroom, hm, hcurrent], rfl, le_rfl,
      fun hne => absurd rfl hne⟩

/-- A lease row that its owner sets, token unchanged, fences. -/
theorem fenced_setLease_of_owned {leaseUntil updatedAt : ℤ} (h : Owned db lease now) :
    Fenced db (setLease lease.roomId
      ⟨lease.gameId, lease.instanceId, leaseUntil, lease.fencingToken, updatedAt⟩ db) := by
  obtain ⟨row, hrow, hgame, howner, htoken, -⟩ := h
  refine fenced_setLease rfl fun current hcurrent => ?_
  rw [Option.mem_def, hcurrent, Option.some.injEq] at hrow
  subst hrow
  exact ⟨hgame.symm, htoken.le, fun hne => absurd howner hne⟩

theorem Acquired.fenced {ownerId roomId gameId : String} {leaseUntil : ℤ} {token : ℕ}
    (h : Acquired db ownerId roomId gameId leaseUntil now token db') : Fenced db db' := by
  cases h with
  | first hnone =>
    refine fenced_setLease rfl fun current hcurrent => ?_
    rw [hnone] at hcurrent
    cases hcurrent
  | again current hcurrent hgame howner =>
    refine fenced_setLease rfl fun row hrow => ?_
    rw [hcurrent, Option.some.injEq] at hrow
    subst hrow
    exact ⟨hgame.symm, le_rfl, fun hne => absurd howner hne⟩
  | takenOver current hcurrent hgame =>
    refine fenced_setLease rfl fun row hrow => ?_
    rw [hcurrent, Option.some.injEq] at hrow
    subst hrow
    exact ⟨hgame.symm, Nat.le_succ _, fun _ => Nat.lt_succ_self _⟩

theorem StoreEffect.fenced {call : StoreCall} {result : StoreResult}
    (h : StoreEffect codec db now call result db') : Fenced db db' := by
  cases h with
  | acquired _ _ _ _ _ _ hacquired => exact hacquired.fenced
  | renewed _ _ howned => exact fenced_setLease_of_owned howned
  | released _ _ howned => exact fenced_setLease_of_owned howned
  | _ => exact fenced_of_leases_eq rfl

/-! ### The token in the other tables -/

/-- The lease of a room is for `gameId`, under `token`. -/
def HasToken (db : Realtime) (roomId gameId : String) (token : ℕ) : Prop :=
  ∃ row, db.leases roomId = some row ∧ row.gameSessionId = gameId ∧ row.fencingToken = token

/-- Checkpoints and presence are stored under the game and the token of the lease. -/
structure CarriesToken (db : Realtime) : Prop where
  checkpoint : ∀ roomId row, db.checkpoints roomId = some row →
    HasToken db roomId row.gameSessionId row.fencingToken
  presence : ∀ roomId row, db.presence roomId = some row →
    HasToken db roomId row.gameSessionId row.fencingToken

theorem hasToken_of_owned (h : Owned db lease now) :
    HasToken db lease.roomId lease.gameId lease.fencingToken := by
  obtain ⟨row, hrow, hgame, -, htoken, -⟩ := h
  exact ⟨row, hrow, hgame, htoken⟩

theorem HasToken.congr {roomId gameId : String} {token : ℕ}
    (h : HasToken db roomId gameId token) (hleases : db'.leases roomId = db.leases roomId) :
    HasToken db' roomId gameId token := by
  obtain ⟨row, hrow, hgame, htoken⟩ := h
  exact ⟨row, by rw [hleases, hrow], hgame, htoken⟩

theorem carriesToken_setCheckpoint {row : CheckpointRow} (h : CarriesToken db)
    (hrow : HasToken db lease.roomId row.gameSessionId row.fencingToken) :
    CarriesToken (setCheckpoint lease.roomId row db) where
  checkpoint := by
    intro roomId row' hrow'
    by_cases hroom : roomId = lease.roomId
    · subst hroom
      simp only [setCheckpoint, Function.update_self, Option.some.injEq] at hrow'
      subst hrow'
      exact hrow.congr rfl
    · simp only [setCheckpoint, Function.update_of_ne hroom] at hrow'
      exact (h.checkpoint roomId row' hrow').congr rfl
  presence := fun roomId row' hrow' => (h.presence roomId row' hrow').congr rfl

theorem carriesToken_setPresence {row : PresenceRow} (h : CarriesToken db)
    (hrow : HasToken db lease.roomId row.gameSessionId row.fencingToken) :
    CarriesToken (setPresence lease.roomId row db) where
  checkpoint := fun roomId row' hrow' => (h.checkpoint roomId row' hrow').congr rfl
  presence := by
    intro roomId row' hrow'
    by_cases hroom : roomId = lease.roomId
    · subst hroom
      simp only [setPresence, Function.update_self, Option.some.injEq] at hrow'
      subst hrow'
      exact hrow.congr rfl
    · simp only [setPresence, Function.update_of_ne hroom] at hrow'
      exact (h.presence roomId row' hrow').congr rfl

/-- Setting a lease under the game and token it had keeps the rows of the other tables in step. -/
theorem carriesToken_setLease {roomId : String} {row : LeaseRow} (h : CarriesToken db)
    (hrow : ∀ current, db.leases roomId = some current →
      current.gameSessionId = row.gameSessionId ∧ current.fencingToken = row.fencingToken) :
    CarriesToken (setLease roomId row db) := by
  have hkeep : ∀ roomId' gameId token, HasToken db roomId' gameId token →
      HasToken (setLease roomId row db) roomId' gameId token := by
    rintro roomId' gameId token ⟨current, hcurrent, rfl, rfl⟩
    by_cases hroom : roomId' = roomId
    · subst hroom
      obtain ⟨hgame, htoken⟩ := hrow current hcurrent
      exact ⟨row, by simp [setLease], hgame.symm, htoken.symm⟩
    · exact ⟨current, by simp [setLease, hroom, hcurrent], rfl, rfl⟩
  exact ⟨fun roomId' row' hrow' => hkeep _ _ _ (h.checkpoint roomId' row' hrow'),
    fun roomId' row' hrow' => hkeep _ _ _ (h.presence roomId' row' hrow')⟩

theorem carriesToken_setLease_of_owned {leaseUntil updatedAt : ℤ} (h : CarriesToken db)
    (howned : Owned db lease now) : CarriesToken (setLease lease.roomId
      ⟨lease.gameId, lease.instanceId, leaseUntil, lease.fencingToken, updatedAt⟩ db) := by
  obtain ⟨row, hrow, hgame, -, htoken, -⟩ := howned
  refine carriesToken_setLease h fun current hcurrent => ?_
  rw [Option.mem_def, hcurrent, Option.some.injEq] at hrow
  subst hrow
  exact ⟨hgame, htoken⟩

theorem Acquired.carriesToken {ownerId roomId gameId : String} {leaseUntil : ℤ} {token : ℕ}
    (h : Acquired db ownerId roomId gameId leaseUntil now token db') (hdb : CarriesToken db) :
    CarriesToken db' := by
  cases h with
  | first hnone =>
    refine carriesToken_setLease hdb fun current hcurrent => ?_
    rw [hnone] at hcurrent
    cases hcurrent
  | again current hcurrent hgame howner =>
    refine carriesToken_setLease hdb fun row hrow => ?_
    rw [hcurrent, Option.some.injEq] at hrow
    subst hrow
    exact ⟨hgame, rfl⟩
  | takenOver current hcurrent hgame =>
    -- the rows of the room move to the new token with the lease; those of other rooms stay
    have hroom : ∀ gameId' token', HasToken db roomId gameId' token' →
        HasToken (setLease roomId ⟨gameId, ownerId, leaseUntil, current.fencingToken + 1, now⟩
          (moveToken roomId (current.fencingToken + 1) current.leaseUntil now db)) roomId gameId'
          (current.fencingToken + 1) := by
      rintro gameId' token' ⟨row, hrow, rfl, rfl⟩
      rw [hcurrent, Option.some.injEq] at hrow
      subst hrow
      exact ⟨⟨gameId, ownerId, leaseUntil, current.fencingToken + 1, now⟩, by simp [setLease],
        hgame.symm, rfl⟩
    constructor
    · intro roomId' row hrow
      by_cases heq : roomId' = roomId
      · subst heq
        simp only [setLease, moveToken, Function.update_self, Option.map_eq_some_iff] at hrow
        obtain ⟨row', hrow', rfl⟩ := hrow
        exact hroom _ _ (hdb.checkpoint roomId' row' hrow')
      · simp only [setLease, moveToken, Function.update_of_ne heq] at hrow
        exact (hdb.checkpoint roomId' row hrow).congr (by simp [setLease, moveToken, heq])
    · intro roomId' row hrow
      by_cases heq : roomId' = roomId
      · subst heq
        simp only [setLease, moveToken, Function.update_self, Option.map_eq_some_iff] at hrow
        obtain ⟨row', hrow', rfl⟩ := hrow
        exact hroom _ _ (hdb.presence roomId' row' hrow')
      · simp only [setLease, moveToken, Function.update_of_ne heq] at hrow
        exact (hdb.presence roomId' row hrow).congr (by simp [setLease, moveToken, heq])

theorem StoreEffect.carriesToken {call : StoreCall} {result : StoreResult}
    (h : StoreEffect codec db now call result db') (hdb : CarriesToken db) :
    CarriesToken db' := by
  cases h with
  | acquired _ _ _ _ _ _ hacquired => exact hacquired.carriesToken hdb
  | renewed _ _ howned => exact carriesToken_setLease_of_owned hdb howned
  | released _ _ howned => exact carriesToken_setLease_of_owned hdb howned
  | initialized _ _ _ _ howned => exact carriesToken_setCheckpoint hdb (hasToken_of_owned howned)
  | saved _ _ _ _ _ howned => exact carriesToken_setCheckpoint hdb (hasToken_of_owned howned)
  | committed lease value _ howned =>
    have hmoved : CarriesToken (setCheckpoint lease.roomId
        (snapshotRow codec lease value.stateVersion value.serializedState now) db) :=
      carriesToken_setCheckpoint hdb (hasToken_of_owned howned)
    exact ⟨fun roomId row hrow => (hmoved.checkpoint roomId row hrow).congr rfl,
      fun roomId row hrow => (hmoved.presence roomId row hrow).congr rfl⟩
  | connected _ _ howned => exact carriesToken_setPresence hdb (hasToken_of_owned howned)
  | offline _ _ howned => exact carriesToken_setPresence hdb (hasToken_of_owned howned)
  | _ => exact hdb

/-! ### Stale leases -/

/-- The lease a call is made under, if it is made under one. -/
def StoreCall.underLease : StoreCall → Option RoomLease
  | .acquire _ _ _ _ => none
  | .renew lease _ => some lease
  | .release lease => some lease
  | .initializeCheckpoint lease _ _ => some lease
  | .saveCheckpoint lease _ _ _ => some lease
  | .loadCheckpoint lease => some lease
  | .findReplay lease _ _ => some lease
  | .commit lease _ => some lease
  | .markConnected lease => some lease
  | .markAllOffline lease => some lease

/-- A call made under a lease is made under the token and by the owner the store has then, save for
a release that releases nothing. -/
theorem StoreEffect.owned {call : StoreCall} {result : StoreResult}
    (h : StoreEffect codec db now call result db') (hlease : call.underLease = some lease) :
    Owned db lease now ∨ (call = .release lease ∧ db' = db) := by
  cases h with
  | acquired => cases hlease
  | releasedNothing lease' _ =>
    cases hlease
    exact .inr ⟨rfl, rfl⟩
  | _ =>
    cases hlease
    exact .inl ‹_›

/-- The store holds the room of `lease` for its owner, under its token. -/
def Holds (db : Realtime) (lease : RoomLease) : Prop :=
  ∃ row, db.leases lease.roomId = some row ∧ row.instanceId = lease.instanceId ∧
    row.fencingToken = lease.fencingToken

theorem Acquired.holds {ownerId roomId gameId : String} {leaseUntil : ℤ} {token : ℕ}
    (h : Acquired db ownerId roomId gameId leaseUntil now token db') :
    ∃ row, db'.leases roomId = some row ∧ row.instanceId = ownerId ∧ row.fencingToken = token := by
  cases h <;> exact ⟨⟨gameId, ownerId, leaseUntil, _, now⟩, by simp [setLease], rfl, rfl⟩

/-- A lease that was handed out was held. -/
theorem StoreEffect.holds {call : StoreCall}
    (h : StoreEffect codec db now call (.lease lease) db') : Holds db' lease := by
  cases h with
  | acquired _ _ _ _ _ _ hacquired => exact hacquired.holds
  | renewed lease' leaseDurationMs howned =>
    exact ⟨_, by simp [setLease]; rfl, rfl, rfl⟩

/-- Another owner's acquisition outdates a lease for good. -/
theorem stale_of_acquired {before m after s : Realtime} {ownerId gameId : String} {token : ℕ}
    {leaseUntil : ℤ} (hheld : Holds before lease) (hbefore : Fenced before m)
    (hacquired : Acquired m ownerId lease.roomId gameId leaseUntil now token after)
    (howner : ownerId ≠ lease.instanceId) (hafter : Fenced after s) :
    ∀ later, ¬ Owned s lease later := by
  rintro later ⟨row, hrow, -, -, htoken, -⟩
  obtain ⟨first, hfirst, hinstance, hlease⟩ := hheld
  have hfenced : Fenced before after := IsTrans.trans _ _ _ hbefore hacquired.fenced
  obtain ⟨second, hsecond, -, -, hlt⟩ := hfenced lease.roomId first hfirst
  obtain ⟨taken, htaken, htakenOwner, -⟩ := hacquired.holds
  rw [htaken, Option.some.injEq] at hsecond
  subst hsecond
  have hrise : first.fencingToken < taken.fencingToken :=
    hlt fun heq => howner (htakenOwner.symm.trans (heq.symm.trans hinstance))
  obtain ⟨last, hlast, -, hle, -⟩ := hafter lease.roomId taken htaken
  rw [Option.mem_def, hlast, Option.some.injEq] at hrow
  subst hrow
  omega

theorem fresh_carriesToken (h : Fresh db) : CarriesToken db := by
  obtain ⟨sessions, rfl⟩ := h
  constructor <;>
  · intro roomId row hrow
    cases hrow

theorem run_fenced {labels : List StoreLabel} (h : Run (StoreStep codec) db labels db') :
    Fenced db db' :=
  h.related fun _ _ _ hstep => hstep.effect.fenced

theorem run_carriesToken {labels : List StoreLabel} (h : Run (StoreStep codec) db labels db')
    (hdb : CarriesToken db) : CarriesToken db' :=
  h.invariant (fun _ _ _ hm hstep => hstep.effect.carriesToken hm) hdb

/-- Along every run of calls: tokens never fall and rise with every change of owner; checkpoints and
presence carry the current token; once a lease has been acquired by another owner, a call under it
fails or, where it releases, does nothing; and a commit is made under the current token. -/
theorem leases_fence (codec : Codec) (start s s' : Realtime) (before after : List StoreLabel)
    (hstart : Fresh start) (hbefore : Run (StoreStep codec) start before s)
    (hafter : Run (StoreStep codec) s after s') :
    Fenced s s' ∧ CarriesToken s' ∧
    (∀ lease, (∃ issue ∈ before, issue.result = .lease lease) →
      (∃ label ∈ after, ∃ ownerId leaseDurationMs gameId,
        label.call = .acquire ownerId leaseDurationMs lease.roomId gameId ∧
        ownerId ≠ lease.instanceId) →
      ∀ label s'', StoreStep codec s' label s'' → label.call.underLease = some lease →
        label.call = .release lease ∧ s'' = s') ∧
    (∀ label s'', StoreStep codec s' label s'' → ∀ lease value,
      label.call = .commit lease value → Holds s' lease) := by
  refine ⟨run_fenced hafter, run_carriesToken hafter
    (run_carriesToken hbefore (fresh_carriesToken hstart)), ?_, ?_⟩
  · rintro lease ⟨issue, hissue, hresult⟩ ⟨label, hlabel, ownerId, leaseDurationMs, gameId, hcall,
      howner⟩ last s'' hlast hlease
    obtain ⟨_, _, m, m', -, -, hissued, hrest⟩ := hbefore.split hissue
    obtain ⟨_, _, n, n', -, htaking, htaken, htail⟩ := hafter.split hlabel
    have heffect := hissued.effect
    rw [hresult] at heffect
    have htake := htaken.effect
    rw [hcall] at htake
    generalize label.result = taken at htake
    cases htake with
    | acquired _ _ _ _ token _ hacquired =>
      have hstale := stale_of_acquired heffect.holds
        (IsTrans.trans _ _ _ (run_fenced hrest) (run_fenced htaking)) hacquired howner
        (run_fenced htail) last.now
      exact (hlast.effect.owned hlease).resolve_left hstale
  · intro label s'' hstep lease value hcall
    rcases hstep.effect.owned (by rw [hcall]; rfl) with howned | ⟨hrelease, -⟩
    · obtain ⟨row, hrow, -, howner, htoken, -⟩ := howned
      exact ⟨row, hrow, howner, htoken⟩
    · rw [hcall] at hrelease
      cases hrelease

/-- Two servers take one room after the other: the first lease is of no further use. -/
theorem leases_fence_takeover :
    let codec : Codec := ⟨id, fun _ => some 0⟩
    let first : RoomLease := ⟨1, "game", "one", 10, "room"⟩
    ∃ s s', Run (StoreStep codec) (freshRealtime fun _ => some "room")
        [⟨.acquire "one" 10 "room" "game", 0, .lease first⟩] s ∧
      Run (StoreStep codec) s
        [⟨.acquire "two" 10 "room" "game", 20, .lease ⟨2, "game", "two", 30, "room"⟩⟩] s' ∧
      ∀ label s'', StoreStep codec s' label s'' → label.call.underLease = some first →
        label.call = .release first ∧ s'' = s' := by
  intro codec first
  have hbefore : Run (StoreStep codec) (freshRealtime fun _ => some "room")
      [⟨.acquire "one" 10 "room" "game", 0, .lease first⟩] _ := .cons rfl (.nil _)
  have hafter : Run (StoreStep codec) _
      [⟨.acquire "two" 10 "room" "game", 20, .lease ⟨2, "game", "two", 30, "room"⟩⟩] _ :=
    .cons (s := setLease "room" ⟨"game", "one", 10, 1, 0⟩ (freshRealtime fun _ => some "room"))
      rfl (.nil _)
  obtain ⟨-, -, hstale, -⟩ := leases_fence codec _ _ _ _ _ ⟨_, rfl⟩ hbefore hafter
  exact ⟨_, _, hbefore, hafter, hstale first ⟨_, List.mem_singleton_self _, rfl⟩
    ⟨_, List.mem_singleton_self _, "two", 10, "game", rfl, by decide⟩⟩

end Pootown.Server
