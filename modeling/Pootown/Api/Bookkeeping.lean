import Mathlib.Tactic
import Pootown.Api.Books

/-!
# The operations that close their gaps

`reserveAndSeat_books`, `giveBack_books`, `captureReservation_books`, `creditWinner_books` and
`applyGrant_books` move Coin, enter what they moved, and reserve or free it; `provisionUser_books`
opens an account. Everything else a request does leaves the books alone.
-/

namespace Pootown.Api

open Tables Transactions

variable {digests : Digests} {settings : Settings} {opened : Option String}
  {rs : List ReservationRow} {gap : Gap} {userId operationId : String} {fresh : Fresh} {now : ℤ}

/-! ### Leaving the books alone -/

section Kept

variable {s s' : Working} {u : Unit}

theorem BooksKept.onGame (f : Game → Game) (s : Working) : BooksKept s (s.onGame f) :=
  ⟨rfl, List.Subset.refl _, rfl⟩

theorem BooksKept.onReadModel (f : ReadModel → ReadModel) (s : Working) :
    BooksKept s (s.onReadModel f) :=
  ⟨rfl, List.Subset.refl _, rfl⟩

theorem BooksKept.put (deferred : Deferred) (h : BooksKept s s') : BooksKept s (s'.put deferred) :=
  ⟨h.economy, List.Subset.trans h.deferred (List.subset_append_left _ _), h.users⟩

theorem insertSettlement_kept (row : SettlementRow) : Within BooksKept (insertSettlement row) := by
  intro s u s' h
  obtain ⟨-, -, -, rfl⟩ := insertSettlement_eq_ok.1 h
  exact ⟨rfl, List.subset_append_left _ _, rfl⟩

theorem insertSession_kept (row : SessionRow) : Within BooksKept (insertSession row) := by
  intro s u s' h
  obtain ⟨-, -, -, -, -, -, -, rfl⟩ := insertSession_eq_ok.1 h
  exact (BooksKept.onGame _ s).put _

theorem updateSession_kept (gameId : String) (lifecycle : SessionLifecycle)
    (f : SessionRow → SessionRow) : Within BooksKept (updateSession gameId lifecycle f) := by
  intro s u s' h
  obtain ⟨-, -, rfl⟩ := updateSession_eq_ok.1 h
  exact ((BooksKept.onGame _ s).put _).put _

theorem insertPlayer_kept (row : PlayerRow) : Within BooksKept (insertPlayer row) := by
  intro s u s' h
  obtain ⟨-, -, -, -, -, -, -, rfl⟩ := insertPlayer_eq_ok.1 h
  exact (BooksKept.onGame _ s).put _

theorem deletePlayers_kept (p : PlayerRow → Prop) [DecidablePred p] :
    Within BooksKept (deletePlayers p) := by
  intro s u s' h
  rw [deletePlayers_eq_ok.1 h]
  exact BooksKept.onGame _ s

theorem insertJoinIntent_kept (row : JoinIntentRow) : Within BooksKept (insertJoinIntent row) := by
  intro s u s' h
  obtain ⟨-, -, -, -, -, rfl⟩ := insertJoinIntent_eq_ok.1 h
  exact BooksKept.onGame _ s

theorem updateJoinIntents_kept (p : JoinIntentRow → Prop) [DecidablePred p]
    (status : JoinIntentStatus → JoinIntentStatus) (now : ℤ) :
    Within BooksKept (updateJoinIntents p status now) := by
  intro s u s' h
  obtain ⟨-, -, rfl⟩ := updateJoinIntents_eq_ok.1 h
  exact BooksKept.onGame _ s

theorem insertTicket_kept (row : TicketRow) : Within BooksKept (insertTicket row) := by
  intro s u s' h
  obtain ⟨-, -, -, -, -, -, rfl⟩ := insertTicket_eq_ok.1 h
  exact BooksKept.onGame _ s

theorem updateTickets_kept (p : TicketRow → Prop) [DecidablePred p] (f : TicketRow → TicketRow) :
    Within BooksKept (updateTickets p f) := by
  intro s u s' h
  obtain ⟨-, -, -, -, rfl⟩ := updateTickets_eq_ok.1 h
  exact BooksKept.onGame _ s

theorem insertHistory_kept (row : HistoryRow) : Within BooksKept (insertHistory row) := by
  intro s u s' h
  obtain ⟨-, -, rfl⟩ := insertHistory_eq_ok.1 h
  exact BooksKept.onReadModel _ s

theorem insertHistoryIfAbsent_kept (row : HistoryRow) :
    Within BooksKept (insertHistoryIfAbsent row) :=
  .bind (within_select _) fun _ => .ite (.pure _) (insertHistory_kept row)

theorem modifyReadModel_kept (f : ReadModel → ReadModel) : Within BooksKept (modifyReadModel f) := by
  intro s u s' h
  rw [modifyReadModel_eq_ok.1 h]
  exact BooksKept.onReadModel f s

theorem upsertLeaderboard_kept (row : LeaderboardRow) :
    Within BooksKept (upsertLeaderboard row) := by
  refine .bind (within_select _) fun leaderboard => .bind (.check _ _) fun _ => ?_
  cases leaderboard.find? fun other => other.userId = row.userId with
  | none => exact .bind (.check _ _) fun _ => modifyReadModel_kept _
  | some old => exact .bind (.check _ _) fun _ => modifyReadModel_kept _

/-! Reading. -/

theorem lockAccount_kept : Within BooksKept (lockAccount userId) :=
  .bind (within_select _) fun _ => .checkSome _ _

theorem lockSession_kept (gameId : String) : Within BooksKept (lockSession gameId) :=
  .bind (within_select _) fun _ => .checkSome _ _

theorem lockAccounts_kept (userIds : List String) (message : String) :
    Within BooksKept (lockAccounts userIds message) :=
  .bind (within_select _) fun _ => .check _ _

theorem findOperation_kept (scope : OperationScope) (key : String) :
    Within BooksKept (findOperation userId scope key) :=
  .bind (within_select _) fun _ => .pure _

theorem assertReplay_kept (operation : OperationRow) (hash : String) (status : OperationStatus) :
    Within BooksKept (assertReplay operation hash status) :=
  .bind (.check _ _) fun _ => .check _ _

theorem assertNoOpReplay_kept (operation : OperationRow) (hash : String) :
    Within BooksKept (assertNoOpReplay operation hash) :=
  .bind (.check _ _) fun _ => .check _ _

theorem parseAdmission_kept (snapshot : Option ResponseSnapshot) :
    Within BooksKept (parseAdmission snapshot) := by
  rcases snapshot with _ | ⟨_ | _ | _ | _⟩
  case some.admission logical => exact .pure logical
  all_goals exact .fail _

theorem parseOperation_kept (snapshot : Option ResponseSnapshot) :
    Within BooksKept (parseOperation snapshot) := by
  rcases snapshot with _ | ⟨_ | _ | _ | _⟩
  case some.operation operationId => exact .pure (⟨operationId⟩ : OperationResponse)
  all_goals exact .fail _

theorem parseTicket_kept (snapshot : Option ResponseSnapshot) :
    Within BooksKept (parseTicket snapshot) := by
  rcases snapshot with _ | ⟨_ | _ | _ | _⟩
  case some.ticket response => exact .pure response
  all_goals exact .fail _

theorem admissionResponse_kept (logical : LogicalAdmission) (ticket : String) (expiresAt : ℤ) :
    Within BooksKept (admissionResponse logical ticket expiresAt) :=
  .bind (within_select _) fun _ => .bind (.checkSome _ _) fun _ => .pure _

theorem issueTicket_kept (logical : LogicalAdmission) :
    Within BooksKept (issueTicket digests settings userId logical fresh now) :=
  insertTicket_kept _

theorem reissueAdmission_kept (logical : LogicalAdmission) :
    Within BooksKept (reissueAdmission digests settings logical fresh now) := by
  refine .bind (lockSession_kept _) fun session => .bind (.check _ _) fun _ =>
    .bind (within_select _) fun db => .bind (.checkSome _ _) fun reservation => ?_
  cases hfind : db.game.tickets.find? fun row =>
      row.reservationId = logical.reservationId ∧ row.consumption = none with
  | some current =>
    simp only
    exact .bind (updateTickets_kept _ _) fun _ => admissionResponse_kept _ _ _
  | none =>
    simp only
    exact .bind (issueTicket_kept logical) fun _ => admissionResponse_kept _ _ _

open Classical in
theorem requireNoRoom_kept (expected : Option RoomBinding) (gameId message : String) :
    Within BooksKept (requireNoRoom expected gameId message) := by
  cases expected with
  | some binding => exact .pure _
  | none => exact .bind (within_select _) fun _ => .check _ _

theorem requireBinding_kept (expected : Option RoomBinding) (gameId : String)
    (session : SessionRow) (seat : PlayerRow → Prop) [DecidablePred seat]
    (roomMessage seatMessage : String) :
    Within BooksKept
      (requireBinding expected gameId userId session seat roomMessage seatMessage) := by
  cases expected with
  | none => exact .pure _
  | some binding => exact .bind (.check _ _) fun _ => .bind (within_select _) fun _ => .check _ _

end Kept

/-! ### Moving and entering -/

theorem Books.moveAccount {needs : AccountRow → Prop} [DecidablePred needs]
    {available reserved : ℤ} {account : AccountRow} {s s' : Working}
    (hs : Books digests opened rs gap s)
    (h : updateAccount userId needs (AccountRow.move available reserved) s =
      .ok (some account, s')) :
    Books digests opened rs (gap.move userId available reserved) s' :=
  hs.move (f := AccountRow.move available reserved) (fun _ => ⟨rfl, rfl, rfl⟩) h

theorem moveCoin_books {needs : AccountRow → Prop} [DecidablePred needs] {available reserved : ℤ}
    {failure : Failure} :
    Triple (Books digests opened rs gap) (moveCoin userId needs available reserved failure)
      fun _ => Books digests opened rs (gap.move userId available reserved) := by
  intro s u s' hs h
  obtain ⟨updated, m, hupdate, hcheck⟩ := bind_eq_ok.1 h
  obtain ⟨hsome, rfl⟩ := check_eq_ok.1 hcheck
  obtain ⟨account, rfl⟩ := Option.isSome_iff_exists.1 hsome
  exact hs.moveAccount hupdate

/-- The ledger account of a user is one of those that provisioning has opened. -/
theorem ledgerAccount_ok {kind : LedgerKind} {message id : String} {s s' : Working}
    (h : ledgerAccount userId kind message s = .ok (id, s')) :
    s' = s ∧ ∃ l ∈ s.db.economy.ledgerAccounts, l.ownerUserId = some userId ∧ l.kind = kind ∧
      l.id = id := by
  simp only [ledgerAccount, select_bind, checkSome_bind_eq_ok, pure_eq_ok] at h
  obtain ⟨l, hfind, rfl, rfl⟩ := h
  have howner := List.find?_some hfind
  rw [decide_eq_true_iff] at howner
  exact ⟨rfl, l, List.mem_of_find?_eq_some hfind, howner.1, howner.2, rfl⟩

/-- An entry on the ledger account of a user. -/
theorem Books.enterUser {s s' : Working} {u : Unit} (hs : Books digests opened rs gap s)
    {l : LedgerAccountRow} (hl : l ∈ s.db.economy.ledgerAccounts)
    (howner : l.ownerUserId = some userId) {amount : ℤ}
    (h : insertEntry ⟨operationId, l.id, amount⟩ s = .ok (u, s')) :
    Books digests opened rs (gap.enter l amount) s' := by
  refine hs.enter hl (fun hissuance => ?_) h
  rw [hissuance] at howner
  cases howner

theorem insertEntry_ledgerAccounts {row : LedgerEntryRow} {s s' : Working} {u : Unit}
    (h : insertEntry row s = .ok (u, s')) :
    s'.db.economy.ledgerAccounts = s.db.economy.ledgerAccounts := by
  obtain ⟨-, -, -, -, rfl⟩ := insertEntry_eq_ok.1 h
  rfl

/-- Entering what was moved leaves the gap to the reservations. -/
theorem enterMove_books {available reserved : ℤ} {missing : String} :
    Triple (Books digests opened rs (gap.move userId available reserved))
      (enterMove operationId userId available reserved missing)
      fun _ => Books digests opened rs (gap.reserve userId (-reserved)) := by
  intro s u s' hs h
  simp only [enterMove, bind_eq_ok] at h
  obtain ⟨_, _, hledger, _, _, hledger', _, m, henter, henter'⟩ := h
  obtain ⟨rfl, l, hl, howner, hkind, rfl⟩ := ledgerAccount_ok hledger
  obtain ⟨rfl, l', hl', howner', hkind', rfl⟩ := ledgerAccount_ok hledger'
  have hfirst := hs.enterUser hl howner henter
  have hboth := hfirst.enterUser (insertEntry_ledgerAccounts henter ▸ hl') howner' henter'
  rwa [Gap.enter_move ⟨howner, hkind⟩ ⟨howner', hkind'⟩] at hboth

/-! ### Releasing and capturing -/

/-- Closing a row that was read leaves its amount to be given back or captured. -/
theorem closeReservation_books {r : ReservationRow} (hr : r ∈ rs) {status : ReservationStatus} :
    Triple (Books digests opened rs (gap.reserve r.userId r.amount))
      (closeReservation r.id status operationId now) fun _ => Books digests opened rs gap := by
  intro s u s' hs h
  have hclosed := hs.close hr h
  rwa [Gap.reserve_reserve_neg] at hclosed

/-- A row that was read has an amount that is not negative. -/
theorem Books.amount_nonneg {s : Working} (hs : Books digests opened rs gap s)
    {r : ReservationRow} (hr : r ∈ rs) : 0 ≤ r.amount := by
  obtain ⟨row, hrow, -, -, hamount⟩ := hs.carried r hr
  exact hamount ▸ (hs.holder row hrow).1

/-- The state before a reservation is closed, when what it holds has been moved if it is not zero. -/
theorem Books.unmoved {s : Working} (hs : Books digests opened rs gap s)
    {r : ReservationRow} (hr : r ∈ rs) (hamount : ¬ 0 < r.amount) :
    Books digests opened rs (gap.reserve r.userId r.amount) s := by
  have hzero : r.amount = 0 := le_antisymm (not_lt.1 hamount) (hs.amount_nonneg hr)
  rwa [hzero, Gap.reserve_zero]

theorem giveBack_books {r : ReservationRow} (hr : r ∈ rs) {missing : String} :
    Keeps (Books digests opened rs gap) (giveBack missing operationId r now) := by
  have hclose : Triple (Books digests opened rs (gap.reserve r.userId r.amount))
      (closeReservation r.id .released operationId now) fun _ => Books digests opened rs gap :=
    closeReservation_books hr
  refine .ite (fun _ => .bind moveCoin_books fun _ => .bind enterMove_books fun _ => ?_)
    fun hamount => hclose.pre fun s => (Books.unmoved · hr hamount)
  rw [neg_neg]
  exact hclose

theorem captureReservation_books {r : ReservationRow} (hr : r ∈ rs) :
    Keeps (Books digests opened rs gap) (captureReservation operationId r now) := by
  have hclose : Triple (Books digests opened rs (gap.reserve r.userId r.amount))
      (closeReservation r.id .captured operationId now) fun _ => Books digests opened rs gap :=
    closeReservation_books hr
  refine .ite (fun _ => .bind moveCoin_books fun _ => ?_)
    fun hamount => hclose.pre fun s => (Books.unmoved · hr hamount)
  intro s u s' hs h
  simp only [bind_eq_ok] at h
  obtain ⟨_, _, hledger, _, m, henter, h⟩ := h
  obtain ⟨rfl, l, hl, howner, hkind, rfl⟩ := ledgerAccount_ok hledger
  have hentered := hs.enterUser hl howner henter
  rw [Gap.enter_moveReserved ⟨howner, hkind⟩, neg_neg] at hentered
  exact hclose m u s' hentered h

/-- The winner is one of those whose reservations were read, and so has an account. -/
theorem creditWinner_books {r : ReservationRow} (hr : r ∈ rs) {amount : ℤ} :
    Keeps (Books digests opened rs gap) (creditWinner operationId r.userId amount) := by
  intro s u s' hs h
  simp only [creditWinner, bind_eq_ok] at h
  obtain ⟨updated, m, hupdate, _, _, hledger, henter⟩ := h
  obtain ⟨rfl, l, hl, howner, hkind, rfl⟩ := ledgerAccount_ok hledger
  cases updated with
  | none =>
    obtain ⟨row, hrow, -, huser, -⟩ := hs.carried r hr
    obtain ⟨-, account, hmem, hid⟩ := hs.holder row hrow
    exact absurd (hid.trans huser) (updateAccount_none hupdate account hmem)
  | some account =>
    have hmoved := hs.moveAccount hupdate
    have hentered := hmoved.enterUser hl howner henter
    rwa [Gap.enter_moveAvailable ⟨howner, hkind⟩] at hentered

/-! ### Reserving -/

def HasAccount (userId : String) (s : Working) : Prop :=
  ∃ account ∈ s.db.economy.accounts, account.userId = userId

theorem HasAccount.of_eq {s s' : Working} (h : HasAccount userId s)
    (heq : s'.db.economy.accounts = s.db.economy.accounts) : HasAccount userId s' := by
  rwa [HasAccount, heq]

theorem BooksKept.hasAccount {s s' : Working} (hkept : BooksKept s s') (h : HasAccount userId s) :
    HasAccount userId s' :=
  h.of_eq (by rw [hkept.economy])

theorem lockAccount_ok {account : AccountRow} {s s' : Working}
    (h : lockAccount userId s = .ok (account, s')) : s' = s ∧ HasAccount userId s := by
  simp only [lockAccount, select_bind, checkSome_eq_ok] at h
  obtain ⟨hfind, rfl⟩ := h
  exact ⟨rfl, account, find?_key_eq_some hfind⟩

theorem moveCoin_hasAccount {needs : AccountRow → Prop} [DecidablePred needs]
    {available reserved : ℤ} {failure : Failure} {s s' : Working} {u : Unit}
    (h : moveCoin userId needs available reserved failure s = .ok (u, s')) :
    HasAccount userId s' := by
  obtain ⟨updated, m, hupdate, hcheck⟩ := bind_eq_ok.1 h
  obtain ⟨hsome, rfl⟩ := check_eq_ok.1 hcheck
  obtain ⟨rfl, -⟩ | ⟨account, hmem, hid, -, -, -, -, rfl⟩ := updateAccount_ok hupdate
  · cases hsome
  · exact ⟨_, mem_updateWhere_of hmem hid, hid⟩

theorem enterMove_accounts {available reserved : ℤ} {missing : String} {s s' : Working} {u : Unit}
    (h : enterMove operationId userId available reserved missing s = .ok (u, s')) :
    s'.db.economy.accounts = s.db.economy.accounts := by
  simp only [enterMove, bind_eq_ok] at h
  obtain ⟨_, _, hledger, _, _, hledger', _, m, henter, henter'⟩ := h
  obtain ⟨rfl, -⟩ := ledgerAccount_ok hledger
  obtain ⟨rfl, -⟩ := ledgerAccount_ok hledger'
  obtain ⟨-, -, -, -, rfl⟩ := insertEntry_eq_ok.1 henter
  obtain ⟨-, -, -, -, rfl⟩ := insertEntry_eq_ok.1 henter'
  rfl

/-- What was moved to the reserved balance and entered there is reserved. -/
theorem reserveAndSeat_books (logical : LogicalAdmission) (seatIndex : ℕ) (amount : ℤ) :
    Triple (fun s => Books digests opened rs gap s ∧ HasAccount userId s)
      (reserveAndSeat operationId userId logical seatIndex amount fresh now)
      fun _ => Books digests opened rs gap := by
  have hseat : ∀ ahead : Gap, ahead.reserve userId amount = gap → ∀ s u s',
      Books digests opened rs ahead s → HasAccount userId s → (do
        insertReservation ⟨logical.reservationId, operationId, userId, logical.gameId, amount,
          .reserved, now, none, none⟩
        insertPlayer ⟨logical.gameId, logical.playerId, userId, seatIndex, logical.reservationId,
          true, now⟩
        insertJoinIntent ⟨fresh.joinIntentId, logical.gameId, userId, logical.reservationId,
          .admitted, now, now⟩ : ApiTx Unit) s = .ok (u, s') →
      Books digests opened rs gap s' := by
    intro ahead hahead s u s' hs hholder h
    simp only [bind_eq_ok] at h
    obtain ⟨_, m, hreserve, _, m', hplayer, hintent⟩ := h
    have hreserved := hs.reserve rfl (by exact hholder) hreserve
    rw [hahead] at hreserved
    exact (hreserved.kept (insertPlayer_kept _ _ _ _ hplayer)).kept
      (insertJoinIntent_kept _ _ _ _ hintent)
  rintro s u s' ⟨hs, hholder⟩ h
  rw [reserveAndSeat] at h
  rcases ite_eq_ok.1 h with ⟨-, h⟩ | ⟨hamount, h⟩
  · obtain ⟨_, m, hmove, h⟩ := bind_eq_ok.1 h
    obtain ⟨_, m', henter, h⟩ := bind_eq_ok.1 h
    have hentered := enterMove_books m _ m' (moveCoin_books s _ m hs hmove) henter
    exact hseat _ Gap.reserve_neg_reserve m' u s' hentered
      ((moveCoin_hasAccount hmove).of_eq (enterMove_accounts henter)) h
  · have hzero : amount = 0 := by
      obtain ⟨_, m, hreserve, -⟩ := bind_eq_ok.1 h
      obtain ⟨-, -, -, -, ⟨hnonneg, -⟩, -, -⟩ := insertReservation_eq_ok.1 hreserve
      exact le_antisymm (not_lt.1 hamount) hnonneg
    exact hseat gap (by rw [hzero, Gap.reserve_zero]) s u s' hs hholder h

/-! ### Granting -/

/-- The ledger account that a grant enters is the one of its user. -/
theorem Books.userLedger {s : Working} (hs : Books digests opened rs gap s)
    (hbare : gap.bare = none) (hholder : HasAccount userId s) :
    ∃ l ∈ s.db.economy.ledgerAccounts, l.id = ledgerAccountId digests userId .userAvailable ∧
      l.ownerUserId = some userId ∧ l.kind = .userAvailable := by
  obtain ⟨account, hmem, rfl⟩ := hholder
  have hboth := (hs.ledgered account hmem).resolve_left (by simp [hbare])
  obtain ⟨l, hl, howner, hkind⟩ := hboth .userAvailable (.inl rfl)
  refine ⟨l, hl, ?_, howner, hkind⟩
  rcases hs.named l hl with rfl | ⟨other, -, kind, -, rfl⟩
  · cases howner
  · rw [show other.userId = account.userId from Option.some.inj howner, show kind = _ from hkind]

/-- The operation that a grant belongs to issues Coin. -/
def Issues (operationId : String) (s : Working) : Prop :=
  ∃ operation ∈ s.db.economy.operations, operation.id = operationId ∧ operation.scope.IsGrant

theorem applyGrant_books {amount : ℤ} {rescue : Bool} :
    Triple (fun s => Books digests (some operationId) rs .none s ∧ HasAccount userId s ∧
        Issues operationId s)
      (applyGrant digests userId operationId amount now rescue)
      fun _ => Books digests (if rescue then some operationId else none) rs .none := by
  rintro s granted s' ⟨hs, hholder, hissues⟩ h
  rw [applyGrant, bind_eq_ok] at h
  obtain ⟨updated, m, hupdate, h⟩ := h
  rw [bind_eq_ok] at h
  obtain ⟨_, m₁, henter, h⟩ := h
  rw [bind_eq_ok] at h
  obtain ⟨_, m₂, hissue, h⟩ := h
  rw [checkSome_bind_eq_ok] at h
  obtain ⟨account, rfl, h⟩ := h
  have hmoved : Books digests (some operationId) rs (Gap.none.move userId amount 0) m :=
    hs.move (by exact fun _ => ⟨rfl, rfl, rfl⟩) hupdate
  obtain ⟨l, hl, hid, howner, hkind⟩ := hs.userLedger rfl hholder
  obtain ⟨hledgers, hoperations⟩ : m.db.economy.ledgerAccounts = s.db.economy.ledgerAccounts ∧
      m.db.economy.operations = s.db.economy.operations := by
    obtain ⟨-, rfl⟩ | ⟨-, -, -, -, -, -, -, rfl⟩ := updateAccount_ok hupdate
    · exact ⟨rfl, rfl⟩
    · exact ⟨rfl, rfl⟩
  rw [← hid] at henter
  have hentered := hmoved.enterUser (hledgers ▸ hl) howner henter
  rw [Gap.enter_moveAvailable ⟨howner, hkind⟩] at hentered
  have hissued : Books digests (some operationId) rs .none m₂ := by
    obtain ⟨-, -, ⟨l', hl', hid'⟩, -, -⟩ := insertEntry_eq_ok.1 hissue
    obtain rfl := hentered.eq_issuance hl' hid'
    have hgrant : ∃ operation ∈ m₁.db.economy.operations, operation.id = operationId ∧
        operation.scope.IsGrant := by
      obtain ⟨-, -, -, -, rfl⟩ := insertEntry_eq_ok.1 henter
      exact hoperations ▸ hissues
    have hboth := hentered.enter hl' (fun _ => hgrant) hissue
    rwa [Gap.enter_issuance] at hboth
  cases rescue with
  | true =>
    obtain ⟨-, rfl⟩ := pure_eq_ok.1 h
    exact hissued
  | false =>
    rw [if_pos rfl, bind_eq_ok] at h
    obtain ⟨_, m₃, hcommit, h⟩ := h
    obtain ⟨-, rfl⟩ := pure_eq_ok.1 h
    exact hissued.commitOperation hcommit

/-! ### Provisioning -/

/-- The ledger accounts of a user may still be to come. -/
theorem Books.bare {s : Working} (hs : Books digests opened rs .none s) (userId : String) :
    Books digests opened rs { Gap.none with bare := some userId } s :=
  { hs with ledgered := fun account hmem => .inr ((hs.ledgered account hmem).resolve_left nofun) }

/-- They are not, once both are there. -/
theorem Books.ledgers {s : Working}
    (hs : Books digests opened rs { Gap.none with bare := some userId } s)
    (hboth : ∀ kind, kind = .userAvailable ∨ kind = .userReserved →
      ∃ l ∈ s.db.economy.ledgerAccounts, l.ownerUserId = some userId ∧ l.kind = kind) :
    Books digests opened rs .none s := by
  refine { hs with ledgered := fun account hmem => .inr ?_ }
  rcases hs.ledgered account hmem with hid | hledgers
  · rwa [← Option.some.inj hid]
  · exact hledgers

theorem insertAccountIfAbsent_hasAccount {s s' : Working} {u : Unit}
    (h : insertAccountIfAbsent userId s = .ok (u, s')) : HasAccount userId s' := by
  obtain ⟨hold, rfl⟩ | ⟨-, -, rfl⟩ := insertAccountIfAbsent_eq_ok.1 h
  · exact hold
  · exact ⟨_, List.mem_append_right _ (List.mem_singleton_self _), rfl⟩

theorem ensureAccountInfrastructure_books :
    Triple (Books digests opened rs .none) (ensureAccountInfrastructure digests userId)
      fun _ s => Books digests opened rs .none s ∧ HasAccount userId s := by
  intro s u s' hs h
  simp only [ensureAccountInfrastructure, bind_eq_ok] at h
  obtain ⟨_, m, haccount, _, m₁, havailable, _, m₂, hreserved, hissuance⟩ := h
  have hholder := insertAccountIfAbsent_hasAccount haccount
  have hm : Books digests opened rs { Gap.none with bare := some userId } m :=
    (hs.insertAccount haccount).elim (·.bare userId) id
  have hnamed : ∀ {t : Working}, HasAccount userId t → ∀ kind,
      kind = .userAvailable ∨ kind = .userReserved → ∃ account ∈ t.db.economy.accounts,
        ∃ kind', (kind' = .userAvailable ∨ kind' = .userReserved) ∧
          (⟨ledgerAccountId digests userId kind, some userId, kind⟩ : LedgerAccountRow) =
            ⟨ledgerAccountId digests account.userId kind', some account.userId, kind'⟩ := by
    rintro t ⟨account, hmem, rfl⟩ kind hkind
    exact ⟨account, hmem, kind, hkind, rfl⟩
  obtain ⟨hm₁, haccounts₁, -, l, hl, howner⟩ :=
    hm.insertLedgerAccount (.inr (hnamed hholder _ (.inl rfl))) havailable
  have hholder₁ := hholder.of_eq haccounts₁
  obtain ⟨hm₂, haccounts₂, hsub, l', hl', howner'⟩ :=
    hm₁.insertLedgerAccount (.inr (hnamed hholder₁ _ (.inr rfl))) hreserved
  have hclosed : Books digests opened rs .none m₂ := by
    refine hm₂.ledgers fun kind hkind => ?_
    rcases hkind with rfl | rfl
    · exact ⟨l, hsub hl, howner.elim id fun heq => heq ▸ ⟨rfl, rfl⟩⟩
    · exact ⟨l', hl', howner'.elim id fun heq => heq ▸ ⟨rfl, rfl⟩⟩
  obtain ⟨hs', haccounts, -⟩ := hclosed.insertLedgerAccount (.inl rfl) hissuance
  exact ⟨hs', (hholder₁.of_eq haccounts₂).of_eq haccounts⟩

theorem lockAccountRow_ok {account : AccountRow} {s s' : Working}
    (h : lockAccountRow userId s = .ok (account, s')) : s' = s ∧ HasAccount userId s := by
  simp only [lockAccountRow, select_bind, checkSome_eq_ok] at h
  obtain ⟨hfind, rfl⟩ := h
  exact ⟨rfl, account, find?_key_eq_some hfind⟩

/-- A new operation that issues Coin. -/
theorem insertGrant_books {row : OperationRow} {s s' : Working} {u : Unit}
    (hs : Books digests none rs .none s) (hholder : HasAccount userId s)
    (hgrant : row.scope.IsGrant) (hinsert : insertOperation row s = .ok (u, s')) :
    Books digests (some row.id) rs .none s' ∧ HasAccount userId s' ∧ Issues row.id s' := by
  refine ⟨hs.insertOperation (by simp) (fun _ => rfl) hinsert, ?_⟩
  obtain ⟨-, -, -, rfl⟩ := insertOperation_eq_ok.1 hinsert
  exact ⟨hholder, row, List.mem_append_right _ (List.mem_singleton_self _), rfl, hgrant⟩

theorem provisionUser_books :
    Keeps (Books digests none rs .none) (provisionUser digests settings userId fresh now) := by
  intro s balance s' hs h
  rw [provisionUser, bind_eq_ok] at h
  obtain ⟨_, m, hensure, h⟩ := h
  rw [bind_eq_ok] at h
  obtain ⟨account, _, hlock, h⟩ := h
  rw [bind_eq_ok] at h
  obtain ⟨inserted, m₁, hinsert, h⟩ := h
  obtain ⟨hm, hholder⟩ := ensureAccountInfrastructure_books s _ m hs hensure
  obtain ⟨rfl, -⟩ := lockAccountRow_ok hlock
  obtain ⟨rfl, rfl⟩ | ⟨rfl, hoperation⟩ := insertOperationIfAbsent_ok hinsert
  · obtain ⟨-, rfl⟩ := pure_eq_ok.1 h
    exact hm
  · rw [if_pos rfl, bind_eq_ok] at h
    obtain ⟨granted, m₂, hgrant, h⟩ := h
    obtain ⟨-, rfl⟩ := pure_eq_ok.1 h
    exact applyGrant_books _ _ _ (insertGrant_books hm hholder (.inl rfl) hoperation) hgrant

end Pootown.Api
