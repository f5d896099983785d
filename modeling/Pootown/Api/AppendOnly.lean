import Mathlib.Tactic
import Pootown.Api.SeatedReservations
import Pootown.Api.StatementFrames

/-!
# What is written once

The ledger, the settlements and the history only grow; an operation that is no longer pending, a
reservation that is no longer open and the end of a session are final.

* `Grows`, `grows_statements`: every kind of statement keeps them;
* `books_append_only`: along every run.
-/

namespace Pootown.Api

open Tables Transactions Runs

/-- The key of an operation. -/
def OperationRow.key (row : OperationRow) : String × OperationScope × String :=
  (row.actorUserId, row.scope, row.idempotencyKey)

/-- What an operation says from the first: its key, and the digest of its request. -/
def OperationRow.request (row : OperationRow) : String × OperationScope × String × String :=
  (row.actorUserId, row.scope, row.idempotencyKey, row.requestHash)

/-- What is written once stays: from `s` to `s'` rows have been added, and only what was still
pending or open has changed. -/
structure Grows (s s' : Working) : Prop where
  ledgerAccounts : s.db.economy.ledgerAccounts <+: s'.db.economy.ledgerAccounts
  ledgerEntries : s.db.economy.ledgerEntries <+: s'.db.economy.ledgerEntries
  settlements : s.db.economy.settlements <+: s'.db.economy.settlements
  history : s.db.readModel.history <+: s'.db.readModel.history
  requests : s.db.economy.operations.map OperationRow.request <+:
    s'.db.economy.operations.map OperationRow.request
  keys : (s.db.economy.operations.map OperationRow.key).Nodup →
    (s'.db.economy.operations.map OperationRow.key).Nodup
  operations : ∀ operation ∈ s.db.economy.operations, operation.status ≠ .pending →
    operation ∈ s'.db.economy.operations ∧
      entriesOf s'.db.economy operation.id = entriesOf s.db.economy operation.id
  reservations : ∀ r ∈ s.db.economy.reservations, r.status ≠ .reserved →
    r ∈ s'.db.economy.reservations
  amounts : ∀ r ∈ s.db.economy.reservations, ∃ r' ∈ s'.db.economy.reservations,
    r'.id = r.id ∧ r'.amount = r.amount
  sessions : ∀ session ∈ s.db.game.sessions, ∃ session' ∈ s'.db.game.sessions,
    session'.id = session.id ∧ session'.creatorUserId = session.creatorUserId ∧
      (session.lifecycle = .settled ∨ session.lifecycle = .cancelled →
        session'.lifecycle = session.lifecycle)

instance : Std.Refl Grows := ⟨fun _ => {
  ledgerAccounts := List.prefix_refl _
  ledgerEntries := List.prefix_refl _
  settlements := List.prefix_refl _
  history := List.prefix_refl _
  requests := List.prefix_refl _
  keys := id
  operations := fun _ hmem _ => ⟨hmem, rfl⟩
  reservations := fun _ hmem _ => hmem
  amounts := fun r hmem => ⟨r, hmem, rfl, rfl⟩
  sessions := fun session hmem => ⟨session, hmem, rfl, rfl, fun _ => rfl⟩ }⟩

instance : IsTrans Working Grows := ⟨fun s s' s'' h h' => {
  ledgerAccounts := h.ledgerAccounts.trans h'.ledgerAccounts
  ledgerEntries := h.ledgerEntries.trans h'.ledgerEntries
  settlements := h.settlements.trans h'.settlements
  history := h.history.trans h'.history
  requests := h.requests.trans h'.requests
  keys := h'.keys ∘ h.keys
  operations := by
    intro operation hmem hstatus
    obtain ⟨hmem', hentries⟩ := h.operations operation hmem hstatus
    obtain ⟨hmem'', hentries'⟩ := h'.operations operation hmem' hstatus
    exact ⟨hmem'', hentries'.trans hentries⟩
  reservations := fun r hmem hclosed =>
    h'.reservations r (h.reservations r hmem hclosed) hclosed
  amounts := by
    intro r hmem
    obtain ⟨r', hmem', hid, hamount⟩ := h.amounts r hmem
    obtain ⟨r'', hmem'', hid', hamount'⟩ := h'.amounts r' hmem'
    exact ⟨r'', hmem'', hid'.trans hid, hamount'.trans hamount⟩
  sessions := by
    intro session hmem
    obtain ⟨session', hmem', hid, hcreator, hended⟩ := h.sessions session hmem
    obtain ⟨session'', hmem'', hid', hcreator', hended'⟩ := h'.sessions session' hmem'
    refine ⟨session'', hmem'', hid'.trans hid, hcreator'.trans hcreator, fun hlifecycle => ?_⟩
    rw [hended' (by rwa [hended hlifecycle]), hended hlifecycle] }⟩

/-! ### Statements -/

section Statements

variable {s s' : Working} {u : Unit}

/-- Nothing that is written once has been touched. -/
theorem Grows.of_eq (heconomy : s'.db.economy = { s.db.economy with
      accounts := s'.db.economy.accounts })
    (hsessions : s'.db.game.sessions = s.db.game.sessions)
    (hhistory : s'.db.readModel.history = s.db.readModel.history) : Grows s s' := by
  constructor
  case history => rw [hhistory]
  case sessions =>
    intro session hmem
    exact ⟨session, hsessions ▸ hmem, rfl, rfl, fun _ => rfl⟩
  case keys =>
    rw [heconomy]
    exact id
  case operations =>
    intro operation hmem _
    rw [heconomy]
    exact ⟨hmem, rfl⟩
  case reservations =>
    intro r hmem _
    rw [heconomy]
    exact hmem
  case amounts =>
    intro r hmem
    rw [heconomy]
    exact ⟨r, hmem, rfl, rfl⟩
  all_goals rw [heconomy]

theorem insertOperation_grows (row : OperationRow) : Within Grows (insertOperation row) := by
  intro s u s' h
  obtain ⟨-, hkey, -, rfl⟩ := insertOperation_eq_ok.1 h
  refine { Std.Refl.refl (r := Grows) s with
    requests := ?_
    keys := fun hnodup => nodup_append_key hnodup fun old hold heq => hkey old hold ?_
    operations := fun operation hmem _ => ⟨List.mem_append_left _ hmem, rfl⟩ }
  · exact ⟨[row.request], by simp [Working.put, Working.onEconomy]⟩
  · simpa [OperationRow.key, sameKey] using heq

theorem commitOperation_grows (operationId : String) (response : ResponseSnapshot) :
    Within Grows (commitOperation operationId response) := by
  intro s u s' h
  obtain ⟨hpending, rfl⟩ := commitOperation_eq_ok.1 h
  have hmap : ∀ {β : Type} (g : OperationRow → β), (∀ row, g (row.commit response) = g row) →
      (updateWhere (fun row => row.id = operationId) (·.commit response)
        s.db.economy.operations).map g = s.db.economy.operations.map g :=
    fun g hg => map_updateWhere fun row _ _ => hg row
  exact { Std.Refl.refl (r := Grows) s with
    requests := (hmap OperationRow.request fun _ => rfl) ▸ List.prefix_refl _
    keys := (hmap OperationRow.key fun _ => rfl) ▸ id
    operations := fun operation hmem hstatus =>
      ⟨mem_updateWhere_of_not hmem fun hid => hstatus (hpending operation hmem hid), rfl⟩ }

/-- An entry is made under a pending operation, so those of the others stay. -/
theorem insertEntry_grows (row : LedgerEntryRow) : Within Grows (insertEntry row) := by
  intro s u s' h
  obtain ⟨hpending, -, -, -, rfl⟩ := insertEntry_eq_ok.1 h
  refine { Std.Refl.refl (r := Grows) s with
    ledgerEntries := List.prefix_append _ _
    operations := fun operation hmem hstatus => ⟨hmem, ?_⟩ }
  have hne : row.operationId ≠ operation.id := fun hid =>
    hstatus (hpending operation hmem hid.symm)
  simp [entriesOf, Working.put, Working.onEconomy, List.filter_append, hne]

theorem closeReservation_grows (reservationId : String) (status : ReservationStatus)
    (operationId : String) (now : ℤ) :
    Within Grows (closeReservation reservationId status operationId now) := by
  intro s u s' h
  obtain ⟨hopen, -, -, rfl⟩ := closeReservation_eq_ok.1 h
  exact { Std.Refl.refl (r := Grows) s with
    reservations := fun r hmem hclosed =>
      mem_updateWhere_of_not hmem fun hid => hclosed (hopen r hmem hid).1
    amounts := fun r hmem => by
      by_cases hid : r.id = reservationId
      · exact ⟨_, mem_updateWhere_of hmem hid, rfl, rfl⟩
      · exact ⟨r, mem_updateWhere_of_not hmem hid, rfl, rfl⟩ }

theorem updateSession_grows (gameId : String) (lifecycle : SessionLifecycle)
    {f : SessionRow → SessionRow}
    (hf : ∀ row, (f row).id = row.id ∧ (f row).creatorUserId = row.creatorUserId) :
    Within Grows (updateSession gameId lifecycle f) := by
  intro s u s' h
  obtain ⟨hvalid, -, rfl⟩ := updateSession_eq_ok.1 h
  refine { Std.Refl.refl (r := Grows) s with sessions := fun session hmem => ?_ }
  by_cases hid : session.id = gameId
  · refine ⟨_, mem_updateWhere_of hmem hid, (hf session).1, (hf session).2, fun hended => ?_⟩
    -- no lifecycle follows the two that end a session
    by_contra hne
    have hnext := (hvalid session hmem hid).1 (Ne.symm hne)
    rcases hended with hended | hended <;> rw [hended] at hnext <;>
      cases lifecycle <;> cases hnext
  · exact ⟨session, mem_updateWhere_of_not hmem hid, rfl, rfl, fun _ => rfl⟩

theorem insertHistory_grows (row : HistoryRow) : Within Grows (insertHistory row) := by
  intro s u s' h
  obtain ⟨-, -, rfl⟩ := insertHistory_eq_ok.1 h
  exact { Std.Refl.refl (r := Grows) s with history := List.prefix_append _ _ }

theorem upsertLeaderboard_grows (row : LeaderboardRow) : Within Grows (upsertLeaderboard row) := by
  intro s u s' h
  obtain ⟨-, rfl⟩ | ⟨-, rfl⟩ := upsertLeaderboard_ok h <;> exact .of_eq rfl rfl rfl

theorem grows_statements : KeptByStatements Grows where
  insertUser userId := .write fun s => .of_eq rfl rfl rfl
  insertAccountIfAbsent userId := by
    intro s u s' h
    obtain ⟨-, rfl⟩ | ⟨-, -, rfl⟩ := insertAccountIfAbsent_eq_ok.1 h
    · exact Std.Refl.refl _
    · exact .of_eq rfl rfl rfl
  updateAccount userId guard _ f _ := by
    intro s result s' h
    obtain ⟨-, rfl⟩ | ⟨account, -, -, -, -, -, -, rfl⟩ := updateAccount_ok h
    · exact Std.Refl.refl _
    · exact .of_eq rfl rfl rfl
  insertLedgerAccountIfAbsent row conflict _ := by
    intro s u s' h
    obtain ⟨-, rfl⟩ | ⟨-, -, rfl⟩ := insertLedgerAccountIfAbsent_ok h
    · exact Std.Refl.refl _
    · exact { Std.Refl.refl (r := Grows) s with ledgerAccounts := List.prefix_append _ _ }
  insertOperation := insertOperation_grows
  commitOperation := commitOperation_grows
  insertEntry := insertEntry_grows
  insertReservation row := by
    intro s u s' h
    obtain ⟨-, -, -, -, -, -, rfl⟩ := insertReservation_eq_ok.1 h
    exact { Std.Refl.refl (r := Grows) s with
      reservations := fun r hmem _ => List.mem_append_left _ hmem
      amounts := fun r hmem => ⟨r, List.mem_append_left _ hmem, rfl, rfl⟩ }
  closeReservation := closeReservation_grows
  insertSettlement row := by
    intro s u s' h
    obtain ⟨-, -, -, rfl⟩ := insertSettlement_eq_ok.1 h
    exact { Std.Refl.refl (r := Grows) s with settlements := List.prefix_append _ _ }
  insertSession row _ := by
    intro s u s' h
    obtain ⟨-, -, -, -, -, -, -, rfl⟩ := insertSession_eq_ok.1 h
    exact { Std.Refl.refl (r := Grows) s with
      sessions := fun session hmem =>
        ⟨session, List.mem_append_left _ hmem, rfl, rfl, fun _ => rfl⟩ }
  updateSession gameId lifecycle f hf := updateSession_grows gameId lifecycle hf
  insertPlayer row := by
    intro s u s' h
    obtain ⟨-, -, -, -, -, -, -, rfl⟩ := insertPlayer_eq_ok.1 h
    exact .of_eq rfl rfl rfl
  deletePlayers p _ := by
    intro s u s' h
    rw [deletePlayers_eq_ok.1 h]
    exact .of_eq rfl rfl rfl
  insertJoinIntent row := by
    intro s u s' h
    obtain ⟨-, -, -, -, -, rfl⟩ := insertJoinIntent_eq_ok.1 h
    exact .of_eq rfl rfl rfl
  updateJoinIntents p _ status now := by
    intro s u s' h
    obtain ⟨-, -, rfl⟩ := updateJoinIntents_eq_ok.1 h
    exact .of_eq rfl rfl rfl
  insertTicket row := by
    intro s u s' h
    obtain ⟨-, -, -, -, -, -, rfl⟩ := insertTicket_eq_ok.1 h
    exact .of_eq rfl rfl rfl
  updateTickets p _ f := by
    intro s u s' h
    obtain ⟨-, -, -, -, rfl⟩ := updateTickets_eq_ok.1 h
    exact .of_eq rfl rfl rfl
  insertHistory row _ := insertHistory_grows row

theorem writeCompletedHistory_grows (gameId winnerUserId : String) (prize now : ℤ)
    (p : Participant) : Within Grows (writeCompletedHistory gameId winnerUserId prize now p) :=
  .bind (insertHistory_grows _) fun _ => upsertLeaderboard_grows _

theorem runCall_grows {digests : Digests} {settings : Settings} {fresh : Fresh} {now : ℤ}
    (call : ApiCall) : Within Grows (runCall digests settings fresh now call) :=
  grows_statements.runCall call fun _ _ _ _ => grows_statements.settle _ _ _ fun _ _ _ =>
    writeCompletedHistory_grows _ _ _ _ _

end Statements

/-! ### Runs -/

section Runs

variable {digests : Digests} {settings : Settings} {codec : Server.Codec} {db db' : Database}

theorem SystemStep.grows {label : SystemLabel}
    (h : SystemStep digests settings codec db label db') : Grows ⟨db, []⟩ ⟨db', []⟩ := by
  cases h with
  | committed hcommit =>
    obtain ⟨s, hcall, -, rfl⟩ := withTransaction_eq_ok.1 hcommit
    exact { runCall_grows _ _ _ _ hcall with }
  | rolledBack => exact Std.Refl.refl _
  | room => exact .of_eq rfl rfl rfl

theorem grows_of_run {labels : List SystemLabel}
    (hrun : Run (SystemStep digests settings codec) db labels db') :
    Grows ⟨db, []⟩ ⟨db', []⟩ := by
  induction hrun with
  | nil => exact Std.Refl.refl _
  | cons hstep _ ih => exact IsTrans.trans _ _ _ hstep.grows ih

end Runs

/-- From any state on, whatever is called and however the calls interleave: the ledger, the
settlements and the history only grow, a committed operation and its entries stay as they are, a
reservation is closed once, and a session that has ended stays so. -/
theorem books_append_only (digests : Digests) (settings : Settings) (codec : Server.Codec)
    {labels : List SystemLabel} {db db' : Database}
    (hrun : Run (SystemStep digests settings codec) db labels db') :
    db.economy.ledgerEntries <+: db'.economy.ledgerEntries ∧
    db.economy.settlements <+: db'.economy.settlements ∧
    db.readModel.history <+: db'.readModel.history ∧
    (∀ operation ∈ db.economy.operations, operation.status ≠ .pending →
      operation ∈ db'.economy.operations ∧
        entriesOf db'.economy operation.id = entriesOf db.economy operation.id) ∧
    (∀ r ∈ db.economy.reservations, r.status ≠ .reserved → r ∈ db'.economy.reservations) ∧
    ∀ session ∈ db.game.sessions, session.lifecycle = .settled ∨ session.lifecycle = .cancelled →
      ∃ session' ∈ db'.game.sessions,
        session'.id = session.id ∧ session'.lifecycle = session.lifecycle := by
  have h := grows_of_run hrun
  refine ⟨h.ledgerEntries, h.settlements, h.history, h.operations, h.reservations,
    fun session hmem hended => ?_⟩
  obtain ⟨session', hmem', hid, -, hstays⟩ := h.sessions session hmem
  exact ⟨session', hmem', hid, hstays hended⟩

/-- What bob's reservation and alice's session have entered is still there when bob has left. -/
theorem books_append_only_two :
    seatedDatabase.economy.ledgerEntries <+:
      (afterCalls [(.releaseJoinIntent "bob" "game" "leave", "leaving", 1004)]
        seatedDatabase).economy.ledgerEntries :=
  (books_append_only plainDigests shortSettings plainCodec (run_afterCalls plainCodec
    [(.releaseJoinIntent "bob" "game" "leave", "leaving", 1004)] seatedDatabase)).1

end Pootown.Api
