import Mathlib.Tactic
import Pootown.Api.StatementRules
import Pootown.Api.Calls

/-!
# The books

Between two transactions the accounts agree with the ledger and with the open reservations. Inside a
transaction they run ahead of them by what has been moved and not yet been entered or reserved: the
gap. Each statement changes the gap of one user by what it moves, enters, reserves or frees, and a
transaction closes every gap that it opens.

* `Gap`, `Books`: the accounts, the ledger and the reservations, up to a gap;
* `Books.move`, `Books.enter`, `Books.reserve`, `Books.close`: what one statement does to the gap;
* `Gap.enter_move`, `Gap.reserve_reserve_neg`: changes that cancel out.
-/

namespace Pootown.Api

open Tables Transactions

/-! ### Gaps -/

/-- By how much the accounts of the users are ahead: of their entries on both ledger accounts, and
of their open reservations. The user `bare`, if there is one, has no ledger accounts yet. -/
@[ext] structure Gap where
  available : String → ℤ
  reserved : String → ℤ
  held : String → ℤ
  bare : Option String

namespace Gap

def none : Gap := ⟨0, 0, 0, .none⟩

/-- After Coin was moved on the account of a user. -/
def move (userId : String) (available reserved : ℤ) (gap : Gap) : Gap where
  available := gap.available + Pi.single userId available
  reserved := gap.reserved + Pi.single userId reserved
  held := gap.held + Pi.single userId reserved
  bare := gap.bare

/-- After an entry was made on a ledger account. -/
def enter (ledger : LedgerAccountRow) (amount : ℤ) (gap : Gap) : Gap where
  available userId := gap.available userId -
    if ledger.ownerUserId = some userId ∧ ledger.kind = .userAvailable then amount else 0
  reserved userId := gap.reserved userId -
    if ledger.ownerUserId = some userId ∧ ledger.kind = .userReserved then amount else 0
  held := gap.held
  bare := gap.bare

/-- After an amount was reserved for a user. -/
def reserve (userId : String) (amount : ℤ) (gap : Gap) : Gap :=
  { gap with held := gap.held - Pi.single userId amount }

end Gap

/-- The sum of a user's open reservations. -/
def heldCoin (economy : Economy) (userId : String) : ℤ :=
  sumWhere (fun r => r.userId = userId ∧ r.status = .reserved) ReservationRow.amount
    economy.reservations

def issuanceAccount : LedgerAccountRow := ⟨"system_issuance", none, .systemIssuance⟩

/-- The scopes of the operations that issue Coin. -/
def OperationScope.IsGrant (scope : OperationScope) : Prop :=
  scope = .initialGrant ∨ scope = .rescueGrant

/-- The rows of the economy refer to one another as they should, and the accounts are ahead of the
ledger and of the reservations by `gap`. Only `opened` may be pending, and `rs` are rows that were
read and still are there, up to their status. -/
structure Books (digests : Digests) (opened : Option String) (rs : List ReservationRow) (gap : Gap)
    (s : Working) : Prop where
  accountKeys : (s.db.economy.accounts.map AccountRow.userId).Nodup
  operationIds : (s.db.economy.operations.map OperationRow.id).Nodup
  ledgerIds : (s.db.economy.ledgerAccounts.map LedgerAccountRow.id).Nodup
  reservationIds : (s.db.economy.reservations.map ReservationRow.id).Nodup
  named : ∀ l ∈ s.db.economy.ledgerAccounts, l = issuanceAccount ∨ ∃ account ∈ s.db.economy.accounts,
    ∃ kind, (kind = .userAvailable ∨ kind = .userReserved) ∧
      l = ⟨ledgerAccountId digests account.userId kind, some account.userId, kind⟩
  ledgered : ∀ account ∈ s.db.economy.accounts, gap.bare = some account.userId ∨
    ∀ kind, kind = .userAvailable ∨ kind = .userReserved →
      ∃ l ∈ s.db.economy.ledgerAccounts, l.ownerUserId = some account.userId ∧ l.kind = kind
  entered : ∀ entry ∈ s.db.economy.ledgerEntries,
    (∃ l ∈ s.db.economy.ledgerAccounts, l.id = entry.ledgerAccountId) ∧
      ∃ operation ∈ s.db.economy.operations, operation.id = entry.operationId
  holder : ∀ r ∈ s.db.economy.reservations, 0 ≤ r.amount ∧
    ∃ account ∈ s.db.economy.accounts, account.userId = r.userId
  carried : ∀ r ∈ rs, ∃ row ∈ s.db.economy.reservations,
    row.id = r.id ∧ row.userId = r.userId ∧ row.amount = r.amount
  pending : ∀ operation ∈ s.db.economy.operations, operation.status = .pending →
    opened = some operation.id
  watched : ∀ operation ∈ s.db.economy.operations, operation.status ≠ .pending →
    operationBalance s.db.economy operation.id = 0 ∨
      operation.status = .committed ∧ .balancedOperation operation.id ∈ s.deferred
  issued : ∀ entry ∈ s.db.economy.ledgerEntries, entry.ledgerAccountId = issuanceAccount.id →
    ∃ operation ∈ s.db.economy.operations, operation.id = entry.operationId ∧
      operation.scope.IsGrant
  nonneg : ∀ account ∈ s.db.economy.accounts, 0 ≤ account.availableCoin ∧ 0 ≤ account.reservedCoin
  available : ∀ account ∈ s.db.economy.accounts, account.availableCoin =
    ledgerBalance s.db.economy account.userId .userAvailable + gap.available account.userId
  reserved : ∀ account ∈ s.db.economy.accounts, account.reservedCoin =
    ledgerBalance s.db.economy account.userId .userReserved + gap.reserved account.userId
  held : ∀ account ∈ s.db.economy.accounts, account.reservedCoin =
    heldCoin s.db.economy account.userId + gap.held account.userId

variable {digests : Digests} {opened : Option String} {rs rs' : List ReservationRow} {gap : Gap}
  {s s' : Working} {u : Unit}

/-! ### Statements that leave the books alone -/

/-- Of the users and the economy only the settlements may differ, and no trigger has been
forgotten. -/
structure BooksKept (s s' : Working) : Prop where
  economy : s'.db.economy = { s.db.economy with settlements := s'.db.economy.settlements }
  deferred : s.deferred ⊆ s'.deferred
  users : s'.db.users = s.db.users

instance : Std.Refl BooksKept := ⟨fun _ => ⟨rfl, List.Subset.refl _, rfl⟩⟩

instance : IsTrans Working BooksKept := by
  refine ⟨fun a b c h h' => ⟨?_, List.Subset.trans h.deferred h'.deferred, h'.users.trans h.users⟩⟩
  rw [h'.economy, h.economy]

/-- The books are about the economy, and the settlements do not matter to them. -/
theorem Books.of_economy (h : Books digests opened rs gap s)
    (heconomy : s'.db.economy = { s.db.economy with settlements := s'.db.economy.settlements })
    (hdeferred : s.deferred ⊆ s'.deferred) : Books digests opened rs gap s' := by
  constructor
  case watched =>
    intro operation hmem hstatus
    rw [heconomy] at hmem ⊢
    exact (h.watched operation hmem hstatus).imp id (And.imp id fun hin => hdeferred hin)
  all_goals rw [heconomy]
  · exact h.accountKeys
  · exact h.operationIds
  · exact h.ledgerIds
  · exact h.reservationIds
  · exact h.named
  · exact h.ledgered
  · exact h.entered
  · exact h.holder
  · exact h.carried
  · exact h.pending
  · exact h.issued
  · exact h.nonneg
  · exact h.available
  · exact h.reserved
  · exact h.held

theorem Books.kept (h : Books digests opened rs gap s) (hkept : BooksKept s s') :
    Books digests opened rs gap s' :=
  h.of_economy hkept.economy hkept.deferred

/-- Rows that were read once may be forgotten. -/
theorem Books.forget (h : Books digests opened rs gap s) (hsub : rs' ⊆ rs) :
    Books digests opened rs' gap s :=
  { h with carried := fun r hr => h.carried r (hsub hr) }

/-- Rows of the table may be carried along from here on. -/
theorem Books.carry (h : Books digests opened rs gap s)
    (hrows : ∀ r ∈ rs', r ∈ s.db.economy.reservations) : Books digests opened rs' gap s :=
  { h with carried := fun r hr => ⟨r, hrows r hr, rfl, rfl, rfl⟩ }

/-! ### Ledger accounts -/

theorem Books.onAccount_iff (h : Books digests opened rs gap s) {l : LedgerAccountRow}
    (hl : l ∈ s.db.economy.ledgerAccounts) {entry : LedgerEntryRow}
    (hentry : entry.ledgerAccountId = l.id) {userId : String} {kind : LedgerKind} :
    OnAccount s.db.economy userId kind entry ↔ l.ownerUserId = some userId ∧ l.kind = kind := by
  constructor
  · rintro ⟨l', hl', hid, howner, hkind⟩
    rw [eq_of_key_eq h.ledgerIds hl hl' (hid.trans hentry)] at howner hkind
    exact ⟨howner, hkind⟩
  · rintro ⟨howner, hkind⟩
    exact ⟨l, hl, hentry.symm, howner, hkind⟩

theorem ledgerBalance_append (e : Economy) (entry : LedgerEntryRow) (userId : String)
    (kind : LedgerKind) :
    ledgerBalance { e with ledgerEntries := e.ledgerEntries ++ [entry] } userId kind =
      ledgerBalance e userId kind + if OnAccount e userId kind entry then entry.amount else 0 := by
  rw [ledgerBalance, sumWhere_append, sumWhere_cons, sumWhere_nil, add_zero]
  rfl

theorem operationBalance_append (e : Economy) (entry : LedgerEntryRow) (operationId : String) :
    operationBalance { e with ledgerEntries := e.ledgerEntries ++ [entry] } operationId =
      operationBalance e operationId +
        if entry.operationId = operationId then entry.amount else 0 := by
  rw [operationBalance, sumWhere_append, sumWhere_cons, sumWhere_nil, add_zero]
  rfl

/-! ### Accounts -/

/-- A statement that moves Coin on an account opens a gap of as much. -/
theorem Books.move (h : Books digests opened rs gap s) {userId : String} {available reserved : ℤ}
    {guard : AccountRow → Prop} [DecidablePred guard] {f : AccountRow → AccountRow}
    (hf : ∀ account, (f account).userId = account.userId ∧
      (f account).availableCoin = account.availableCoin + available ∧
      (f account).reservedCoin = account.reservedCoin + reserved) {account : AccountRow}
    (hupdate : updateAccount userId guard f s = .ok (some account, s')) :
    Books digests opened rs (gap.move userId available reserved) s' := by
  obtain ⟨hnone, -⟩ | ⟨found, hfound, hkey, -, havailable, hreserved, -, rfl⟩ :=
    updateAccount_ok hupdate
  · cases hnone
  have hstays : ∀ account ∈ s.db.economy.accounts,
      ∃ account' ∈ updateWhere (fun other => other.userId = userId) f s.db.economy.accounts,
        account'.userId = account.userId := by
    intro account hmem
    by_cases hu : account.userId = userId
    · exact ⟨f account, mem_updateWhere_of hmem hu, (hf account).1⟩
    · exact ⟨account, mem_updateWhere_of_not hmem hu, rfl⟩
  have hrow : ∀ account ∈ updateWhere (fun other => other.userId = userId) f s.db.economy.accounts,
      (account ∈ s.db.economy.accounts ∧ account.userId ≠ userId) ∨
        (found.userId = account.userId ∧ account = f found) := by
    intro account hmem
    obtain ⟨old, hold, rfl⟩ := mem_updateWhere.1 hmem
    by_cases hu : old.userId = userId
    · rw [if_pos hu, eq_of_key_eq h.accountKeys hfound hold (hu.trans hkey.symm)]
      exact .inr ⟨(hf found).1.symm, rfl⟩
    · rw [if_neg hu]
      exact .inl ⟨hold, hu⟩
  have hgap : ∀ (balance ahead : String → ℤ) (coin : AccountRow → ℤ) (moved : ℤ),
      (∀ account, coin (f account) = coin account + moved) →
      (∀ account ∈ s.db.economy.accounts,
        coin account = balance account.userId + ahead account.userId) →
      ∀ account ∈ updateWhere (fun other => other.userId = userId) f s.db.economy.accounts,
        coin account =
          balance account.userId + (ahead + Pi.single userId moved : String → ℤ) account.userId := by
    intro balance ahead coin moved hcoin hold account hmem
    rcases hrow account hmem with ⟨hmem, hne⟩ | ⟨-, rfl⟩
    · rw [Pi.add_apply, Pi.single_eq_of_ne hne, add_zero]
      exact hold account hmem
    · rw [hcoin, hold found hfound, (hf found).1, hkey, Pi.add_apply, Pi.single_eq_same, add_assoc]
  constructor
  case accountKeys =>
    show ((updateWhere _ f s.db.economy.accounts).map AccountRow.userId).Nodup
    rw [map_updateWhere fun account _ _ => (hf account).1]
    exact h.accountKeys
  case named =>
    intro l hl
    refine (h.named l hl).imp id fun ⟨account, hmem, kind, hkind, heq⟩ => ?_
    obtain ⟨account', hmem', hid⟩ := hstays account hmem
    exact ⟨account', hmem', kind, hkind, hid ▸ heq⟩
  case ledgered =>
    intro account hmem
    rcases hrow account hmem with ⟨hmem, -⟩ | ⟨hid, rfl⟩
    · exact h.ledgered account hmem
    · exact hid ▸ h.ledgered found hfound
  case holder =>
    intro r hr
    obtain ⟨hamount, account, hmem, hid⟩ := h.holder r hr
    obtain ⟨account', hmem', hid'⟩ := hstays account hmem
    exact ⟨hamount, account', hmem', hid'.trans hid⟩
  case nonneg =>
    intro account hmem
    rcases hrow account hmem with ⟨hmem, -⟩ | ⟨-, rfl⟩
    · exact h.nonneg account hmem
    · exact ⟨havailable, hreserved⟩
  case available =>
    exact hgap (ledgerBalance s.db.economy · .userAvailable) gap.available _ _
      (fun account => (hf account).2.1) h.available
  case reserved =>
    exact hgap (ledgerBalance s.db.economy · .userReserved) gap.reserved _ _
      (fun account => (hf account).2.2) h.reserved
  case held =>
    exact hgap (heldCoin s.db.economy) gap.held _ _ (fun account => (hf account).2.2) h.held
  case operationIds => exact h.operationIds
  case ledgerIds => exact h.ledgerIds
  case reservationIds => exact h.reservationIds
  case entered => exact h.entered
  case carried => exact h.carried
  case pending => exact h.pending
  case watched => exact h.watched
  case issued => exact h.issued

/-! ### Entries -/

/-- The ledger account of a user is not the one that issues Coin. -/
theorem ledgerAccountId_ne (digests : Digests) (userId : String) (kind : LedgerKind) :
    ledgerAccountId digests userId kind ≠ issuanceAccount.id := by
  intro heq
  have hlist := congrArg String.toList heq
  rw [ledgerAccountId, String.append_assoc, String.toList_append] at hlist
  cases hlist

theorem Books.eq_issuance (h : Books digests opened rs gap s) {l : LedgerAccountRow}
    (hl : l ∈ s.db.economy.ledgerAccounts) (hid : l.id = issuanceAccount.id) :
    l = issuanceAccount := by
  rcases h.named l hl with rfl | ⟨account, -, kind, -, rfl⟩
  · rfl
  · exact absurd hid (ledgerAccountId_ne digests _ _)

/-- An entry closes the gap on its account by its amount. -/
theorem Books.enter (h : Books digests opened rs gap s) {l : LedgerAccountRow}
    (hl : l ∈ s.db.economy.ledgerAccounts) {operationId : String} {amount : ℤ}
    (hissued : l = issuanceAccount → ∃ operation ∈ s.db.economy.operations,
      operation.id = operationId ∧ operation.scope.IsGrant)
    (hinsert : insertEntry ⟨operationId, l.id, amount⟩ s = .ok (u, s')) :
    Books digests opened rs (gap.enter l amount) s' := by
  obtain ⟨hpending, hoperation, -, -, rfl⟩ := insertEntry_eq_ok.1 hinsert
  have hbalance : ∀ user kind, ledgerBalance
      { s.db.economy with ledgerEntries := s.db.economy.ledgerEntries ++
        [⟨operationId, l.id, amount⟩] } user kind =
        ledgerBalance s.db.economy user kind +
          if l.ownerUserId = some user ∧ l.kind = kind then amount else 0 := by
    intro user kind
    rw [ledgerBalance_append]
    exact congrArg _ (if_congr (h.onAccount_iff hl rfl) rfl rfl)
  constructor
  case entered =>
    intro entry hentry
    rcases List.mem_append.1 hentry with hentry | hentry
    · exact h.entered entry hentry
    · rw [List.mem_singleton.1 hentry]
      exact ⟨⟨l, hl, rfl⟩, hoperation⟩
  case watched =>
    intro operation hmem hstatus
    have hne : operationId ≠ operation.id := fun heq => hstatus (hpending operation hmem heq.symm)
    have hsame : operationBalance { s.db.economy with ledgerEntries :=
        s.db.economy.ledgerEntries ++ [⟨operationId, l.id, amount⟩] } operation.id =
        operationBalance s.db.economy operation.id := by
      rw [operationBalance_append, if_neg hne, add_zero]
    rcases h.watched operation hmem hstatus with hzero | ⟨hcommitted, hdeferred⟩
    · exact .inl (hsame.trans hzero)
    · exact .inr ⟨hcommitted, List.mem_append_left _ hdeferred⟩
  case issued =>
    intro entry hentry hid
    rcases List.mem_append.1 hentry with hentry | hentry
    · exact h.issued entry hentry hid
    · rw [List.mem_singleton.1 hentry] at hid ⊢
      exact hissued (h.eq_issuance hl hid)
  case available =>
    intro account hmem
    refine (h.available account hmem).trans ?_
    have hnew := hbalance account.userId .userAvailable
    show _ = ledgerBalance { s.db.economy with ledgerEntries :=
      s.db.economy.ledgerEntries ++ [⟨operationId, l.id, amount⟩] } account.userId .userAvailable +
      (gap.available account.userId - _)
    rw [hnew]
    omega
  case reserved =>
    intro account hmem
    refine (h.reserved account hmem).trans ?_
    have hnew := hbalance account.userId .userReserved
    show _ = ledgerBalance { s.db.economy with ledgerEntries :=
      s.db.economy.ledgerEntries ++ [⟨operationId, l.id, amount⟩] } account.userId .userReserved +
      (gap.reserved account.userId - _)
    rw [hnew]
    omega
  case held => exact h.held
  case accountKeys => exact h.accountKeys
  case operationIds => exact h.operationIds
  case ledgerIds => exact h.ledgerIds
  case reservationIds => exact h.reservationIds
  case named => exact h.named
  case ledgered => exact h.ledgered
  case holder => exact h.holder
  case carried => exact h.carried
  case pending => exact h.pending
  case nonneg => exact h.nonneg

/-! ### Operations -/

theorem operationBalance_eq_zero {e : Economy} {operationId : String}
    (h : ∀ entry ∈ e.ledgerEntries, entry.operationId ≠ operationId) :
    operationBalance e operationId = 0 :=
  sumWhere_eq_zero h

/-- The identifier of a new operation has no entries yet. -/
theorem Books.fresh_balance (h : Books digests opened rs gap s) {operationId : String}
    (hfresh : ∀ operation ∈ s.db.economy.operations, operation.id ≠ operationId) :
    operationBalance s.db.economy operationId = 0 := by
  refine operationBalance_eq_zero fun entry hentry heq => ?_
  obtain ⟨-, operation, hmem, hid⟩ := h.entered entry hentry
  exact hfresh operation hmem (hid.trans heq)

/-- A new operation is the one that is pending, or it is none. -/
theorem Books.insertOperation (h : Books digests opened rs gap s) {row : OperationRow}
    {opened' : Option String} (hopened : ∀ id, opened = some id → opened' = some id)
    (hrow : row.status = .pending → opened' = some row.id)
    (hinsert : insertOperation row s = .ok (u, s')) : Books digests opened' rs gap s' := by
  obtain ⟨hfresh, -, -, rfl⟩ := insertOperation_eq_ok.1 hinsert
  constructor
  case operationIds => exact nodup_append_key h.operationIds hfresh
  case entered =>
    intro entry hentry
    obtain ⟨hledger, operation, hmem, hid⟩ := h.entered entry hentry
    exact ⟨hledger, operation, List.mem_append_left _ hmem, hid⟩
  case pending =>
    intro operation hmem hstatus
    rcases List.mem_append.1 hmem with hmem | hmem
    · exact hopened _ (h.pending operation hmem hstatus)
    · rw [List.mem_singleton.1 hmem] at hstatus ⊢
      exact hrow hstatus
  case watched =>
    intro operation hmem hstatus
    rcases List.mem_append.1 hmem with hmem | hmem
    · exact (h.watched operation hmem hstatus).imp id
        (And.imp id fun hin => List.mem_append_left _ hin)
    · rw [List.mem_singleton.1 hmem]
      exact .inl (h.fresh_balance hfresh)
  case issued =>
    intro entry hentry hid
    obtain ⟨operation, hmem, hgrant⟩ := h.issued entry hentry hid
    exact ⟨operation, List.mem_append_left _ hmem, hgrant⟩
  case accountKeys => exact h.accountKeys
  case ledgerIds => exact h.ledgerIds
  case reservationIds => exact h.reservationIds
  case named => exact h.named
  case ledgered => exact h.ledgered
  case holder => exact h.holder
  case carried => exact h.carried
  case nonneg => exact h.nonneg
  case available => exact h.available
  case reserved => exact h.reserved
  case held => exact h.held

/-- Committing the operation that is pending leaves none. -/
theorem Books.commitOperation {operationId : String}
    (h : Books digests (some operationId) rs gap s) {response : ResponseSnapshot}
    (hcommit : commitOperation operationId response s = .ok (u, s')) :
    Books digests none rs gap s' := by
  obtain ⟨-, rfl⟩ := commitOperation_eq_ok.1 hcommit
  have hstays : ∀ (id : String) (p : OperationScope → Prop),
      (∃ operation ∈ s.db.economy.operations, operation.id = id ∧ p operation.scope) →
      ∃ operation ∈ updateWhere (fun row => row.id = operationId) (·.commit response)
        s.db.economy.operations, operation.id = id ∧ p operation.scope := by
    rintro id p ⟨operation, hmem, hid, hp⟩
    by_cases heq : operation.id = operationId
    · exact ⟨_, mem_updateWhere_of hmem heq, hid, hp⟩
    · exact ⟨_, mem_updateWhere_of_not hmem heq, hid, hp⟩
  constructor
  case operationIds =>
    have hids := map_updateWhere (p := fun row => row.id = operationId) (g := OperationRow.id)
      (f := (·.commit response)) fun _ (_ : _ ∈ s.db.economy.operations) _ => rfl
    exact hids.symm ▸ h.operationIds
  case entered =>
    intro entry hentry
    obtain ⟨hledger, operation, hmem, hid⟩ := h.entered entry hentry
    obtain ⟨operation', hmem', hid', -⟩ := hstays _ (fun _ => True) ⟨operation, hmem, hid, trivial⟩
    exact ⟨hledger, operation', hmem', hid'⟩
  case pending =>
    intro operation hmem hstatus
    obtain ⟨old, hold, rfl⟩ := mem_updateWhere.1 hmem
    by_cases heq : old.id = operationId
    · rw [if_pos heq] at hstatus
      cases hstatus
    · rw [if_neg heq] at hstatus
      exact absurd (Option.some.inj (h.pending old hold hstatus)).symm heq
  case watched =>
    intro operation hmem hstatus
    obtain ⟨old, hold, rfl⟩ := mem_updateWhere.1 hmem
    by_cases heq : old.id = operationId
    · rw [if_pos heq]
      refine .inr ⟨rfl, ?_⟩
      show Deferred.balancedOperation old.id ∈ s.deferred ++ [.balancedOperation operationId]
      rw [heq]
      exact List.mem_append_right _ (List.mem_singleton_self _)
    · rw [if_neg heq] at hstatus ⊢
      exact (h.watched old hold hstatus).imp id
        (And.imp id fun hin => List.mem_append_left _ hin)
  case issued =>
    intro entry hentry hid
    exact hstays _ OperationScope.IsGrant (h.issued entry hentry hid)
  case accountKeys => exact h.accountKeys
  case ledgerIds => exact h.ledgerIds
  case reservationIds => exact h.reservationIds
  case named => exact h.named
  case ledgered => exact h.ledgered
  case holder => exact h.holder
  case carried => exact h.carried
  case nonneg => exact h.nonneg
  case available => exact h.available
  case reserved => exact h.reserved
  case held => exact h.held

/-! ### Reservations -/

theorem heldCoin_append (e : Economy) (r : ReservationRow) (hr : r.status = .reserved)
    (userId : String) :
    heldCoin { e with reservations := e.reservations ++ [r] } userId =
      heldCoin e userId + if r.userId = userId then r.amount else 0 := by
  rw [heldCoin, sumWhere_append, sumWhere_cons, sumWhere_nil, add_zero]
  simp only [hr, and_true]
  rfl

/-- A reservation closes the gap to the reservations of its user by its amount. -/
theorem Books.reserve (h : Books digests opened rs gap s) {r : ReservationRow}
    (hstatus : r.status = .reserved)
    (hholder : ∃ account ∈ s.db.economy.accounts, account.userId = r.userId)
    (hinsert : insertReservation r s = .ok (u, s')) :
    Books digests opened rs (gap.reserve r.userId r.amount) s' := by
  obtain ⟨-, hid, -, -, ⟨hamount, -⟩, -, rfl⟩ := insertReservation_eq_ok.1 hinsert
  constructor
  case reservationIds => exact nodup_append_key h.reservationIds hid
  case holder =>
    intro r' hr'
    rcases List.mem_append.1 hr' with hr' | hr'
    · exact h.holder r' hr'
    · rw [List.mem_singleton.1 hr']
      exact ⟨hamount, hholder⟩
  case carried =>
    intro r' hr'
    obtain ⟨row, hrow, hsame⟩ := h.carried r' hr'
    exact ⟨row, List.mem_append_left _ hrow, hsame⟩
  case held =>
    intro account hmem
    refine (h.held account hmem).trans ?_
    show _ = heldCoin { s.db.economy with reservations := s.db.economy.reservations ++ [r] }
      account.userId + (gap.held account.userId - _)
    rw [heldCoin_append _ _ hstatus, Pi.single_apply]
    simp only [eq_comm (a := account.userId)]
    omega
  case available => exact h.available
  case reserved => exact h.reserved
  case accountKeys => exact h.accountKeys
  case operationIds => exact h.operationIds
  case ledgerIds => exact h.ledgerIds
  case named => exact h.named
  case ledgered => exact h.ledgered
  case entered => exact h.entered
  case pending => exact h.pending
  case watched => exact h.watched
  case issued => exact h.issued
  case nonneg => exact h.nonneg

/-- Closing a reservation that was read leaves its amount to its user. -/
theorem Books.close (h : Books digests opened rs gap s) {r : ReservationRow} (hr : r ∈ rs)
    {status : ReservationStatus} {operationId : String} {now : ℤ}
    (hclose : closeReservation r.id status operationId now s = .ok (u, s')) :
    Books digests opened rs (gap.reserve r.userId (-r.amount)) s' := by
  obtain ⟨hopen, -, -, rfl⟩ := closeReservation_eq_ok.1 hclose
  obtain ⟨row, hrow, hid, huser, hamount⟩ := h.carried r hr
  obtain ⟨hreserved, hstatus⟩ := hopen row hrow hid
  have hstays : ∀ r' ∈ s.db.economy.reservations, ∃ r'' ∈ updateWhere (fun row => row.id = r.id)
      (·.close status operationId now) s.db.economy.reservations,
      r''.id = r'.id ∧ r''.userId = r'.userId ∧ r''.amount = r'.amount := by
    intro r' hr'
    by_cases hid' : r'.id = r.id
    · exact ⟨_, mem_updateWhere_of hr' hid', rfl, rfl, rfl⟩
    · exact ⟨r', mem_updateWhere_of_not hr' hid', rfl, rfl, rfl⟩
  have hheld : ∀ userId, heldCoin { s.db.economy with
      reservations := updateWhere (fun row => row.id = r.id) (·.close status operationId now)
        s.db.economy.reservations } userId =
      heldCoin s.db.economy userId - if r.userId = userId then r.amount else 0 := by
    intro userId
    have hsum := sumWhere_updateWhere (p := fun r => r.userId = userId ∧ r.status = .reserved)
      (w := ReservationRow.amount) (f := (·.close status operationId now)) h.reservationIds hrow
    rw [hid] at hsum
    refine hsum.trans ?_
    rw [if_neg fun hboth => hstatus hboth.2, huser, hamount, hreserved]
    simp only [and_true]
    show heldCoin s.db.economy userId + _ = _
    omega
  constructor
  case reservationIds =>
    have hids := map_updateWhere (p := fun row => row.id = r.id) (g := ReservationRow.id)
      (f := (·.close status operationId now)) fun _ (_ : _ ∈ s.db.economy.reservations) _ => rfl
    exact hids.symm ▸ h.reservationIds
  case holder =>
    intro r' hr'
    obtain ⟨old, hold, rfl⟩ := mem_updateWhere.1 hr'
    split_ifs
    · exact h.holder old hold
    · exact h.holder old hold
  case carried =>
    intro r' hr'
    obtain ⟨row', hrow', hid', huser', hamount'⟩ := h.carried r' hr'
    obtain ⟨row'', hrow'', hid'', huser'', hamount''⟩ := hstays row' hrow'
    exact ⟨row'', hrow'', hid''.trans hid', huser''.trans huser', hamount''.trans hamount'⟩
  case held =>
    intro account hmem
    refine (h.held account hmem).trans ?_
    show _ = heldCoin { s.db.economy with
      reservations := updateWhere (fun row => row.id = r.id) (·.close status operationId now)
        s.db.economy.reservations } account.userId + (gap.held account.userId - _)
    rw [hheld, Pi.single_apply]
    simp only [eq_comm (a := account.userId)]
    split_ifs <;> omega
  case available => exact h.available
  case reserved => exact h.reserved
  case accountKeys => exact h.accountKeys
  case operationIds => exact h.operationIds
  case ledgerIds => exact h.ledgerIds
  case named => exact h.named
  case ledgered => exact h.ledgered
  case entered => exact h.entered
  case pending => exact h.pending
  case watched => exact h.watched
  case issued => exact h.issued
  case nonneg => exact h.nonneg

/-! ### Provisioning -/

/-- A new account is empty, and its ledger accounts are still to come. -/
theorem Books.insertAccount (h : Books digests opened rs .none s) {userId : String}
    (hinsert : insertAccountIfAbsent userId s = .ok (u, s')) :
    Books digests opened rs .none s' ∨
      Books digests opened rs { Gap.none with bare := some userId } s' := by
  rcases insertAccountIfAbsent_eq_ok.1 hinsert with ⟨-, rfl⟩ | ⟨hnew, -, rfl⟩
  · exact .inl h
  have hempty : ∀ kind, ledgerBalance s.db.economy userId kind = 0 := by
    refine fun kind => sumWhere_eq_zero fun entry _ => ?_
    rintro ⟨l, hl, -, howner, -⟩
    rcases h.named l hl with rfl | ⟨account, hmem, kind', -, rfl⟩
    · cases howner
    · exact hnew account hmem (Option.some.inj howner)
  have hheld : heldCoin s.db.economy userId = 0 := by
    refine sumWhere_eq_zero fun r hr hboth => ?_
    obtain ⟨-, account, hmem, hid⟩ := h.holder r hr
    exact hnew account hmem (hid.trans hboth.1)
  have hrow : ∀ {p : AccountRow → Prop}, (∀ account ∈ s.db.economy.accounts, p account) →
      p ⟨userId, 0, 0, 0, none⟩ →
      ∀ account ∈ s.db.economy.accounts ++ [⟨userId, 0, 0, 0, none⟩], p account := by
    intro p hold hlast account hmem
    rcases List.mem_append.1 hmem with hmem | hmem
    · exact hold account hmem
    · exact List.mem_singleton.1 hmem ▸ hlast
  refine .inr ?_
  constructor
  case accountKeys => exact nodup_append_key h.accountKeys hnew
  case named =>
    intro l hl
    refine (h.named l hl).imp id fun ⟨account, hmem, hkind⟩ => ?_
    exact ⟨account, List.mem_append_left _ hmem, hkind⟩
  case ledgered =>
    exact hrow (fun account hmem => .inr ((h.ledgered account hmem).resolve_left nofun)) (.inl rfl)
  case holder =>
    intro r hr
    obtain ⟨hamount, account, hmem, hid⟩ := h.holder r hr
    exact ⟨hamount, account, List.mem_append_left _ hmem, hid⟩
  case nonneg => exact hrow h.nonneg ⟨le_rfl, le_rfl⟩
  case available =>
    refine hrow h.available ?_
    show (0 : ℤ) = ledgerBalance s.db.economy userId .userAvailable + 0
    rw [hempty, add_zero]
  case reserved =>
    refine hrow h.reserved ?_
    show (0 : ℤ) = ledgerBalance s.db.economy userId .userReserved + 0
    rw [hempty, add_zero]
  case held =>
    refine hrow h.held ?_
    show (0 : ℤ) = heldCoin s.db.economy userId + 0
    rw [hheld, add_zero]
  case operationIds => exact h.operationIds
  case ledgerIds => exact h.ledgerIds
  case reservationIds => exact h.reservationIds
  case entered => exact h.entered
  case carried => exact h.carried
  case pending => exact h.pending
  case watched => exact h.watched
  case issued => exact h.issued

/-- A new ledger account has no entries; the old ones are still there. -/
theorem Books.insertLedgerAccount (h : Books digests opened rs gap s) {row : LedgerAccountRow}
    {conflict : LedgerAccountRow → Prop} [DecidablePred conflict]
    (hnamed : row = issuanceAccount ∨ ∃ account ∈ s.db.economy.accounts,
      ∃ kind, (kind = .userAvailable ∨ kind = .userReserved) ∧
        row = ⟨ledgerAccountId digests account.userId kind, some account.userId, kind⟩)
    (hinsert : insertLedgerAccountIfAbsent row conflict s = .ok (u, s')) :
    Books digests opened rs gap s' ∧ s'.db.economy.accounts = s.db.economy.accounts ∧
      s.db.economy.ledgerAccounts ⊆ s'.db.economy.ledgerAccounts ∧
      ∃ l ∈ s'.db.economy.ledgerAccounts, conflict l ∨ l = row := by
  rcases insertLedgerAccountIfAbsent_ok hinsert with ⟨⟨l, hl, hconflict⟩, rfl⟩ | ⟨hnew, -, rfl⟩
  · exact ⟨h, rfl, List.Subset.refl _, l, hl, .inl hconflict⟩
  have hbalance : ∀ userId kind, ledgerBalance { s.db.economy with
      ledgerAccounts := s.db.economy.ledgerAccounts ++ [row] } userId kind =
      ledgerBalance s.db.economy userId kind := by
    intro userId kind
    refine sumWhere_congr (fun entry hentry => ?_) fun _ _ _ => rfl
    obtain ⟨⟨l, hl, hid⟩, -⟩ := h.entered entry hentry
    constructor
    · rintro ⟨l', hl', hid', hown⟩
      rcases List.mem_append.1 hl' with hl' | hl'
      · exact ⟨l', hl', hid', hown⟩
      · rw [List.mem_singleton.1 hl'] at hid'
        exact absurd (hid.trans hid'.symm) (hnew l hl)
    · rintro ⟨l', hl', hown⟩
      exact ⟨l', List.mem_append_left _ hl', hown⟩
  refine ⟨?_, rfl, List.subset_append_left _ _, row,
    List.mem_append_right _ (List.mem_singleton_self _), .inr rfl⟩
  constructor
  case ledgerIds => exact nodup_append_key h.ledgerIds hnew
  case named =>
    intro l hl
    rcases List.mem_append.1 hl with hl | hl
    · exact h.named l hl
    · exact List.mem_singleton.1 hl ▸ hnamed
  case ledgered =>
    intro account hmem
    refine (h.ledgered account hmem).imp id fun hboth kind hkind => ?_
    obtain ⟨l, hl, hown⟩ := hboth kind hkind
    exact ⟨l, List.mem_append_left _ hl, hown⟩
  case entered =>
    intro entry hentry
    obtain ⟨⟨l, hl, hid⟩, hoperation⟩ := h.entered entry hentry
    exact ⟨⟨l, List.mem_append_left _ hl, hid⟩, hoperation⟩
  case available =>
    intro account hmem
    exact (h.available account hmem).trans (congrArg (· + _) (hbalance _ _).symm)
  case reserved =>
    intro account hmem
    exact (h.reserved account hmem).trans (congrArg (· + _) (hbalance _ _).symm)
  case held => exact h.held
  case accountKeys => exact h.accountKeys
  case operationIds => exact h.operationIds
  case reservationIds => exact h.reservationIds
  case holder => exact h.holder
  case carried => exact h.carried
  case pending => exact h.pending
  case watched => exact h.watched
  case issued => exact h.issued
  case nonneg => exact h.nonneg

/-! ### Operations that leave no gap -/

namespace Gap

variable {userId : String} {available reserved amount : ℤ} {ledger ledger' : LedgerAccountRow}

theorem enter_move (hledger : ledger.ownerUserId = some userId ∧ ledger.kind = .userAvailable)
    (hledger' : ledger'.ownerUserId = some userId ∧ ledger'.kind = .userReserved) :
    ((gap.move userId available reserved).enter ledger available).enter ledger' reserved =
      gap.reserve userId (-reserved) := by
  ext user
  · simp only [enter, move, hledger, hledger', reserve, Pi.add_apply, Pi.single_apply,
      Option.some.injEq, eq_comm (a := user), reduceCtorEq, and_true, and_false, if_false]
    omega
  · simp only [enter, move, hledger, hledger', reserve, Pi.add_apply, Pi.single_apply,
      Option.some.injEq, eq_comm (a := user), reduceCtorEq, and_true, and_false, if_false]
    omega
  · simp only [enter, move, reserve, Pi.add_apply, Pi.sub_apply, Pi.single_apply]
    split_ifs <;> omega
  · rfl

theorem enter_moveReserved
    (hledger : ledger.ownerUserId = some userId ∧ ledger.kind = .userReserved) :
    (gap.move userId 0 reserved).enter ledger reserved = gap.reserve userId (-reserved) := by
  ext user
  · simp only [enter, move, hledger, reserve, Pi.add_apply, Pi.single_apply, reduceCtorEq,
      and_false, if_false, ite_self]
    omega
  · simp only [enter, move, hledger, reserve, Pi.add_apply, Pi.single_apply,
      Option.some.injEq, eq_comm (a := user), and_true]
    omega
  · simp only [enter, move, reserve, Pi.add_apply, Pi.sub_apply, Pi.single_apply]
    split_ifs <;> omega
  · rfl

theorem enter_moveAvailable
    (hledger : ledger.ownerUserId = some userId ∧ ledger.kind = .userAvailable) :
    (gap.move userId available 0).enter ledger available = gap := by
  ext user
  · simp only [enter, move, hledger, Pi.add_apply, Pi.single_apply, Option.some.injEq,
      eq_comm (a := user), and_true]
    omega
  · simp only [enter, move, hledger, Pi.add_apply, Pi.single_apply, reduceCtorEq, and_false,
      if_false, ite_self]
    omega
  · simp only [enter, move, Pi.add_apply, Pi.single_apply, ite_self, add_zero]
  · rfl

theorem enter_issuance : gap.enter issuanceAccount amount = gap := by
  ext user
  · simp only [enter, issuanceAccount, reduceCtorEq, false_and, if_false, sub_zero]
  · simp only [enter, issuanceAccount, reduceCtorEq, false_and, if_false, sub_zero]
  · rfl
  · rfl

theorem reserve_neg_reserve :
    (gap.reserve userId (-amount)).reserve userId amount = gap := by
  ext user
  · rfl
  · rfl
  · simp only [reserve, Pi.sub_apply, Pi.single_apply]
    split_ifs <;> omega
  · rfl

theorem reserve_reserve_neg :
    (gap.reserve userId amount).reserve userId (-amount) = gap := by
  have hback : (gap.reserve userId (- -amount)).reserve userId (-amount) = gap :=
    reserve_neg_reserve
  rwa [neg_neg] at hback

theorem reserve_zero : gap.reserve userId 0 = gap := by
  ext user
  · rfl
  · rfl
  · simp only [reserve, Pi.single_zero, sub_zero]
  · rfl

end Gap

end Pootown.Api
