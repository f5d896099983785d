import Mathlib.Tactic
import Pootown.Api.RescueFrame
import Pootown.Api.SeatedReservations

/-!
# Rescues

A poor account may be brought back up to the minimum once per window, by a call whose key is new.

* `rescue_outcome`: a call is a replay, is refused, or grants;
* `lastRescue_le`: the recorded time of a user's last rescue never goes back;
* `rescues_not_farmed`: over every run.
-/

namespace Pootown.Api

open Runs Tables Transactions

variable {digests : Digests} {settings : Settings} {codec : Server.Codec}
  {userId idempotencyKey : String} {fresh : Fresh} {now : ℤ} {s s' : Working}

/-! ### A rescue -/

/-- Nothing has been recorded under the key of a rescue. -/
def NewRescueKey (db : Database) (userId idempotencyKey : String) : Prop :=
  ∀ row ∈ db.economy.operations, ¬ (row.actorUserId = userId ∧ row.scope = .rescueGrant ∧
    row.idempotencyKey = idempotencyKey)

/-- An account brought up to the minimum. -/
def AccountRow.rescued (now amount : ℤ) (account : AccountRow) : AccountRow :=
  { account.move amount 0 with
    lastRescueGrantAt := some (max (account.lastRescueGrantAt.getD now) now) }

@[simp] theorem AccountRow.rescued_userId (now amount : ℤ) (account : AccountRow) :
    (account.rescued now amount).userId = account.userId := rfl

theorem findOperation_eq_ok {scope : OperationScope} {prior : Option OperationRow} :
    findOperation userId scope idempotencyKey s = .ok (prior, s') ↔
      prior = s.db.economy.operations.find? (fun row =>
        row.actorUserId = userId ∧ row.scope = scope ∧ row.idempotencyKey = idempotencyKey) ∧
      s' = s := by
  rw [findOperation, select_bind, pure_eq_ok, eq_comm, and_congr_right_iff]
  exact fun _ => eq_comm

theorem lockAccountRow_eq_ok {account : AccountRow} :
    lockAccountRow userId s = .ok (account, s') ↔
      findAccount s.db userId = some account ∧ s' = s := by
  simp only [lockAccountRow, select_bind, checkSome_eq_ok]
  rfl

/-- What a rescue that grants does to the accounts. -/
theorem applyGrant_rescue_ok {operationId : String} {amount : ℤ} {account : AccountRow}
    (h : applyGrant digests userId operationId amount now true s = .ok (account, s')) :
    s'.db.economy.accounts = updateWhere (fun other => other.userId = userId)
      (AccountRow.rescued now amount) s.db.economy.accounts := by
  simp only [applyGrant, bind_eq_ok, checkSome_eq_ok, if_true] at h
  obtain ⟨updated, m, hupdate, _, m₁, hentry, _, m₂, hentry', account', m₃, ⟨rfl, rfl⟩, h⟩ := h
  obtain ⟨hnone, -⟩ | ⟨_, -, -, -, -, -, -, rfl⟩ := updateAccount_ok hupdate
  · cases hnone
  · obtain ⟨-, -, -, -, rfl⟩ := insertEntry_eq_ok.1 hentry
    obtain ⟨-, -, -, -, rfl⟩ := insertEntry_eq_ok.1 hentry'
    simp only [Bool.true_eq_false, if_false, pure_eq_ok] at h
    obtain ⟨-, rfl⟩ := h
    rfl

/-- What a rescue that returns has done. -/
inductive RescueOutcome (settings : Settings) (userId idempotencyKey : String) (fresh : Fresh)
    (now : ℤ) (s : Working) : ResponseSnapshot → Working → Prop
  /-- Something is recorded under the key. -/
  | replayed (response : ResponseSnapshot) : ¬ NewRescueKey s.db userId idempotencyKey →
      RescueOutcome settings userId idempotencyKey fresh now s response s
  | refused (account : AccountRow) (s' : Working) : findAccount s.db userId = some account →
      s'.db.economy.accounts = s.db.economy.accounts →
      RescueOutcome settings userId idempotencyKey fresh now s
        (.rescueGrant (balanceView account) none) s'
  | granted (account updated : AccountRow) (s' : Working) :
      NewRescueKey s.db userId idempotencyKey → findAccount s.db userId = some account →
      Rescuable settings account now →
      s'.db.economy.accounts = updateWhere (fun other => other.userId = userId)
        (AccountRow.rescued now
          (settings.rescueBalanceCoin - (account.availableCoin + account.reservedCoin)))
        s.db.economy.accounts →
      RescueOutcome settings userId idempotencyKey fresh now s
        (.rescueGrant (balanceView updated) (some fresh.operationId)) s'

theorem rescue_outcome {response : ResponseSnapshot}
    (h : rescue digests settings userId idempotencyKey fresh now s = .ok (response, s')) :
    RescueOutcome settings userId idempotencyKey fresh now s response s' := by
  simp only [rescue, bind_eq_ok] at h
  obtain ⟨account, m₀, haccount, prior, m₁, hprior, h⟩ := h
  obtain ⟨hfind, rfl⟩ := lockAccountRow_eq_ok.1 haccount
  obtain ⟨hprior, rfl⟩ := findOperation_eq_ok.1 hprior
  cases prior with
  | some prior =>
    simp only [check_bind_eq_ok, checkSome_eq_ok] at h
    obtain ⟨-, -, -, rfl⟩ := h
    refine .replayed response fun hnew => ?_
    have hkey := List.find?_some hprior.symm
    rw [decide_eq_true_iff] at hkey
    exact hnew prior (List.mem_of_find?_eq_some hprior.symm) hkey
  | none =>
    have hnew : NewRescueKey m₁.db userId idempotencyKey := fun row hrow => by
      simpa using List.find?_eq_none.1 hprior.symm row hrow
    obtain ⟨hrescuable, h⟩ | ⟨-, h⟩ := ite_eq_ok.1 h
    · simp only [bind_eq_ok, pure_eq_ok] at h
      obtain ⟨_, m, hinsert, updated, m', hgrant, _, m'', hcommit, rfl, rfl⟩ := h
      obtain ⟨-, -, -, rfl⟩ := insertOperation_eq_ok.1 hinsert
      obtain ⟨-, rfl⟩ := commitOperation_eq_ok.1 hcommit
      have haccounts := applyGrant_rescue_ok hgrant
      exact .granted account updated _ hnew hfind hrescuable haccounts
    · simp only [bind_eq_ok, pure_eq_ok] at h
      obtain ⟨_, m, hinsert, rfl, rfl⟩ := h
      obtain ⟨-, -, -, rfl⟩ := insertOperation_eq_ok.1 hinsert
      exact .refused account _ hfind rfl

/-! ### Provisioning -/

/-- Accounts are as they were, and no operation has gone. -/
structure AccountsKept (s s' : Working) : Prop where
  accounts : s'.db.economy.accounts = s.db.economy.accounts
  operations : s'.db.economy.operations = s.db.economy.operations

theorem insertLedgerAccountIfAbsent_accounts {row : LedgerAccountRow}
    {conflict : LedgerAccountRow → Prop} [DecidablePred conflict] {u : Unit}
    (h : insertLedgerAccountIfAbsent row conflict s = .ok (u, s')) : AccountsKept s s' := by
  obtain ⟨-, rfl⟩ | ⟨-, -, rfl⟩ := insertLedgerAccountIfAbsent_ok h <;> exact ⟨rfl, rfl⟩

/-- A user who has been provisioned is not provisioned again. -/
theorem provisionUser_of_provisioned {balance : CoinBalance} (hs : Provisioned s.db userId)
    (h : provisionUser digests settings userId fresh now s = .ok (balance, s')) :
    s'.db.economy.accounts = s.db.economy.accounts := by
  simp only [provisionUser, ensureAccountInfrastructure, bind_eq_ok] at h
  obtain ⟨_, m, ⟨_, m₁, haccount, _, m₂, hledger, _, m₃, hledger', hledger''⟩, account, m₄, hlock,
    inserted, m₅, hinsert, h⟩ := h
  obtain ⟨-, rfl⟩ | ⟨hnone, -⟩ := insertAccountIfAbsent_eq_ok.1 haccount
  swap
  · obtain ⟨account, hmem, hid⟩ := hs.account
    exact absurd hid (hnone account hmem)
  have h₁ := insertLedgerAccountIfAbsent_accounts hledger
  have h₂ := insertLedgerAccountIfAbsent_accounts hledger'
  have h₃ := insertLedgerAccountIfAbsent_accounts hledger''
  obtain ⟨-, hm⟩ := lockAccountRow_eq_ok.1 hlock
  subst hm
  obtain ⟨row, hmem, hactor, hscope, hkey⟩ := hs.granted
  obtain ⟨rfl, rfl⟩ | ⟨-, hnew⟩ := insertOperationIfAbsent_ok hinsert
  · simp only [Bool.false_eq_true, if_false, pure_eq_ok] at h
    obtain ⟨-, rfl⟩ := h
    rw [h₃.accounts, h₂.accounts, h₁.accounts]
  · obtain ⟨-, hfree, -⟩ := insertOperation_eq_ok.1 hnew
    rw [h₃.operations, h₂.operations, h₁.operations] at hfree
    exact absurd ⟨hactor, hscope, hkey⟩ (hfree row hmem)

/-- Whoever is provisioned has an account, and the initial grant on record. -/
theorem provisionUser_provisioned {balance : CoinBalance}
    (h : provisionUser digests settings userId fresh now s = .ok (balance, s')) :
    Provisioned s'.db userId := by
  simp only [provisionUser, bind_eq_ok] at h
  obtain ⟨_, m, -, account, m', hlock, inserted, m₁, hinsert, h⟩ := h
  obtain ⟨hfind, rfl⟩ := lockAccountRow_eq_ok.1 hlock
  obtain ⟨hmem, hid⟩ := find?_key_eq_some hfind
  have hdone : Provisioned m₁.db userId := by
    simp only [insertOperationIfAbsent, select_bind] at hinsert
    obtain ⟨⟨row, hrow, hkey⟩, hinsert⟩ | ⟨-, hinsert⟩ := ite_eq_ok.1 hinsert
    · obtain ⟨-, rfl⟩ := pure_eq_ok.1 hinsert
      exact ⟨⟨account, hmem, hid⟩, row, hrow, hkey⟩
    · simp only [bind_eq_ok, pure_eq_ok] at hinsert
      obtain ⟨_, _, hnew, -, rfl⟩ := hinsert
      obtain ⟨-, -, -, rfl⟩ := insertOperation_eq_ok.1 hnew
      exact ⟨⟨account, hmem, hid⟩, _, List.mem_append_right _ (List.mem_singleton.2 rfl), rfl, rfl,
        rfl⟩
  have hrest : RescuesKept m₁ s' := by
    have hgrant : Within RescuesKept (if inserted = true then do
        let granted ←
          applyGrant digests userId fresh.operationId settings.initialGrantCoin now false
        return balanceView granted
      else return balanceView account) :=
      .ite (.bind (applyGrant_rescues _) fun _ => .pure _) (.pure _)
    exact hgrant _ _ _ h
  exact hrest.provisioned userId hdone

/-! ### Steps -/

section Steps

variable {db db' : Database} {label : SystemLabel} {t : ℤ}

/-- Everybody registered has been provisioned. -/
def AllProvisioned (db : Database) : Prop := ∀ userId ∈ db.users, Provisioned db userId

theorem Initial.allProvisioned (h : Initial db) : AllProvisioned db := by
  intro userId hmem
  rw [h.users] at hmem
  cases hmem

/-- A rescue leaves users and operations in place. -/
theorem lastRescue_updateWhere {amount : ℤ} {other : String}
    (h : db'.economy.accounts = updateWhere (fun account => account.userId = userId)
      (AccountRow.rescued now amount) db.economy.accounts) :
    lastRescue db' other = if other = userId
      then (findAccount db userId).map fun account => max (account.lastRescueGrantAt.getD now) now
      else lastRescue db other := by
  unfold lastRescue findAccount
  rw [h, find?_updateWhere (AccountRow.rescued_userId now amount)]
  split_ifs with hsame
  · subst hsame
    cases hfind : db.economy.accounts.find? fun account => account.userId = other with
    | none => rfl
    | some account =>
      obtain ⟨-, hid⟩ := find?_key_eq_some hfind
      simp only [Option.map_some, hid, if_true, AccountRow.rescued, Option.bind_some]
  · cases hfind : db.economy.accounts.find? fun account => account.userId = other with
    | none => rfl
    | some account =>
      obtain ⟨-, rfl⟩ := find?_key_eq_some hfind
      simp only [Option.map_some, hsame, if_false]

/-- The rescue issues Coin: its key is new, and it answers with its own operation. -/
def GrantsRescue (digests : Digests) (settings : Settings) (userId : String) (db : Database)
    (label : SystemLabel) (db' : Database) : Prop :=
  ∃ idempotencyKey fresh now balance operationId,
    label = .call (.rescue userId idempotencyKey) fresh now ∧
    NewRescueKey db userId idempotencyKey ∧
    withTransaction (rescue digests settings userId idempotencyKey fresh now) db =
      .ok (.rescueGrant balance (some operationId), db')

/-- What a grant finds and leaves. -/
theorem GrantsRescue.accounts (h : GrantsRescue digests settings userId db label db') :
    ∃ account now, findAccount db userId = some account ∧ Rescuable settings account now ∧
      db'.economy.accounts = updateWhere (fun other => other.userId = userId)
        (AccountRow.rescued now
          (settings.rescueBalanceCoin - (account.availableCoin + account.reservedCoin)))
        db.economy.accounts := by
  obtain ⟨idempotencyKey, fresh, now, balance, operationId, -, hnew, h⟩ := h
  obtain ⟨s, hrescue, -, rfl⟩ := withTransaction_eq_ok.1 h
  generalize hresponse : ResponseSnapshot.rescueGrant balance (some operationId) = response
    at hrescue
  cases rescue_outcome hrescue with
  | replayed _ hold => exact absurd hnew hold
  | refused account => cases hresponse
  | granted account updated _ _ hfind hrescuable haccounts =>
    exact ⟨account, now, hfind, hrescuable, haccounts⟩

/-- A grant makes the account whole. -/
theorem GrantsRescue.balance (h : GrantsRescue digests settings userId db label db') :
    ∃ account account', findAccount db userId = some account ∧
      account.availableCoin + account.reservedCoin < settings.rescueBalanceCoin ∧
      findAccount db' userId = some account' ∧
      account'.availableCoin + account'.reservedCoin = settings.rescueBalanceCoin := by
  obtain ⟨account, now, hfind, hrescuable, haccounts⟩ := h.accounts
  refine ⟨account, account.rescued now
    (settings.rescueBalanceCoin - (account.availableCoin + account.reservedCoin)), hfind,
    hrescuable.1, ?_, ?_⟩
  · unfold findAccount at hfind ⊢
    rw [haccounts, find?_updateWhere (AccountRow.rescued_userId _ _), hfind]
    simp only [Option.map_some, (find?_key_eq_some hfind).2, if_true]
  · simp only [AccountRow.rescued, AccountRow.move]
    ring

/-- A grant is recorded at a time that is a window after the last one, or later. -/
theorem GrantsRescue.recorded (h : GrantsRescue digests settings userId db label db') :
    ∃ t, lastRescue db' userId = some t ∧
      ∀ last, lastRescue db userId = some last → last + settings.rescueWindowMs ≤ t := by
  obtain ⟨account, now, hfind, hrescuable, haccounts⟩ := h.accounts
  refine ⟨max (account.lastRescueGrantAt.getD now) now, ?_, fun last hlast => ?_⟩
  · rw [lastRescue_updateWhere haccounts, if_pos rfl, hfind]
    rfl
  · rw [lastRescue, hfind, Option.bind_some] at hlast
    have hwindow := hrescuable.2 last hlast
    rw [hlast, Option.getD_some]
    omega

/-- A rescue that does not grant moves nothing. -/
theorem rescue_kept (h : SystemStep digests settings codec db
      (.call (.rescue userId idempotencyKey) fresh now) db')
    (hnot : ¬ GrantsRescue digests settings userId db
      (.call (.rescue userId idempotencyKey) fresh now) db') :
    db'.economy.accounts = db.economy.accounts := by
  cases h with
  | rolledBack => rfl
  | committed h =>
    obtain ⟨response, h⟩ := withTransaction_discard.1 h
    obtain ⟨s, hrescue, -, rfl⟩ := withTransaction_eq_ok.1 h
    cases rescue_outcome hrescue with
    | replayed => rfl
    | refused account _ _ haccounts => exact haccounts
    | granted account updated _ hnew =>
      exact absurd ⟨_, _, _, _, _, rfl, hnew, h⟩ hnot

/-- Outside of rescues and registrations, a step keeps what is recorded of rescues. -/
theorem rescuesKept_of_step (h : SystemStep digests settings codec db label db')
    (hlabel : ∀ call fresh now, label = .call call fresh now → call.KeepsRescues) :
    RescuesKept ⟨db, []⟩ ⟨db', []⟩ := by
  cases h with
  | rolledBack => exact Std.Refl.refl _
  | room => exact .of_eq rfl rfl (List.Subset.refl _)
  | committed h =>
    obtain ⟨s, hrun, -, rfl⟩ := withTransaction_eq_ok.1 h
    have hkept := runCall_rescuesKept (hlabel _ _ _ rfl) _ _ _ hrun
    exact ⟨⟨hkept.users, hkept.provisioned⟩, hkept.rescues⟩

/-- A registration: the user is new, and is provisioned. -/
theorem registerUser_step (h : SystemStep digests settings codec db
      (.call (.registerUser userId) fresh now) db') :
    db' = db ∨ db'.users = db.users ++ [userId] ∧ Provisioned db' userId ∧
      (∀ other, lastRescue db' other = lastRescue db other) ∧
      ∀ other, Provisioned db other → Provisioned db' other := by
  cases h with
  | rolledBack => exact .inl rfl
  | committed h =>
    obtain ⟨balance, h⟩ := withTransaction_discard.1 h
    obtain ⟨s, hrun, -, rfl⟩ := withTransaction_eq_ok.1 h
    simp only [registerUser, select_bind, check_bind_eq_ok, modify_bind] at hrun
    obtain ⟨-, hrun⟩ := hrun
    have hkept := provisionUser_rescues _ _ _ hrun
    exact .inr ⟨hkept.users, provisionUser_provisioned hrun, hkept.rescues,
      fun other h => hkept.provisioned other ⟨h.account, h.granted⟩⟩

/-- The recorded time of a rescue never goes back. -/
theorem lastRescue_le (h : SystemStep digests settings codec db label db')
    (ht : lastRescue db userId = some t) : ∃ t', lastRescue db' userId = some t' ∧ t ≤ t' := by
  by_cases hlabel : ∀ call fresh now, label = .call call fresh now → call.KeepsRescues
  · exact ⟨t, ((rescuesKept_of_step h hlabel).rescues userId).trans ht, le_rfl⟩
  · push Not at hlabel
    obtain ⟨call, fresh, now, rfl, hcall⟩ := hlabel
    cases call with
    | registerUser other =>
      obtain rfl | ⟨-, -, hsame, -⟩ := registerUser_step h
      · exact ⟨t, ht, le_rfl⟩
      · exact ⟨t, (hsame userId).trans ht, le_rfl⟩
    | rescue other key =>
      by_cases hgrants : GrantsRescue digests settings other db
        (.call (.rescue other key) fresh now) db'
      · obtain ⟨account, now, hfind, -, haccounts⟩ := hgrants.accounts
        rw [lastRescue_updateWhere haccounts]
        split_ifs with hsame
        · subst hsame
          rw [lastRescue, hfind, Option.bind_some] at ht
          refine ⟨max t now, ?_, le_max_left _ _⟩
          rw [hfind, Option.map_some, ht, Option.getD_some]
        · exact ⟨t, ht, le_rfl⟩
      · have haccounts := rescue_kept h hgrants
        refine ⟨t, ?_, le_rfl⟩
        rw [lastRescue, findAccount, haccounts]
        exact ht
    | _ => exact absurd trivial hcall

theorem AllProvisioned.step (h : AllProvisioned db)
    (hstep : SystemStep digests settings codec db label db') : AllProvisioned db' := by
  by_cases hlabel : ∀ call fresh now, label = .call call fresh now → call.KeepsRescues
  · have hkept := rescuesKept_of_step hstep hlabel
    exact fun userId hmem => hkept.provisioned userId (h userId (hkept.users ▸ hmem))
  · push Not at hlabel
    obtain ⟨call, fresh, now, rfl, hcall⟩ := hlabel
    cases call with
    | registerUser other =>
      obtain rfl | ⟨husers, hother, -, hkept⟩ := registerUser_step hstep
      · exact h
      · intro userId hmem
        rw [husers] at hmem
        obtain hmem | hmem := List.mem_append.1 hmem
        · exact hkept userId (h userId hmem)
        · rwa [List.mem_singleton.1 hmem]
    | rescue other key =>
      cases hstep with
      | rolledBack => exact h
      | committed hstep =>
        obtain ⟨response, hstep⟩ := withTransaction_discard.1 hstep
        obtain ⟨s, hrescue, -, rfl⟩ := withTransaction_eq_ok.1 hstep
        have hkept := rescue_provisions _ _ _ _ hrescue
        exact fun userId hmem => hkept.provisioned userId (h userId (hkept.users ▸ hmem))
    | _ => exact absurd trivial hcall

end Steps

/-- Provisioning a user anew moves nothing, once everybody has been provisioned. -/
theorem provisionPrincipal_kept {db db' : Database} (hall : AllProvisioned db)
    (h : SystemStep digests settings codec db (.call (.provisionPrincipal userId) fresh now) db') :
    db'.economy.accounts = db.economy.accounts := by
  cases h with
  | rolledBack => rfl
  | committed h =>
    obtain ⟨balance, h⟩ := withTransaction_discard.1 h
    obtain ⟨s, hrun, -, rfl⟩ := withTransaction_eq_ok.1 h
    simp only [provisionPrincipal, select_bind, check_bind_eq_ok] at hrun
    obtain ⟨hmem, hrun⟩ := hrun
    exact provisionUser_of_provisioned (hall userId hmem) hrun

theorem lastRescue_le_run {db db' : Database} {labels : List SystemLabel} {t : ℤ}
    (hrun : Run (SystemStep digests settings codec) db labels db')
    (ht : lastRescue db userId = some t) : ∃ t', lastRescue db' userId = some t' ∧ t ≤ t' := by
  refine hrun.invariant (I := fun db => ∃ t', lastRescue db userId = some t' ∧ t ≤ t')
    (fun m l m' hm hstep => ?_) ⟨t, ht, le_rfl⟩
  obtain ⟨t', ht', hle⟩ := hm
  obtain ⟨t'', ht'', hle'⟩ := lastRescue_le hstep ht'
  exact ⟨t'', ht'', hle.trans hle'⟩

/-- A grant finds an account below the minimum and brings it there; the grants of a user are
recorded a window apart; and what a rescue call does besides, in either of its transactions, moves
nothing. -/
theorem rescues_not_farmed (digests : Digests) (settings : Settings) (codec : Server.Codec)
    {start db : Database} {labels : List SystemLabel} (hinitial : Initial start)
    (hrun : Run (SystemStep digests settings codec) start labels db) (userId : String) :
    (∀ label db', GrantsRescue digests settings userId db label db' →
      (∃ account account', findAccount db userId = some account ∧
        account.availableCoin + account.reservedCoin < settings.rescueBalanceCoin ∧
        findAccount db' userId = some account' ∧
        account'.availableCoin + account'.reservedCoin = settings.rescueBalanceCoin) ∧
      ∃ t, lastRescue db' userId = some t ∧
        ∀ between m label' m', Run (SystemStep digests settings codec) db' between m →
          GrantsRescue digests settings userId m label' m' →
          ∃ t', lastRescue m' userId = some t' ∧ t + settings.rescueWindowMs ≤ t') ∧
    (∀ idempotencyKey fresh now db',
      SystemStep digests settings codec db (.call (.rescue userId idempotencyKey) fresh now) db' →
      ¬ GrantsRescue digests settings userId db
        (.call (.rescue userId idempotencyKey) fresh now) db' →
      db'.economy.accounts = db.economy.accounts) ∧
    ∀ fresh now db',
      SystemStep digests settings codec db (.call (.provisionPrincipal userId) fresh now) db' →
      db'.economy.accounts = db.economy.accounts := by
  have hall : AllProvisioned db :=
    hrun.invariant (fun _ _ _ h hstep => h.step hstep) hinitial.allProvisioned
  refine ⟨fun label db' hgrants => ⟨hgrants.balance, ?_⟩,
    fun key fresh now db' hstep hnot => rescue_kept hstep hnot,
    fun fresh now db' hstep => provisionPrincipal_kept hall hstep⟩
  obtain ⟨t, ht, -⟩ := hgrants.recorded
  refine ⟨t, ht, fun between m label' m' hbetween hgrants' => ?_⟩
  obtain ⟨last, hlast, hle⟩ := lastRescue_le_run hbetween ht
  obtain ⟨t', ht', hwindow⟩ := hgrants'.recorded
  exact ⟨t', ht', (add_le_add_left hle _).trans (hwindow last hlast)⟩

/-- An initial grant of 50, and rescues up to 100. -/
def poorSettings : Settings := ⟨50, 100, 60000, 60000, 60000⟩

noncomputable def aliceRegistered : Database :=
  afterCall plainDigests poorSettings (.registerUser "alice") (freshNamed "alice") 1000
    emptyDatabase

/-- Alice is rescued as soon as she has registered. -/
theorem rescues_not_farmed_alice :
    ∃ db', GrantsRescue plainDigests poorSettings "alice" aliceRegistered
        (.call (.rescue "alice" "first") (freshNamed "first") 2000) db' ∧
      ∃ t, lastRescue db' "alice" = some t ∧
        ∀ between m label' m', Run (SystemStep plainDigests poorSettings plainCodec) db' between m →
          GrantsRescue plainDigests poorSettings "alice" m label' m' →
          ∃ t', lastRescue m' "alice" = some t' ∧ t + 60000 ≤ t' := by
  have hregistered : Run (SystemStep plainDigests poorSettings plainCodec) emptyDatabase
      [.call (.registerUser "alice") (freshNamed "alice") 1000] aliceRegistered :=
    .cons (systemStep_afterCall ..) (.nil _)
  obtain ⟨hgrants, -⟩ := rescues_not_farmed plainDigests poorSettings plainCodec emptyDatabase_initial
    hregistered "alice"
  have hnew : NewRescueKey aliceRegistered "alice" "first" := fun row hrow => by
    cases hrow with
    | head => exact fun hkey => nomatch hkey.2.1
    | tail _ hrow => cases hrow
  obtain ⟨db', hgranted⟩ : ∃ db', GrantsRescue plainDigests poorSettings "alice" aliceRegistered
      (.call (.rescue "alice" "first") (freshNamed "first") 2000) db' :=
    ⟨_, "first", freshNamed "first", 2000, _, _, rfl, hnew, rfl⟩
  exact ⟨db', hgranted, (hgrants _ db' hgranted).2⟩

end Pootown.Api
