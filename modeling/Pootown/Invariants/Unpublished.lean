import Mathlib.Tactic
import Pootown.Transition.Gameplay

/-!
# Commands that no event tells of

Every accepted command is published, except two: the end of a turn, and a payment that the player
whose turn it is cannot make, which leaves them to declare bankruptcy.

* `amountDue`: what a command pays;
* `Unpublished`, and `events_eq_nil_iff`: the accepted commands without events are those.
-/

namespace Pootown

open Fallible

/-- What the player whose turn it is pays with a command, if they are bankrupt where they cannot: a
rent, the MEV tax, or the fine. -/
def amountDue (state : ActiveGameplayAggregateState) : GameplayCommandBody → Option ℤ
  | .property (.payRent position) =>
    state.lastDice.bind fun dice => calculateRent state.properties position dice.total
  | .property .payMevTax => some TaxKind.mev.amount
  | .jail .payJailFine => some GameplayPolicy.jailFine
  | _ => none

/-- The command ends the turn, or pays what the player whose turn it is does not have. -/
def Unpublished (state : ActiveGameplayAggregateState) (body : GameplayCommandBody) : Prop :=
  body = .turn .endTurn ∨
    ∃ current ∈ activeGameplayPlayer state, ∃ due ∈ amountDue state body, current.cash < due

variable {state : ActiveGameplayAggregateState} {state' : GameplayAggregateState}
  {active : ActiveGameplayAggregateState} {current : GameplayPlayerState}
  {events : List GameplayDomainEvent} {nowMs : ℤ} {context : GameplayCommandContext}

theorem not_unpublished_of_free {body : GameplayCommandBody} (hturn : body ≠ .turn .endTurn)
    (hfree : amountDue state body = none) : ¬ Unpublished state body := by
  rintro (hend | ⟨current, -, due, hdue, -⟩)
  · exact hturn hend
  · rw [hfree] at hdue
    cases hdue

/-- A payment is not published exactly when the player whose turn it is does not have what is due. -/
theorem unpublished_iff_of_due {body : GameplayCommandBody} {due : ℤ} (hc : IsCurrent state current)
    (hturn : body ≠ .turn .endTurn) (hdue : amountDue state body = some due) :
    Unpublished state body ↔ current.cash < due := by
  constructor
  · rintro (hend | ⟨other, hother, due', hdue', hlt⟩)
    · exact absurd hend hturn
    · rw [hdue] at hdue'
      cases hdue'
      obtain rfl := hc.unique (activeGameplayPlayer_eq_some.1 hother)
      exact hlt
  · intro hlt
    exact .inr ⟨current, activeGameplayPlayer_eq_some.2 hc, due, hdue, hlt⟩

/-! ### Payments -/

theorem transitionPayRent_events {position : ℕ}
    (h : transitionPayRent state current position nowMs = .ok (active, events)) : ∃ due,
      amountDue state (.property (.payRent position)) = some due ∧
      (events = [] ↔ current.cash < due) := by
  simp only [transitionPayRent, bind_eq_ok, require_eq_ok, requireSome_eq_ok, exists_const] at h
  obtain ⟨-, lastDice, hdice, owner, -, -, amount, hamount, turn, -, h⟩ := h
  refine ⟨amount, by simp [amountDue, hdice, hamount], ?_⟩
  split at h
  next hpay =>
    simp only [requireBankruptcy, bind_eq_ok, requireSome_eq_ok, pure_eq_ok, Prod.mk.injEq] at h
    obtain ⟨_, -, -, rfl⟩ := h
    exact iff_of_true rfl (checkedSubtractMatchCash_eq_none.1 hpay)
  next payerCash hpay =>
    simp only [bind_eq_ok, requireSome_eq_ok, pure_eq_ok, Prod.mk.injEq] at h
    obtain ⟨_, -, -, rfl⟩ := h
    exact iff_of_false (List.cons_ne_nil _ _) (not_lt.2 (checkedSubtractMatchCash_eq_some.1 hpay).2)

/-- A priority fee that cannot be paid is refused. -/
theorem transitionPayTax_events {taxKind : TaxKind}
    (h : transitionPayTax state current taxKind nowMs = .ok (active, events)) :
    events = [] ↔ taxKind = .mev ∧ current.cash < taxKind.amount := by
  simp only [transitionPayTax, bind_eq_ok, require_eq_ok, exists_const] at h
  obtain ⟨-, -, h⟩ := h
  split at h
  next hpay =>
    simp only [requireBankruptcy, bind_eq_ok, require_eq_ok, requireSome_eq_ok, pure_eq_ok,
      exists_const, Prod.mk.injEq] at h
    obtain ⟨hkind, _, -, -, rfl⟩ := h
    refine iff_of_true rfl ⟨?_, checkedSubtractMatchCash_eq_none.1 hpay⟩
    cases taxKind with
    | mev => rfl
    | priorityFee => exact absurd rfl hkind
  next cash hpay =>
    simp only [bind_eq_ok, requireSome_eq_ok, pure_eq_ok, Prod.mk.injEq] at h
    obtain ⟨_, -, -, rfl⟩ := h
    exact iff_of_false (List.cons_ne_nil _ _)
      fun hboth => not_lt.2 (checkedSubtractMatchCash_eq_some.1 hpay).2 hboth.2

theorem transitionBuilding_events {action : BuildingAction} {position : ℕ}
    (h : transitionBuilding state current action position nowMs = .ok (active, events)) :
    events ≠ [] := by
  simp only [transitionBuilding, bind_eq_ok, requireSome_eq_ok] at h
  obtain ⟨turn, -, h⟩ := h
  split at h
  · cases h
  · simp only [bind_eq_ok, requireSome_eq_ok, pure_eq_ok, Prod.mk.injEq] at h
    obtain ⟨_, -, -, rfl⟩ := h
    exact List.cons_ne_nil _ _

theorem transitionGameplayProperty_events {command : GameplayPropertyCommand} {expected : ℤ}
    (h : transitionGameplayProperty state command expected context = .ok (active, events)) :
    events = [] ↔ Unpublished state (.property command) := by
  simp only [transitionGameplayProperty, bind_eq_ok, require_eq_ok, requireSome_eq_ok,
    exists_const, checkCommand_eq_ok, activeGameplayPlayer_eq_some] at h
  obtain ⟨-, current, hc, -, -, h⟩ := h
  have hpublished : amountDue state (.property command) = none → events ≠ [] →
      (events = [] ↔ Unpublished state (.property command)) := fun hfree hne =>
    iff_of_false hne (not_unpublished_of_free (by simp) hfree)
  cases command with
  | declineProperty position =>
    simp only [transitionDeclineProperty, bind_eq_ok, pure_eq_ok, Prod.mk.injEq] at h
    obtain ⟨_, -, -, rfl⟩ := h
    exact hpublished rfl (List.cons_ne_nil _ _)
  | buyProperty position =>
    simp only [transitionBuyProperty, bind_eq_ok, requireSome_eq_ok, pure_eq_ok,
      Prod.mk.injEq] at h
    obtain ⟨_, -, _, -, -, rfl⟩ := h
    exact hpublished rfl (List.cons_ne_nil _ _)
  | payRent position =>
    obtain ⟨due, hdue, hevents⟩ := transitionPayRent_events h
    rw [hevents, unpublished_iff_of_due hc (by simp) hdue]
  | payMevTax =>
    rw [transitionPayTax_events h, unpublished_iff_of_due hc (by simp) rfl]
    exact and_iff_right rfl
  | payPriorityFeeTax =>
    exact hpublished rfl fun hnone => absurd ((transitionPayTax_events h).1 hnone).1 (by simp)
  | buildHouse position => exact hpublished rfl (transitionBuilding_events h)
  | buildHotel position => exact hpublished rfl (transitionBuilding_events h)
  | sellBuilding position buildingType => exact hpublished rfl (transitionBuilding_events h)

theorem transitionGameplayJail_events {command : GameplayJailCommand} {expected : ℤ}
    (h : transitionGameplayJail state command expected context = .ok (active, events)) :
    events = [] ↔ Unpublished state (.jail command) := by
  simp only [transitionGameplayJail, bind_eq_ok, require_eq_ok, requireSome_eq_ok,
    exists_const, checkCommand_eq_ok, activeGameplayPlayer_eq_some] at h
  obtain ⟨-, current, hc, -, -, h⟩ := h
  split at h
  · cases h
  next result hresult =>
    cases command with
    | payJailFine =>
      rw [unpublished_iff_of_due hc (by simp) rfl]
      obtain ⟨-, ⟨hout, -, hcash⟩ | ⟨hout, hmethod, hcash, -⟩⟩ := payJailFine_eq_ok hresult
      · simp only [hout, if_true, bind_eq_ok, requireSome_eq_ok, pure_eq_ok, Prod.mk.injEq] at h
        obtain ⟨_, -, -, rfl⟩ := h
        exact iff_of_true rfl hcash
      · simp only [hout, hmethod, reduceCtorEq, if_false, bind_eq_ok, require_eq_ok,
          requireSome_eq_ok, pure_eq_ok, exists_const, Option.some.injEq, exists_eq_left',
          true_and, Prod.mk.injEq] at h
        obtain ⟨_, -, -, rfl⟩ := h
        exact iff_of_false (List.cons_ne_nil _ _) (not_lt.2 hcash)
    | useJailCard =>
      obtain ⟨-, hout, hmethod, -⟩ := useJailCard_eq_ok hresult
      simp only [hout, hmethod, reduceCtorEq, if_false, bind_eq_ok, require_eq_ok,
        requireSome_eq_ok, pure_eq_ok, exists_const, Option.some.injEq, exists_eq_left',
        true_and, Prod.mk.injEq] at h
      obtain ⟨_, -, -, rfl⟩ := h
      exact iff_of_false (List.cons_ne_nil _ _) (not_unpublished_of_free (by simp) rfl)

/-! ### Every command -/

/-- A roll, a card, a bankruptcy, a trade and a timer are always published. -/
theorem GameplayStep.unpublished_or_pays {body : GameplayCommandBody}
    (h : GameplayStep state context body state' events) :
    (body = .turn .endTurn ∧ events = []) ∨ (∃ command, body = .property command) ∨
      (∃ command, body = .jail command) ∨
      (body ≠ .turn .endTurn ∧ amountDue state body = none ∧ events ≠ []) := by
  cases h with
  | turn command current state' events hc hstep =>
    cases hstep with
    | endTurn => exact .inl ⟨rfl, rfl⟩
    | roll _ dice rng _ _ hroll _ _ hstep =>
      refine .inr (.inr (.inr ⟨by simpa using hroll, rfl, ?_⟩))
      cases hstep <;> exact List.cons_ne_nil _ _
  | property command => exact .inr (.inl ⟨command, rfl⟩)
  | jail command => exact .inr (.inr (.inl ⟨command, rfl⟩))
  | card command current cardId rng resolution state' events hphase hc hdraw hres hstep =>
    refine .inr (.inr (.inr ⟨by simp, rfl, ?_⟩))
    cases hstep with
    | bankruptcy => exact List.cons_ne_nil _ _
    | continued =>
      unfold cardEvents
      split <;> exact List.cons_ne_nil _ _
  | bankruptcy current resolution state' events hphase hc helim hstep =>
    refine .inr (.inr (.inr ⟨by simp, rfl, ?_⟩))
    cases hstep <;> exact List.cons_ne_nil _ _
  | trade command state' events hnone hstep =>
    refine .inr (.inr (.inr ⟨by simp, rfl, ?_⟩))
    cases hstep with
    | cleanup trades expired hbook hexpired => simpa using hexpired
    | _ => simp
  | timeout command current state' events hactor hnone hlimit hc hstep =>
    refine .inr (.inr (.inr ⟨by simp, rfl, ?_⟩))
    cases hstep <;> simp [forfeitEvents, endEvents]

/-- The accepted commands without events are the unpublished ones. -/
theorem events_eq_nil_iff {command : GameplayCommand}
    (h : transitionGameplay (.inProgress state) command context = .ok (state', events)) :
    events = [] ↔ Unpublished state command.body := by
  have hroute : routeGameplay state command context = .ok (state', events) := by
    simp only [transitionGameplay, bind_eq_ok, require_eq_ok, exists_const] at h
    exact h.2.2
  rcases (transitionGameplay_step h).2.unpublished_or_pays with ⟨hbody, hnone⟩ | ⟨body, hbody⟩ |
    ⟨body, hbody⟩ | ⟨hturn, hfree, hne⟩
  · exact iff_of_true hnone (.inl hbody)
  · rw [routeGameplay, hbody] at hroute
    obtain ⟨active, hproperty, -⟩ := keepsPlaying_eq_ok.1 hroute
    rw [hbody]
    exact transitionGameplayProperty_events hproperty
  · rw [routeGameplay, hbody] at hroute
    obtain ⟨active, hjail, -⟩ := keepsPlaying_eq_ok.1 hroute
    rw [hbody]
    exact transitionGameplayJail_events hjail
  · exact iff_of_false hne (not_unpublished_of_free hturn hfree)

end Pootown
