import Mathlib.Tactic
import Pootown.Library.Runs
import Pootown.Web.GameRoomClient

/-!
# Who owns a room

The client holds at most one open transport, as long as no connect call goes on after the wait for
its first state when the generation has moved on, the one check `connect` leaves out.

* `Sound`: the invariant, an account of every connect call by its phase;
* `UpToDate`: the condition on a step;
* `client_owns_one_room`: along every run of such steps;
* `not_client_owns_one_room`: a disconnect during the wait.
-/

namespace Pootown.Web

open Runs Tables

variable {υ σ : Type} {schemas : WireSchemas υ σ} {world world' : ClientWorld υ σ}
  {connection : Connection σ} {generation : ℕ} {held held' : Prop} {phase : ConnectPhase σ}
  {transport : Option RoomTransport}

/-! ### The account of a connect call -/

/-- There is a transport that has neither left nor been told to. -/
def IsOpen (transport : Option RoomTransport) : Prop :=
  ∃ room, transport = some room ∧ room.left = false ∧ room.toldToLeave = false

/-- Whatever transport there is has been told to leave. -/
def ToldToLeave (transport : Option RoomTransport) : Prop :=
  ∀ room, transport = some room → room.toldToLeave = true

def ConnectPhase.isWaiting : ConnectPhase σ → Bool
  | .awaitingState _ | .stateAwaited _ => true
  | _ => false

/-- What its phase says of a connect call; `held` is whether its room is the client's. -/
def PhaseSound (held : Prop) (transport : Option RoomTransport) : ConnectPhase σ → Prop
  | .connecting => ¬ held ∧ transport = none
  | .awaitingState _ | .stateAwaited _ => ¬ held ∧ transport ≠ none
  | .publishing _ => (held ∨ ToldToLeave transport) ∧ transport ≠ none
  | .resolved _ => held ∨ ¬ IsOpen transport
  | .leaving _ | .rejected _ => ¬ held ∧ ToldToLeave transport

structure Sound (world : ClientWorld υ σ) : Prop where
  keys : (world.connections.map Connection.generation).Nodup
  bounded : ∀ connection ∈ world.connections, connection.generation ≤ world.generation
  latest : ∀ generation, world.room = some generation → generation = world.generation
  phases : ∀ connection ∈ world.connections, PhaseSound (world.room = some connection.generation)
    connection.transport connection.phase
  alone : ∀ connection ∈ world.connections, ∀ other ∈ world.connections,
    IsOpen connection.transport → IsOpen other.transport → connection = other

theorem ToldToLeave.not_open (h : ToldToLeave transport) : ¬ IsOpen transport := by
  rintro ⟨room, ht, -, htold⟩
  rw [h room ht] at htold
  cases htold

theorem toldToLeave_map (transport : Option RoomTransport) :
    ToldToLeave (transport.map RoomTransport.tellToLeave) := by
  intro room ht
  obtain ⟨before, -, rfl⟩ := Option.map_eq_some_iff.1 ht
  rfl

/-- A room nobody holds is open while it is waited for only. -/
theorem PhaseSound.isWaiting (h : PhaseSound held transport phase) (hheld : ¬ held)
    (hopen : IsOpen transport) : phase.isWaiting = true := by
  cases phase with
  | connecting =>
    obtain ⟨room, ht, -⟩ := hopen
    rw [h.2] at ht
    cases ht
  | awaitingState | stateAwaited => rfl
  | publishing => exact absurd hopen (h.1.resolve_left hheld).not_open
  | resolved => exact absurd hopen (h.resolve_left hheld)
  | leaving | rejected => exact absurd hopen h.2.not_open

/-- Only a room whose state is published is held. -/
theorem PhaseSound.of_held (h : PhaseSound held transport phase) (hheld : held) :
    phase.isPublishing = true ∨ ∃ state, phase = .resolved state := by
  cases phase with
  | publishing => exact .inl rfl
  | resolved state => exact .inr ⟨state, rfl⟩
  | connecting | awaitingState | stateAwaited | leaving | rejected => exact absurd hheld h.1

/-- Where a room is no more held than before, the account stays. -/
theorem PhaseSound.congr (h : PhaseSound held transport phase) (hiff : held' ↔ held) :
    PhaseSound held' transport phase := by
  rwa [propext hiff]

/-- A room told to leave, and let go, is accounted for in every phase. -/
theorem PhaseSound.tellToLeave (h : PhaseSound held transport phase) (hheld : ¬ held') :
    PhaseSound held' (transport.map RoomTransport.tellToLeave) phase := by
  have htold := toldToLeave_map transport
  cases phase with
  | connecting => exact ⟨hheld, Option.map_eq_none_iff.2 h.2⟩
  | awaitingState | stateAwaited => exact ⟨hheld, mt Option.map_eq_none_iff.1 h.2⟩
  | publishing => exact ⟨.inr htold, mt Option.map_eq_none_iff.1 h.2⟩
  | resolved => exact .inr htold.not_open
  | leaving | rejected => exact ⟨hheld, htold⟩

/-- What is sent, heard or listened for opens nothing and takes no leave back. -/
structure Harmless (update : RoomTransport → RoomTransport) : Prop where
  told : ∀ room, room.toldToLeave = true → (update room).toldToLeave = true
  left : ∀ room, room.left = true → (update room).left = true

theorem Harmless.isOpen {update : RoomTransport → RoomTransport} (hu : Harmless update)
    (h : IsOpen (transport.map update)) : IsOpen transport := by
  obtain ⟨room, ht, hleft, htold⟩ := h
  obtain ⟨before, rfl, rfl⟩ := Option.map_eq_some_iff.1 ht
  refine ⟨before, rfl, Bool.eq_false_iff.2 fun h => ?_, Bool.eq_false_iff.2 fun h => ?_⟩
  · rw [hu.left before h] at hleft
    cases hleft
  · rw [hu.told before h] at htold
    cases htold

theorem Harmless.toldToLeave {update : RoomTransport → RoomTransport} (hu : Harmless update)
    (h : ToldToLeave transport) : ToldToLeave (transport.map update) := by
  intro room ht
  obtain ⟨before, rfl, rfl⟩ := Option.map_eq_some_iff.1 ht
  exact hu.told before (h before rfl)

theorem PhaseSound.map {update : RoomTransport → RoomTransport} (hu : Harmless update)
    (h : PhaseSound held transport phase) : PhaseSound held (transport.map update) phase := by
  cases phase with
  | connecting => exact ⟨h.1, Option.map_eq_none_iff.2 h.2⟩
  | awaitingState | stateAwaited => exact ⟨h.1, mt Option.map_eq_none_iff.1 h.2⟩
  | publishing => exact ⟨h.1.imp_right hu.toldToLeave, mt Option.map_eq_none_iff.1 h.2⟩
  | resolved => exact h.imp_right (mt hu.isOpen)
  | leaving | rejected => exact ⟨h.1, hu.toldToLeave h.2⟩

theorem harmless_tellToLeave : Harmless RoomTransport.tellToLeave := ⟨fun _ _ => rfl, fun _ h => h⟩

theorem harmless_sendAll (messages : List ClientMessage) :
    Harmless (RoomTransport.sendAll messages) := ⟨fun _ h => h, fun _ h => h⟩

theorem harmless_afterEvent (event : TransportEvent υ) :
    Harmless fun room => room.afterEvent event := by
  constructor <;> intro room h <;> cases event <;> first | exact h | rfl

/-! ### Changes to the world -/

/-- One connect call changes, and the rest keep what they hold. -/
theorem Sound.update {update : Connection σ → Connection σ} (h : Sound world)
    (hconnections : world'.connections = updateWhere
      (fun connection => connection.generation = generation) update world.connections)
    (hkeys : ∀ connection, (update connection).generation = connection.generation)
    (hgeneration : world.generation ≤ world'.generation)
    (hlatest : ∀ room, world'.room = some room → room = world'.generation)
    (hothers : ∀ connection ∈ world.connections, connection.generation ≠ generation →
      (world'.room = some connection.generation ↔ world.room = some connection.generation))
    (hthis : ∀ connection ∈ world.connections, connection.generation = generation →
      PhaseSound (world'.room = some generation) (update connection).transport
        (update connection).phase)
    (hopen : ∀ connection ∈ world.connections, connection.generation = generation →
      IsOpen (update connection).transport → IsOpen connection.transport ∨
        ∀ other ∈ world.connections, other ≠ connection → ¬ IsOpen other.transport) :
    Sound world' := by
  have hmem : ∀ connection ∈ world'.connections, ∃ old ∈ world.connections,
      connection = if old.generation = generation then update old else old := by
    intro connection hc
    rw [hconnections] at hc
    exact mem_updateWhere.1 hc
  refine ⟨?_, fun connection hc => ?_, hlatest, fun connection hc => ?_, ?_⟩
  · rw [hconnections, map_updateWhere fun connection _ _ => hkeys connection]
    exact h.keys
  · obtain ⟨old, hold, rfl⟩ := hmem connection hc
    refine le_trans ?_ hgeneration
    split_ifs
    · exact (hkeys old).le.trans (h.bounded old hold)
    · exact h.bounded old hold
  · obtain ⟨old, hold, rfl⟩ := hmem connection hc
    split_ifs with hg
    · rw [hkeys, hg]
      exact hthis old hold hg
    · exact (h.phases old hold).congr (hothers old hold hg)
  · -- an open transport was open before, or is the only one now
    intro connection hc other ho hopenc hopeno
    obtain ⟨old, hold, rfl⟩ := hmem connection hc
    obtain ⟨old', hold', rfl⟩ := hmem other ho
    have hsame : old = old' := by
      by_contra hne
      have hbefore : ∀ a ∈ world.connections, ∀ b ∈ world.connections, a ≠ b →
          IsOpen (if a.generation = generation then update a else a).transport →
          IsOpen (if b.generation = generation then update b else b).transport →
          IsOpen a.transport := by
        intro a ha b hb hab hopena hopenb
        split_ifs at hopena with hga
        · refine (hopen a ha hga hopena).resolve_right fun hnone => ?_
          have hgb : b.generation ≠ generation := fun hgb =>
            hab (eq_of_key_eq h.keys hb ha (hga.trans hgb.symm))
          rw [if_neg hgb] at hopenb
          exact hnone b hb (Ne.symm hab) hopenb
        · exact hopena
      exact hne (h.alone old hold old' hold' (hbefore old hold old' hold' hne hopenc hopeno)
        (hbefore old' hold' old hold (Ne.symm hne) hopeno hopenc))
    rw [hsame]

/-- Nothing the account is about changes. -/
theorem Sound.same (h : Sound world) (hconnections : world'.connections = world.connections)
    (hgeneration : world'.generation = world.generation) (hroom : world'.room = world.room) :
    Sound world' := by
  refine ⟨?_, ?_, ?_, ?_, ?_⟩
  · rw [hconnections]; exact h.keys
  · rw [hconnections, hgeneration]; exact h.bounded
  · rw [hroom, hgeneration]; exact h.latest
  · rw [hconnections, hroom]; exact h.phases
  · rw [hconnections]; exact h.alone

/-- The room of the client is given up and told to leave. -/
theorem Sound.released (h : Sound world) (hroom : world.room = some generation)
    (hconnections : world'.connections = updateWhere
      (fun connection => connection.generation = generation)
      (Connection.withTransport RoomTransport.tellToLeave) world.connections)
    (hgeneration : world.generation ≤ world'.generation) (hnone : world'.room = none) :
    Sound world' := by
  refine h.update hconnections (fun _ => rfl) hgeneration ?_ ?_ ?_ ?_
  · rw [hnone]
    exact fun _ hsome => nomatch hsome
  · intro connection _ hne
    rw [hnone, hroom, Option.some.injEq]
    exact ⟨fun hsome => (nomatch hsome), fun heq => absurd heq.symm hne⟩
  · intro connection hc _
    refine (h.phases connection hc).tellToLeave ?_
    rw [hnone]
    exact fun hsome => nomatch hsome
  · exact fun connection _ _ hopen => .inl (harmless_tellToLeave.isOpen hopen)

/-- One connect call changes, and nothing about generations and the room. -/
theorem Sound.updateConnection {update : Connection σ → Connection σ} (h : Sound world)
    (hkeys : ∀ connection, (update connection).generation = connection.generation)
    (hthis : ∀ connection ∈ world.connections, connection.generation = generation →
      PhaseSound (world.room = some generation) (update connection).transport
        (update connection).phase)
    (hopen : ∀ connection ∈ world.connections, connection.generation = generation →
      IsOpen (update connection).transport → IsOpen connection.transport ∨
        ∀ other ∈ world.connections, other ≠ connection → ¬ IsOpen other.transport) :
    Sound (world.updateConnection generation update) :=
  h.update rfl hkeys le_rfl h.latest (fun _ _ _ => Iff.rfl) hthis hopen

/-- A transport is used. -/
theorem Sound.withTransport {update : RoomTransport → RoomTransport} (h : Sound world)
    (hu : Harmless update) :
    Sound (world.updateConnection generation (Connection.withTransport update)) :=
  h.updateConnection (fun _ => rfl)
    (fun connection hc hg => hg ▸ (h.phases connection hc).map hu)
    fun _ _ _ hopen => .inl (hu.isOpen hopen)

theorem isActive_iff : isActive world generation = true ↔
    world.room = some generation ∧ world.generation = generation := by
  rw [isActive, decide_eq_true_iff]

theorem Sound.isActive_iff (h : Sound world) :
    isActive world generation = true ↔ world.room = some generation := by
  rw [Web.isActive_iff]
  exact ⟨And.left, fun hroom => ⟨hroom, (h.latest _ hroom).symm⟩⟩

/-! ### The calls -/

theorem Sound.connect {rawOptions : υ} (h : Sound world)
    (hok : connect schemas world rawOptions = .ok world') : Sound world' := by
  unfold Web.connect at hok
  split_ifs at hok with hfree
  obtain ⟨hroom, -⟩ := not_or.1 hfree
  rw [not_not] at hroom
  split at hok
  · cases hok
  next options hoptions =>
    cases hok
    have hold : ∀ connection ∈ world.connections,
        connection.generation ≠ world.generation + 1 := fun connection hc heq => by
      have := h.bounded connection hc
      omega
    refine ⟨nodup_append_key h.keys hold, ?_, fun generation hsome => ?_, ?_, ?_⟩
    · intro connection hc
      obtain hc | hc := List.mem_append.1 hc
      · exact (h.bounded connection hc).trans (Nat.le_succ _)
      · rw [List.mem_singleton.1 hc]
    · rw [hroom] at hsome
      cases hsome
    · intro connection hc
      obtain hc | hc := List.mem_append.1 hc
      · exact h.phases connection hc
      · rw [List.mem_singleton.1 hc]
        refine ⟨fun hsome => ?_, rfl⟩
        rw [hroom] at hsome
        cases hsome
    · intro connection hc other ho hopen hopen'
      obtain hc | hc := List.mem_append.1 hc
      · obtain ho | ho := List.mem_append.1 ho
        · exact h.alone connection hc other ho hopen hopen'
        · obtain ⟨room, ht, -⟩ := hopen'
          rw [List.mem_singleton.1 ho] at ht
          cases ht
      · obtain ⟨room, ht, -⟩ := hopen
        rw [List.mem_singleton.1 hc] at ht
        cases ht

theorem Sound.send {rawCommand : υ} (h : Sound world)
    (hok : send schemas world rawCommand = .ok world') : Sound world' := by
  unfold Web.send at hok
  split at hok
  · cases hok
  next room hroom =>
    split at hok
    · cases hok
    next command hcommand =>
      split_ifs at hok
      cases hok
      have hpending : Sound { world with pending := world.pending ++ [command] } :=
        h.same rfl rfl rfl
      exact hpending.withTransport (harmless_sendAll _)

theorem Sound.disconnect (h : Sound world) : Sound (disconnect world) := by
  unfold Web.disconnect
  cases hroom : world.room with
  | some room => exact h.released hroom rfl (Nat.le_succ _) rfl
  | none =>
    refine ⟨h.keys, fun connection hc => (h.bounded connection hc).trans (Nat.le_succ _),
      fun _ hsome => (nomatch hsome), fun connection hc => ?_, h.alone⟩
    refine (h.phases connection hc).congr ?_
    rw [hroom]
    rfl

theorem Sound.terminateProtocol (h : Sound world) : Sound (terminateProtocol world generation) := by
  unfold Web.terminateProtocol
  split_ifs with hactive
  · exact h.released (h.isActive_iff.1 hactive) rfl (Nat.le_succ _) rfl
  · exact h

/-! ### The continuations -/

/-- What `connect` does not check: a wait that ends with a state belongs to the latest generation,
and a connector does not open the latest room while an earlier one is waited for. -/
def UpToDate (world : ClientWorld υ σ) : ClientAction υ → Prop
  | .connectorResolves generation _ => generation = world.generation →
      ∀ connection ∈ world.connections, connection.phase.isWaiting = true →
        ¬ IsOpen connection.transport
  | .waitEnds generation => ∀ connection ∈ world.connections, connection.generation = generation →
      ∀ state, connection.phase = .stateAwaited (.ok state) → generation = world.generation
  | _ => True

theorem connection?_eq_some (h : world.connection? generation = some connection) :
    connection ∈ world.connections ∧ connection.generation = generation :=
  find?_key_eq_some h

theorem ready_eq_some (h : world.ready generation = some connection) :
    (∀ other ∈ world.connections, other.phase.isPublishing = false) ∧
      connection ∈ world.connections ∧ connection.generation = generation := by
  unfold ClientWorld.ready at h
  split_ifs at h with hidle
  refine ⟨fun other hmem => Bool.eq_false_iff.2 fun hpublishing => hidle ?_,
    connection?_eq_some h⟩
  exact List.any_eq_true.2 ⟨other, hmem, hpublishing⟩

/-- The only connect call of its generation. -/
theorem Sound.unique (h : Sound world) (hc : connection ∈ world.connections)
    (hg : connection.generation = generation) {other : Connection σ}
    (ho : other ∈ world.connections) (hgo : other.generation = generation) : other = connection :=
  eq_of_key_eq h.keys hc ho (hgo.trans hg.symm)

theorem phaseSound_wait {wire : RoomWireState} {attempt : ℕ} (hheld : ¬ held)
    (hsome : transport ≠ none) :
    PhaseSound held transport (waitForInitialPublicState schemas wire attempt) := by
  unfold waitForInitialPublicState
  split_ifs <;> exact ⟨hheld, hsome⟩

theorem Sound.connectorResolved {wire : RoomWireState} (h : Sound world)
    (hc : connection ∈ world.connections) (hg : connection.generation = generation)
    (hphase : connection.phase = .connecting)
    (hfresh : generation = world.generation → ∀ connection ∈ world.connections,
      connection.phase.isWaiting = true → ¬ IsOpen connection.transport) :
    Sound (connectorResolved schemas world generation wire) := by
  have hsound := h.phases connection hc
  rw [hphase, hg] at hsound
  obtain ⟨hheld, -⟩ := hsound
  have hclear : (clearConnecting world generation).connections = world.connections ∧
      (clearConnecting world generation).generation = world.generation ∧
      (clearConnecting world generation).room = world.room := by
    unfold clearConnecting
    split_ifs <;> exact ⟨rfl, rfl, rfl⟩
  obtain ⟨hconnections, hgeneration, hroom⟩ := hclear
  have h' := h.same hconnections hgeneration hroom
  unfold Web.connectorResolved
  refine h'.updateConnection (fun _ => ?_) (fun other ho hgo => ?_) fun other ho hgo hopen => ?_
  · split_ifs <;> rfl
  · rw [hroom]
    split_ifs
    · refine ⟨hheld, fun room ht => ?_⟩
      cases ht
      rfl
    · show PhaseSound _ (some _) (waitForInitialPublicState schemas wire 0)
      exact phaseSound_wait hheld (Option.some_ne_none _)
  · split_ifs at hopen with hstale
    · obtain ⟨room, ht, -, htold⟩ := hopen
      cases ht
      cases htold
    · right
      rw [not_not] at hstale
      intro rival hrival hne hopen'
      rw [hconnections] at hrival ho
      by_cases hroomr : world.room = some rival.generation
      · have hrg : rival.generation = generation := (h.latest _ hroomr).trans hstale.symm
        exact hne ((h.unique hc hg hrival hrg).trans (h.unique hc hg ho hgo).symm)
      · exact hfresh hstale rival hrival ((h.phases rival hrival).isWaiting hroomr hopen') hopen'

theorem Sound.connectorFailed (h : Sound world) (hc : connection ∈ world.connections)
    (hg : connection.generation = generation) (hphase : connection.phase = .connecting) :
    Sound (connectorFailed world generation) := by
  have hsound := h.phases connection hc
  rw [hphase, hg] at hsound
  have h' : Sound (clearConnecting world generation) := by
    unfold clearConnecting
    split_ifs
    · exact h.same rfl rfl rfl
    · exact h
  unfold Web.connectorFailed
  have hconnections : (clearConnecting world generation).connections = world.connections := by
    unfold clearConnecting
    split_ifs <;> rfl
  have hroom : (clearConnecting world generation).room = world.room := by
    unfold clearConnecting
    split_ifs <;> rfl
  refine h'.updateConnection (fun _ => rfl) (fun other ho hgo => ?_)
    fun _ _ _ hopen => .inl hopen
  rw [hconnections] at ho
  obtain rfl := h.unique hc hg ho hgo
  rw [hroom]
  refine ⟨hsound.1, fun room ht => ?_⟩
  rw [Connection.withPhase, hsound.2] at ht
  cases ht

theorem Sound.waitOver {result : Except ConnectError σ} (h : Sound world)
    (hc : connection ∈ world.connections) (hg : connection.generation = generation)
    (hphase : connection.phase = .stateAwaited result)
    (hfresh : ∀ state, result = .ok state → generation = world.generation) :
    Sound (waitOver world generation result) := by
  have hsound := h.phases connection hc
  rw [hphase, hg] at hsound
  obtain ⟨hheld, hsome⟩ := hsound
  cases result with
  | error error =>
    exact h.updateConnection (fun _ => rfl) (fun other _ _ => ⟨hheld, toldToLeave_map _⟩)
      fun _ _ _ hopen => .inl (harmless_tellToLeave.isOpen hopen)
  | ok state =>
    have hlatest := hfresh state rfl
    refine h.update rfl (fun _ => rfl) le_rfl ?_ ?_ ?_ ?_
    · intro room hroom
      cases hroom
      exact hlatest
    · intro other ho hne
      refine ⟨fun hroom => absurd (Option.some.inj hroom).symm hne, fun hroom => ?_⟩
      exact absurd ((h.latest _ hroom).trans hlatest.symm) hne
    · intro other ho hgo
      obtain rfl := h.unique hc hg ho hgo
      exact ⟨.inl rfl, mt Option.map_eq_none_iff.1 hsome⟩
    · intro other _ _ hopen
      have hlisten : Harmless fun room => { room with listening := true } :=
        ⟨fun _ htold => htold, fun _ hleft => hleft⟩
      exact .inl (hlisten.isOpen hopen)

theorem Sound.statePublished {state : σ} (h : Sound world) (hc : connection ∈ world.connections)
    (hg : connection.generation = generation) (hphase : connection.phase = .publishing state) :
    Sound (statePublished world generation state) := by
  have hsound := h.phases connection hc
  rw [hphase, hg] at hsound
  refine h.updateConnection (fun _ => ?_) (fun other ho hgo => ?_) fun other _ _ hopen => .inl ?_
  · split_ifs <;> rfl
  · obtain rfl := h.unique hc hg ho hgo
    split_ifs with hactive
    · exact .inl (h.isActive_iff.1 hactive)
    · have hheld : ¬ world.room = some generation := mt h.isActive_iff.2 hactive
      exact ⟨hheld, hsound.1.resolve_left hheld⟩
  · split_ifs at hopen
    · exact (harmless_sendAll _).isOpen hopen
    · exact hopen

/-! ### The events of a transport -/

/-- The client lets go of a room that has left by itself. -/
theorem Sound.roomLeft {code : ℤ} (h : Sound world)
    (hgone : ∀ connection ∈ world.connections, connection.generation = generation →
      ¬ IsOpen connection.transport)
    (hidle : ∀ connection ∈ world.connections, connection.phase.isPublishing = false) :
    Sound (roomLeft world generation code) := by
  unfold Web.roomLeft
  split_ifs with hactive
  swap
  · exact h
  have hroom := h.isActive_iff.1 hactive
  refine ⟨h.keys, fun connection hc => (h.bounded connection hc).trans (Nat.le_succ _),
    fun _ hsome => (nomatch hsome), fun connection hc => ?_, h.alone⟩
  have hsound := h.phases connection hc
  by_cases hg : connection.generation = generation
  · obtain hpublishing | ⟨state, hphase⟩ := hsound.of_held (hroom.trans (congrArg some hg.symm))
    · rw [hidle connection hc] at hpublishing
      cases hpublishing
    · rw [show ClientWorld.connections _ = _ from rfl, hphase]
      exact .inr (hgone connection hc hg)
  · refine hsound.congr ⟨fun hsome => (nomatch hsome), fun hsome => ?_⟩
    exact absurd (Option.some.inj (hroom.symm.trans hsome)).symm hg

theorem Sound.handleMessage {rawMessage : υ} (h : Sound world) :
    Sound (handleMessage schemas world generation rawMessage) := by
  have hsettle : ∀ requestId settlement settled, settle world requestId settlement = some settled →
      Sound settled := by
    intro requestId settlement settled hsome
    unfold settle at hsome
    split_ifs at hsome
    cases hsome
    exact h.same rfl rfl rfl
  unfold Web.handleMessage
  split
  · exact h.terminateProtocol
  next message hmessage =>
    dsimp only
    split
    · exact h
    next settled hsettled =>
      have hsound : Sound settled := by
        cases message with
        | ack acknowledgement => exact hsettle _ _ _ hsettled
        | reject rejection => exact hsettle _ _ _ hsettled
        | other message => cases hsettled; exact h
      exact hsound.same rfl rfl rfl

theorem Sound.handleEvent {event : TransportEvent υ} (h : Sound world)
    (hgone : ∀ code, event = .leave code → ∀ connection ∈ world.connections,
      connection.generation = generation → ¬ IsOpen connection.transport)
    (hidle : ∀ connection ∈ world.connections, connection.phase.isPublishing = false) :
    Sound (handleEvent schemas world generation event) := by
  cases event with
  | state wire =>
    show Sound (stateChanged schemas world generation wire)
    unfold stateChanged
    split_ifs
    · split
      · exact h.same rfl rfl rfl
      · exact h.terminateProtocol
    · exact h
  | message rawMessage =>
    show Sound (messageArrived schemas world generation rawMessage)
    unfold messageArrived
    split_ifs
    · exact h.handleMessage
    · exact h
  | error code =>
    show Sound (errorRaised world generation code)
    unfold errorRaised
    split_ifs
    · exact h.same rfl rfl rfl
    · exact h
  | leave code => exact h.roomLeft (hgone code rfl) hidle

/-! ### One step -/

theorem Sound.step {action : ClientAction υ} (h : Sound world) (hfresh : UpToDate world action)
    (hstep : step schemas world action = some world') : Sound world' := by
  cases action with
  | connect rawOptions =>
    cases hstep
    cases hok : Web.connect schemas world rawOptions with
    | error error => exact h
    | ok after => exact h.connect hok
  | send rawCommand =>
    cases hstep
    cases hok : Web.send schemas world rawCommand with
    | error error => exact h
    | ok after => exact h.send hok
  | disconnect =>
    cases hstep
    exact h.disconnect
  | connectorResolves generation wire =>
    obtain ⟨connection, hready, hstep⟩ := Option.bind_eq_some_iff.1 hstep
    obtain ⟨-, hc, hg⟩ := ready_eq_some hready
    split at hstep
    next hphase =>
      cases hstep
      exact h.connectorResolved hc hg hphase hfresh
    · cases hstep
  | connectorFails generation =>
    obtain ⟨connection, hready, hstep⟩ := Option.bind_eq_some_iff.1 hstep
    obtain ⟨-, hc, hg⟩ := ready_eq_some hready
    split at hstep
    next hphase =>
      cases hstep
      exact h.connectorFailed hc hg hphase
    · cases hstep
  | attempt generation wire =>
    obtain ⟨connection, hready, hstep⟩ := Option.bind_eq_some_iff.1 hstep
    obtain ⟨-, hc, hg⟩ := ready_eq_some hready
    split at hstep
    next attempt hphase =>
      cases hstep
      have hsound := h.phases connection hc
      rw [hphase, hg] at hsound
      refine h.updateConnection (fun _ => rfl) (fun other ho hgo => ?_)
        fun _ _ _ hopen => .inl hopen
      obtain rfl := h.unique hc hg ho hgo
      exact phaseSound_wait hsound.1 hsound.2
    · cases hstep
  | waitEnds generation =>
    obtain ⟨connection, hready, hstep⟩ := Option.bind_eq_some_iff.1 hstep
    obtain ⟨-, hc, hg⟩ := ready_eq_some hready
    split at hstep
    next result hphase =>
      cases hstep
      exact h.waitOver hc hg hphase fun state hok => hfresh connection hc hg state (hok ▸ hphase)
    · cases hstep
  | onStateReturns generation =>
    obtain ⟨connection, hsome, hstep⟩ := Option.bind_eq_some_iff.1 hstep
    obtain ⟨hc, hg⟩ := connection?_eq_some hsome
    split at hstep
    next state hphase =>
      cases hstep
      exact h.statePublished hc hg hphase
    · cases hstep
  | leaveSettles generation =>
    obtain ⟨connection, hready, hstep⟩ := Option.bind_eq_some_iff.1 hstep
    obtain ⟨-, hc, hg⟩ := ready_eq_some hready
    split at hstep
    next error hphase =>
      cases hstep
      have hsound := h.phases connection hc
      rw [hphase, hg] at hsound
      refine h.updateConnection (fun _ => rfl) (fun other ho hgo => ?_)
        fun _ _ _ hopen => .inl hopen
      obtain rfl := h.unique hc hg ho hgo
      exact hsound
    · cases hstep
  | event generation event =>
    obtain ⟨connection, hready, hstep⟩ := Option.bind_eq_some_iff.1 hstep
    obtain ⟨transport, ht, hstep⟩ := Option.bind_eq_some_iff.1 hstep
    obtain ⟨hidle, hc, hg⟩ := ready_eq_some hready
    have hafter : Sound (world.updateConnection generation
        (Connection.withTransport fun transport => transport.afterEvent event)) :=
      h.withTransport (harmless_afterEvent event)
    split_ifs at hstep
    · cases hstep
      refine hafter.handleEvent ?_ fun other ho => ?_
      · rintro code rfl other ho hgo ⟨room, hroom, hleft, -⟩
        obtain ⟨old, hold, rfl⟩ := mem_updateWhere.1 ho
        split_ifs at hroom hgo with hgold
        · obtain ⟨before, -, rfl⟩ := Option.map_eq_some_iff.1 hroom
          cases hleft
        · exact hgold hgo
      · obtain ⟨old, hold, rfl⟩ := mem_updateWhere.1 ho
        split_ifs
        · exact hidle old hold
        · exact hidle old hold
    · cases hstep
      exact hafter

/-! ### What a disconnect fences off -/

/-- The connect call an action belongs to. -/
def ClientAction.source : ClientAction υ → Option ℕ
  | .connect _ | .send _ | .disconnect => none
  | .connectorResolves generation _ | .connectorFails generation | .attempt generation _
  | .waitEnds generation | .onStateReturns generation | .leaveSettles generation
  | .event generation _ => some generation

/-- No handler is called, and no command settled. -/
def Silent (world world' : ClientWorld υ σ) : Prop :=
  world'.notified = world.notified ∧ world'.settled = world.settled ∧
    world'.pending = world.pending

theorem clearConnecting_silent : Silent world (clearConnecting world generation) := by
  unfold clearConnecting
  split_ifs <;> exact ⟨rfl, rfl, rfl⟩

theorem handleEvent_stale {event : TransportEvent υ} (hold : generation ≠ world.generation) :
    handleEvent schemas world generation event = world := by
  have hinactive : isActive world generation = false :=
    Bool.eq_false_iff.2 fun hactive => hold (isActive_iff.1 hactive).2.symm
  cases event <;>
    simp only [handleEvent, stateChanged, messageArrived, errorRaised, roomLeft, hinactive,
      Bool.false_eq_true, if_false]

/-- A connect call that is not the latest reaches no handler and settles nothing. -/
theorem step_silent {action : ClientAction υ} (hsource : action.source = some generation)
    (hold : generation ≠ world.generation) (hfresh : UpToDate world action)
    (hstep : step schemas world action = some world') : Silent world world' := by
  cases action with
  | connect | send | disconnect => cases hsource
  | connectorResolves generation wire =>
    obtain ⟨connection, -, hstep⟩ := Option.bind_eq_some_iff.1 hstep
    split at hstep
    · cases hstep
      exact clearConnecting_silent
    · cases hstep
  | connectorFails generation =>
    obtain ⟨connection, -, hstep⟩ := Option.bind_eq_some_iff.1 hstep
    split at hstep
    · cases hstep
      exact clearConnecting_silent
    · cases hstep
  | attempt generation wire | leaveSettles generation =>
    obtain ⟨connection, -, hstep⟩ := Option.bind_eq_some_iff.1 hstep
    split at hstep
    · cases hstep
      exact ⟨rfl, rfl, rfl⟩
    · cases hstep
  | waitEnds generation =>
    obtain ⟨connection, hready, hstep⟩ := Option.bind_eq_some_iff.1 hstep
    obtain ⟨-, hc, hg⟩ := ready_eq_some hready
    cases hsource
    split at hstep
    next result hphase =>
      cases hstep
      cases result with
      | error error => exact ⟨rfl, rfl, rfl⟩
      | ok state => exact absurd (hfresh connection hc hg state hphase) hold
    · cases hstep
  | onStateReturns generation =>
    obtain ⟨connection, -, hstep⟩ := Option.bind_eq_some_iff.1 hstep
    split at hstep
    · cases hstep
      exact ⟨rfl, rfl, rfl⟩
    · cases hstep
  | event generation event =>
    obtain ⟨connection, -, hstep⟩ := Option.bind_eq_some_iff.1 hstep
    obtain ⟨transport, -, hstep⟩ := Option.bind_eq_some_iff.1 hstep
    cases hsource
    split_ifs at hstep
    · cases hstep
      have hstale : generation ≠ (world.updateConnection generation
          (Connection.withTransport fun transport => transport.afterEvent event)).generation := hold
      rw [handleEvent_stale hstale]
      exact ⟨rfl, rfl, rfl⟩
    · cases hstep
      exact ⟨rfl, rfl, rfl⟩

theorem clearConnecting_generation :
    (clearConnecting world generation).generation = world.generation := by
  unfold clearConnecting
  split_ifs <;> rfl

theorem terminateProtocol_generation :
    world.generation ≤ (terminateProtocol world generation).generation := by
  unfold terminateProtocol
  split_ifs
  · exact Nat.le_succ _
  · exact le_rfl

theorem settle_generation {requestId : String} {settlement : Settlement}
    (h : settle world requestId settlement = some world') :
    world'.generation = world.generation := by
  unfold settle at h
  split_ifs at h
  cases h
  rfl

theorem handleMessage_generation {rawMessage : υ} :
    world.generation ≤ (handleMessage schemas world generation rawMessage).generation := by
  unfold handleMessage
  split
  · exact terminateProtocol_generation
  next message hmessage =>
    dsimp only
    split
    · exact le_rfl
    next settled hsettled =>
      cases message with
      | ack acknowledgement => exact (settle_generation hsettled).ge
      | reject rejection => exact (settle_generation hsettled).ge
      | other message => cases hsettled; exact le_rfl

theorem handleEvent_generation {event : TransportEvent υ} :
    world.generation ≤ (handleEvent schemas world generation event).generation := by
  cases event with
  | state wire =>
    show _ ≤ (stateChanged schemas world generation wire).generation
    unfold stateChanged
    split_ifs
    · split
      · exact le_rfl
      · exact terminateProtocol_generation
    · exact le_rfl
  | message rawMessage =>
    show _ ≤ (messageArrived schemas world generation rawMessage).generation
    unfold messageArrived
    split_ifs
    · exact handleMessage_generation
    · exact le_rfl
  | error code =>
    show _ ≤ (errorRaised world generation code).generation
    unfold errorRaised
    split_ifs <;> exact le_rfl
  | leave code =>
    show _ ≤ (roomLeft world generation code).generation
    unfold roomLeft
    split_ifs
    · exact Nat.le_succ _
    · exact le_rfl

/-- The generation never goes back. -/
theorem step_generation {action : ClientAction υ}
    (hstep : step schemas world action = some world') : world.generation ≤ world'.generation := by
  cases action with
  | connect rawOptions =>
    cases hstep
    unfold connect
    split_ifs
    · exact le_rfl
    · split
      · exact le_rfl
      · exact Nat.le_succ _
  | send rawCommand =>
    cases hstep
    unfold send
    split
    · exact le_rfl
    · split
      · exact le_rfl
      · split_ifs <;> exact le_rfl
  | disconnect =>
    cases hstep
    unfold disconnect
    dsimp only
    split <;> exact Nat.le_succ _
  | connectorResolves generation wire | connectorFails generation =>
    obtain ⟨connection, -, hstep⟩ := Option.bind_eq_some_iff.1 hstep
    split at hstep
    · cases hstep
      exact clearConnecting_generation.ge
    · cases hstep
  | attempt generation wire | leaveSettles generation | onStateReturns generation =>
    obtain ⟨connection, -, hstep⟩ := Option.bind_eq_some_iff.1 hstep
    split at hstep
    · cases hstep
      exact le_rfl
    · cases hstep
  | waitEnds generation =>
    obtain ⟨connection, -, hstep⟩ := Option.bind_eq_some_iff.1 hstep
    split at hstep
    next result hphase =>
      cases hstep
      cases result <;> exact le_rfl
    · cases hstep
  | event generation event =>
    obtain ⟨connection, -, hstep⟩ := Option.bind_eq_some_iff.1 hstep
    obtain ⟨transport, -, hstep⟩ := Option.bind_eq_some_iff.1 hstep
    split_ifs at hstep
    · cases hstep
      exact @handleEvent_generation _ _ _ (world.updateConnection generation
        (Connection.withTransport fun transport => transport.afterEvent event)) _ _
    · cases hstep
      exact le_rfl

/-! ### Along a run -/

/-- The steps of a client, with any connector, server and handlers. -/
def Steps (schemas : WireSchemas υ σ) (world : ClientWorld υ σ) (action : ClientAction υ)
    (world' : ClientWorld υ σ) : Prop :=
  step schemas world action = some world'

/-- A client that has done nothing yet. -/
def NewClient (world : ClientWorld υ σ) : Prop := world = {}

instance : DecidablePred IsOpen := fun transport =>
  match transport with
  | none => isFalse fun ⟨_, ht, _⟩ => nomatch ht
  | some room => decidable_of_iff (room.left = false ∧ room.toldToLeave = false)
      ⟨fun h => ⟨room, rfl, h⟩, fun ⟨_, ht, h⟩ => Option.some.inj ht ▸ h⟩

/-- The transports that have neither left nor been told to. -/
def ClientWorld.openRooms (world : ClientWorld υ σ) : List (Connection σ) :=
  world.connections.filter fun connection => IsOpen connection.transport

theorem sound_of_newClient (h : NewClient world) : Sound world := by
  cases h
  exact ⟨List.nodup_nil, fun _ hc => (nomatch hc), fun _ hroom => (nomatch hroom),
    fun _ hc => (nomatch hc), fun _ hc => nomatch hc⟩

theorem Sound.openRooms_le (h : Sound world) : world.openRooms.length ≤ 1 := by
  have hnodup : world.openRooms.Nodup := (List.Nodup.of_map _ h.keys).filter _
  have hopen : ∀ connection ∈ world.openRooms, connection ∈ world.connections ∧
      IsOpen connection.transport := fun connection hc => by
    simpa [ClientWorld.openRooms] using hc
  cases hrooms : world.openRooms with
  | nil => exact Nat.zero_le _
  | cons first rest =>
    cases rest with
    | nil => exact le_rfl
    | cons second rest =>
      rw [hrooms] at hnodup hopen
      obtain ⟨hfirst, hfirstOpen⟩ := hopen first (List.mem_cons_self ..)
      obtain ⟨hsecond, hsecondOpen⟩ :=
        hopen second (List.mem_cons_of_mem _ (List.mem_cons_self ..))
      rw [h.alone first hfirst second hsecond hfirstOpen hsecondOpen] at hnodup
      exact absurd (List.mem_cons_self ..) (List.nodup_cons.1 hnodup).1

/-- A connect call that resolves has sent again what is pending. -/
theorem onStateReturns_resent (h : Sound world)
    (hstep : Steps schemas world (.onStateReturns generation) world')
    (hc : connection ∈ world'.connections) (hg : connection.generation = generation) {state : σ}
    (hresolved : connection.phase = .resolved state) :
    ∃ transport, connection.transport = some transport ∧
      ∀ command ∈ world'.pending, ClientMessage.command command ∈ transport.sent := by
  obtain ⟨before, hsome, hstep⟩ := Option.bind_eq_some_iff.1 hstep
  obtain ⟨hbefore, hgb⟩ := connection?_eq_some hsome
  split at hstep
  swap
  · cases hstep
  next published hphase =>
    cases hstep
    obtain ⟨old, hold, rfl⟩ := mem_updateWhere.1 hc
    have hgo : old.generation = generation := by
      by_contra hne
      rw [if_neg hne] at hg
      exact hne hg
    obtain rfl := h.unique hbefore hgb hold hgo
    have hsound := h.phases old hold
    rw [hphase] at hsound
    obtain ⟨transport, ht⟩ := Option.ne_none_iff_exists'.1 hsound.2
    rw [if_pos hgo] at hresolved ⊢
    split_ifs at hresolved ⊢
    · refine ⟨_, Option.map_eq_some_iff.2 ⟨transport, ht, rfl⟩, fun command hcommand => ?_⟩
      refine List.mem_append_right _ (List.mem_cons_of_mem _ ?_)
      exact List.mem_map_of_mem hcommand
    · cases hresolved

/-- As long as a wait for the first state does not outlive its generation, the client holds at most
one open room; a rejected connect call has closed its own and let go of it; a disconnect silences
every earlier room; and a connect call that resolves has sent again every pending command. -/
theorem client_owns_one_room (schemas : WireSchemas υ σ) (world : ClientWorld υ σ)
    (h : Reachable NewClient (Guarded UpToDate (Steps schemas)) world) :
    world.openRooms.length ≤ 1 ∧
    (∀ connection ∈ world.connections, ∀ error, connection.phase = .rejected error →
      ToldToLeave connection.transport ∧ world.room ≠ some connection.generation) ∧
    (∀ connection ∈ world.connections, ∀ w₁ actions w₂ action w₃,
      Steps schemas world .disconnect w₁ → Run (Guarded UpToDate (Steps schemas)) w₁ actions w₂ →
      Guarded UpToDate (Steps schemas) w₂ action w₃ →
      action.source = some connection.generation → Silent w₂ w₃) ∧
    ∀ generation world', Steps schemas world (.onStateReturns generation) world' →
      ∀ connection ∈ world'.connections, connection.generation = generation → ∀ state,
      connection.phase = .resolved state → ∃ transport, connection.transport = some transport ∧
        ∀ command ∈ world'.pending, ClientMessage.command command ∈ transport.sent := by
  have hsound : Sound world := h.invariant (fun _ hnew => sound_of_newClient hnew)
    fun _ _ _ hbefore hstep => hbefore.step hstep.2 hstep.1
  refine ⟨hsound.openRooms_le, ?_, ?_, ?_⟩
  · intro connection hc error hphase
    have hphases := hsound.phases connection hc
    rw [hphase] at hphases
    exact ⟨hphases.2, hphases.1⟩
  · intro connection hc w₁ actions w₂ action w₃ hdisconnect hrun hstep hsource
    have hfenced : connection.generation < w₁.generation := by
      have hbound := hsound.bounded connection hc
      cases hdisconnect
      unfold disconnect
      dsimp only
      split <;> exact Nat.lt_succ_of_le hbound
    have hlater : connection.generation < w₂.generation :=
      hrun.invariant (I := fun w => connection.generation < w.generation)
        (fun _ _ _ hlt hnext => hlt.trans_le (step_generation hnext.1)) hfenced
    exact step_silent hsource hlater.ne hstep.2 hstep.1
  · intro generation world' hstep connection hc hg state hresolved
    exact onStateReturns_resent hsound hstep hc hg hresolved

/-! ### Runs of one client -/

/-- Schemas that take everything for the state of version 1. -/
def lenientSchemas : WireSchemas Unit Unit where
  admissionOptions := fun _ => some ⟨1, "game", "ticket"⟩
  roomCommand := fun _ => none
  serverMessage := fun _ => none
  publicState := fun _ => some ()
  stateVersion := fun _ => 1

def firstSnapshot : RoomWireState := ⟨some "state", some 1⟩

def startCommand : Server.RoomCommand := ⟨"r", 1, .lifecycle .startGame⟩

/-- Schemas that take everything for the command, and are lenient otherwise. -/
def commandSchemas : WireSchemas Unit Unit :=
  { lenientSchemas with roomCommand := fun _ => some startCommand }

/-- A client connects and sends a command; the transport is lost, and it connects again. -/
def reconnecting : List (ClientAction Unit) :=
  [.connect (), .connectorResolves 1 firstSnapshot, .waitEnds 1, .onStateReturns 1, .send (),
    .event 1 (.leave 1006), .connect (), .connectorResolves 3 firstSnapshot, .waitEnds 3]

/-- The client after the actions. -/
def clientAfter (actions : List (ClientAction Unit)) : ClientWorld Unit Unit :=
  (replay (step commandSchemas) {} actions).getD {}

theorem reconnecting_run :
    Run (Guarded UpToDate (Steps commandSchemas)) {} reconnecting (clientAfter reconnecting) := by
  refine .cons ⟨rfl, trivial⟩ (.cons ⟨rfl, ?_⟩ (.cons ⟨rfl, ?_⟩ (.cons ⟨rfl, trivial⟩
    (.cons ⟨rfl, trivial⟩ (.cons ⟨rfl, trivial⟩ (.cons ⟨rfl, trivial⟩ (.cons ⟨rfl, ?_⟩
    (.cons ⟨rfl, ?_⟩ (.nil _)))))))))
  · intro _ connection hc hwaiting
    rw [List.mem_singleton.1 hc] at hwaiting
    cases hwaiting
  · exact fun _ _ _ _ _ => rfl
  · intro _ connection hc hwaiting
    rcases List.mem_cons.1 hc with rfl | hc
    · cases hwaiting
    · rw [List.mem_singleton.1 hc] at hwaiting
      cases hwaiting
  · exact fun _ _ _ _ _ => rfl

/-- The command that is pending across the reconnect is sent again; after a disconnect, the call of
the second connect reaches no handler. -/
theorem client_owns_one_room_connected : ∃ world closed : ClientWorld Unit Unit,
    Reachable NewClient (Guarded UpToDate (Steps commandSchemas)) world ∧
    (∃ connection ∈ world.connections, connection.generation = 3 ∧ connection.phase = .resolved () ∧
      ∃ transport, connection.transport = some transport ∧
        ∀ command ∈ world.pending, ClientMessage.command command ∈ transport.sent) ∧
    world.pending = [startCommand] ∧ world.openRooms.length ≤ 1 ∧
    Steps commandSchemas world .disconnect closed ∧
    ∀ actions w₂ action w₃, Run (Guarded UpToDate (Steps commandSchemas)) closed actions w₂ →
      Guarded UpToDate (Steps commandSchemas) w₂ action w₃ → action.source = some 3 →
      Silent w₂ w₃ := by
  have hreach : Reachable NewClient (Guarded UpToDate (Steps commandSchemas))
      (clientAfter reconnecting) := ⟨_, _, rfl, reconnecting_run⟩
  have hreturns : Steps commandSchemas (clientAfter reconnecting) (.onStateReturns 3)
      (clientAfter (reconnecting ++ [.onStateReturns 3])) := rfl
  have hreach' := hreach.snoc ⟨hreturns, trivial⟩
  obtain ⟨-, -, -, hresent⟩ := client_owns_one_room commandSchemas _ hreach
  obtain ⟨howns, -, hsilent, -⟩ := client_owns_one_room commandSchemas _ hreach'
  obtain ⟨connection, hc, hthree, hresolved⟩ :
      ∃ connection ∈ (clientAfter (reconnecting ++ [.onStateReturns 3])).connections,
        connection.generation = 3 ∧ connection.phase = .resolved () :=
    ⟨_, List.mem_cons_of_mem _ (List.mem_singleton.2 rfl), rfl, rfl⟩
  refine ⟨_, _, hreach', ⟨connection, hc, hthree, hresolved,
    hresent 3 _ hreturns connection hc hthree () hresolved⟩, rfl, howns, rfl, ?_⟩
  intro actions w₂ action w₃ hrun hstep hsource
  exact hsilent connection hc _ actions w₂ action w₃ rfl hrun hstep (hthree ▸ hsource)

/-- Disconnected, or connected again, while a connect call waits for its first state: the call is
rejected and its room installed, or two rooms are open. -/
theorem not_client_owns_one_room :
    (¬ ∀ world, Reachable NewClient (Steps lenientSchemas) world →
      ∀ connection ∈ world.connections, ∀ error, connection.phase = .rejected error →
        ToldToLeave connection.transport ∧ world.room ≠ some connection.generation) ∧
    ¬ ∀ world, Reachable NewClient (Steps lenientSchemas) world → world.openRooms.length ≤ 1 := by
  have hreach : ∀ actions world, replay (step lenientSchemas) {} actions = some world →
      Reachable NewClient (Steps lenientSchemas) world := by
    intro actions world hreplay
    obtain ⟨labels, hrun⟩ := run_of_replay (fun _ action _ hnext => ⟨action, hnext⟩) hreplay
    exact ⟨{}, labels, rfl, hrun⟩
  refine ⟨fun h => ?_, fun h => ?_⟩
  · have hworld := h _ (hreach [.connect (), .connectorResolves 1 firstSnapshot, .disconnect,
      .waitEnds 1, .onStateReturns 1] _ rfl)
    exact (hworld _ (List.mem_singleton.2 rfl) .cancelled rfl).2 rfl
  · have hworld := h _ (hreach [.connect (), .connectorResolves 1 firstSnapshot, .connect (),
      .connectorResolves 2 firstSnapshot] _ rfl)
    exact absurd hworld (by decide)

end Pootown.Web
