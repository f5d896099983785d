import Mathlib.Tactic
import Pootown.Library.Base64
import Pootown.Library.JsonText
import Pootown.Transition.Card

/-!
# The secure random source

A source hands out the HMAC blocks of its seed, one counter after the other, and its checkpoint
holds the seed and the counter of the next block.

* `SecureRandomSource`, with `encodeState` and `decodeState`; `secureRandomSource`, the port to it;
* `decodeState_encodeState`, and `fork_checkpoint`: a source that has drawn `n` bytes resumes where
  it stopped;
* `Drawn`, `rollDice_drawn`, `drawCardIdFrom_drawn`: a draw takes the next blocks, one for each byte.
-/

namespace Pootown.Server

open CanonicalJson JsonText

/-- The bytes of a seed, and of a block. -/
abbrev Bytes32 := {bytes : List UInt8 // bytes.length = 32}

/-- `blocksRead` is no field of the class: it lists the counters of the blocks computed so far. -/
structure SecureRandomSource where
  seed : Bytes32
  counter : ℕ
  draws : ℕ
  bytesConsumed : ℕ
  blocksRead : List ℕ

/-! ### Checkpoints -/

def secureAlgorithm : String := "hmac-sha256-v1"

def hasConsistentConsumption (counter : ℕ) (draws bytesConsumed : ℤ) : Bool :=
  if counter = 0 ∨ draws = 0 ∨ bytesConsumed = 0 then
    decide (counter = 0 ∧ draws = 0 ∧ bytesConsumed = 0)
  else
    decide (draws ≤ counter ∧ counter ≤ bytesConsumed ∧ (bytesConsumed + 31) / 32 ≤ counter ∧
      bytesConsumed ≤ draws * 4096)

def encodedState (seed : Bytes32) (counter : ℕ) : Json :=
  .obj [("counter", .num counter), ("seed", .str (Base64.encode seed.1))]

def encodeState (seed : Bytes32) (counter : ℕ) : String :=
  Base64.encode (String.ofList (render (encodedState seed counter))).toUTF8.data.toList

/-- The seed and the counter of a text.  Bytes that are no text hold none: the characters put in
their place would have to stand in a name or in a seed. -/
def decodeState (value : String) : Option (Bytes32 × ℕ) := do
  let text ← String.fromUTF8? ⟨(Base64.decode value).toArray⟩
  match parseJson text with
  | some (.obj parsed) =>
    match parsed.length, parsed.lookup "seed", parsed.lookup "counter" with
    | 2, some (.str seed), some (.num counter) =>
      if h : (Base64.decode seed).length = 32 then
        if 0 ≤ counter ∧ Base64.encode (Base64.decode seed) = seed then
          some (⟨Base64.decode seed, h⟩, counter.toNat)
        else none
      else none
    | _, _, _ => none
  | _ => none

namespace SecureRandomSource

def fresh (seed : Bytes32) : SecureRandomSource := ⟨seed, 0, 0, 0, []⟩

def checkpoint (source : SecureRandomSource) : RandomCheckpoint where
  algorithm := secureAlgorithm
  state := encodeState source.seed source.counter
  draws := source.draws
  bytesConsumed := source.bytesConsumed

/-- Nothing of the source itself is read, here and in `fork`. -/
def canResume (_source : SecureRandomSource) (checkpoint : RandomCheckpoint) : Bool :=
  if checkpoint.algorithm = secureAlgorithm then
    match decodeState checkpoint.state with
    | none => false
    | some (_, counter) =>
      decide (IsSafeInteger checkpoint.draws ∧ 0 ≤ checkpoint.draws ∧
        IsSafeInteger checkpoint.bytesConsumed ∧ 0 ≤ checkpoint.bytesConsumed) &&
      hasConsistentConsumption counter checkpoint.draws checkpoint.bytesConsumed
  else false

def fork (source : SecureRandomSource) (checkpoint : RandomCheckpoint) :
    Option SecureRandomSource :=
  if source.canResume checkpoint then do
    let (seed, counter) ← decodeState checkpoint.state
    return ⟨seed, counter, checkpoint.draws.toNat, checkpoint.bytesConsumed.toNat, []⟩
  else none

/-- Blocks from `counter` on until `remaining` bytes are there, with their counters.  Every pass
takes a byte at least. -/
def readBlocks (block : ℕ → Bytes32) : (fuel counter remaining : ℕ) → List UInt8 × List ℕ
  | 0, _, _ => ([], [])
  | fuel + 1, counter, remaining =>
    if remaining = 0 then ([], []) else
    let blockLength := min 32 remaining
    let (output, counters) := readBlocks block fuel (counter + 1) (remaining - blockLength)
    ((block counter).1.take blockLength ++ output, counter :: counters)

/-- `hmac` is the digest of a counter under a seed. -/
def nextBytes (hmac : Bytes32 → ℕ → Bytes32) (source : SecureRandomSource) (length : ℕ) :
    Option (List UInt8 × SecureRandomSource) :=
  if 1 ≤ length ∧ length ≤ 4096 then
    let (output, counters) := readBlocks (hmac source.seed) length source.counter length
    some (output, { source with
      counter := source.counter + counters.length
      draws := source.draws + 1
      bytesConsumed := source.bytesConsumed + length
      blocksRead := source.blocksRead ++ counters })
  else none

end SecureRandomSource

/-- The random-source port of a secure source. -/
def secureRandomSource (hmac : Bytes32 → ℕ → Bytes32) (source : SecureRandomSource) :
    RandomSource where
  Cursor := SecureRandomSource
  cursor := source
  nextBytes := SecureRandomSource.nextBytes hmac
  checkpoint := fun source => some source.checkpoint
  canResume := fun source checkpoint => some (source.canResume checkpoint)
  fork := some fun source checkpoint =>
    match source.fork checkpoint with
    | none => .null
    | some forked => .isolated forked

/-! ### Reading a checkpoint back -/

theorem decodeState_encodeState (seed : Bytes32) {counter : ℕ} (h : Safe counter) :
    decodeState (encodeState seed counter) = some (seed, counter) := by
  have hplain : Plain (encodedState seed counter) := by
    refine .obj (by simp) fun field hfield => ?_
    simp only [List.mem_cons, List.not_mem_nil, or_false] at hfield
    rcases hfield with rfl | rfl
    · exact .num h
    · exact .str _
  rw [decodeState, encodeState, Base64.decode_encode, Base64.fromUTF8_toUTF8]
  simp only [Option.bind_eq_bind, Option.bind_some, parseJson_render hplain]
  simp [encodedState, List.lookup_cons, Base64.decode_encode, seed.2]

theorem hasConsistentConsumption_iff {counter : ℕ} {draws bytesConsumed : ℤ} :
    hasConsistentConsumption counter draws bytesConsumed = true ↔
      (counter = 0 ∧ draws = 0 ∧ bytesConsumed = 0) ∨
      (counter ≠ 0 ∧ draws ≠ 0 ∧ bytesConsumed ≠ 0 ∧ draws ≤ counter ∧ counter ≤ bytesConsumed ∧
        (bytesConsumed + 31) / 32 ≤ counter ∧ bytesConsumed ≤ draws * 4096) := by
  unfold hasConsistentConsumption
  split_ifs <;> simp only [decide_eq_true_eq] <;> omega

/-! ### Draws -/

namespace SecureRandomSource

/-- The source after `n` draws of one byte. -/
def advance (source : SecureRandomSource) (n : ℕ) : SecureRandomSource where
  seed := source.seed
  counter := source.counter + n
  draws := source.draws + n
  bytesConsumed := source.bytesConsumed + n
  blocksRead := source.blocksRead ++ List.range' source.counter n

theorem advance_advance (source : SecureRandomSource) (m n : ℕ) :
    (source.advance m).advance n = source.advance (m + n) := by
  simp [advance, Nat.add_assoc, List.range'_append_1]

theorem nextBytes_one (hmac : Bytes32 → ℕ → Bytes32) (source : SecureRandomSource) :
    nextBytes hmac source 1
      = some ((hmac source.seed source.counter).1.take 1, source.advance 1) := by
  simp [nextBytes, readBlocks, advance]

theorem fork_eq_some {this source : SecureRandomSource} {checkpoint : RandomCheckpoint}
    (h : this.fork checkpoint = some source) : this.canResume checkpoint = true ∧
      checkpoint.draws = source.draws ∧ checkpoint.bytesConsumed = source.bytesConsumed ∧
      checkpoint.algorithm = secureAlgorithm ∧ source.blocksRead = [] ∧
      hasConsistentConsumption source.counter source.draws source.bytesConsumed = true := by
  unfold fork at h
  split_ifs at h with hresume
  refine ⟨hresume, ?_⟩
  unfold canResume at hresume
  split_ifs at hresume with halgorithm
  cases hdecode : decodeState checkpoint.state with
  | none => simp [hdecode] at h
  | some decoded =>
    simp only [hdecode, Option.bind_eq_bind, Option.bind_some, Option.pure_def,
      Option.some.injEq] at h
    simp only [hdecode, Bool.and_eq_true, decide_eq_true_eq] at hresume
    obtain ⟨⟨-, hdraws, -, hbytes⟩, hconsistent⟩ := hresume
    subst h
    refine ⟨(Int.toNat_of_nonneg hdraws).symm, (Int.toNat_of_nonneg hbytes).symm, halgorithm, rfl,
      ?_⟩
    rwa [Int.toNat_of_nonneg hdraws, Int.toNat_of_nonneg hbytes]

/-- A checkpoint from which a source can be resumed has a source. -/
theorem exists_fork {this : SecureRandomSource} {checkpoint : RandomCheckpoint}
    (h : this.canResume checkpoint = true) : ∃ source, this.fork checkpoint = some source := by
  unfold fork
  rw [if_pos h]
  unfold canResume at h
  split_ifs at h
  cases hdecode : decodeState checkpoint.state with
  | none => simp [hdecode] at h
  | some decoded => exact ⟨_, rfl⟩

/-- A new source resumes at its start. -/
theorem fork_fresh (this : SecureRandomSource) (seed : Bytes32) :
    this.fork (fresh seed).checkpoint = some (fresh seed) := by
  have hdecode : decodeState (encodeState seed 0) = some (seed, 0) :=
    decodeState_encodeState seed (by decide)
  have hresume : this.canResume (fresh seed).checkpoint = true := by
    simp only [canResume, checkpoint, fresh, hdecode]
    simp [hasConsistentConsumption_iff]
  rw [fork, if_pos hresume]
  simp only [checkpoint, fresh, hdecode, Option.bind_eq_bind, Option.bind_some, Option.pure_def,
    Int.toNat_natCast]

/-- A source that has drawn bytes one by one resumes where it stopped. -/
theorem fork_checkpoint {this source : SecureRandomSource} {rng : RandomCheckpoint} {n : ℕ}
    (h : this.fork rng = some source) (hsafe : IsSafeInteger (source.advance n).bytesConsumed) :
    this.fork (source.advance n).checkpoint = some { source.advance n with blocksRead := [] } := by
  obtain ⟨-, -, -, -, -, hconsistent⟩ := fork_eq_some h
  rw [hasConsistentConsumption_iff] at hconsistent
  have hmore : hasConsistentConsumption (source.counter + n) (source.draws + n)
      (source.bytesConsumed + n) = true := by
    rw [hasConsistentConsumption_iff]
    omega
  have hdecode : decodeState (encodeState source.seed (source.counter + n))
      = some (source.seed, source.counter + n) :=
    decodeState_encodeState source.seed (by simp [advance] at hsafe; constructor <;> omega)
  have hresume : this.canResume (source.advance n).checkpoint = true := by
    simp only [canResume, checkpoint, advance, hdecode]
    simp [hmore, advance] at hsafe ⊢
    omega
  rw [fork, if_pos hresume]
  simp only [checkpoint, advance, hdecode, Option.bind_eq_bind, Option.bind_some, Option.pure_def,
    Int.toNat_natCast]

end SecureRandomSource

open SecureRandomSource

section Draws

variable {hmac : Bytes32 → ℕ → Bytes32} {source : SecureRandomSource}

/-- The port forks where the source does. -/
theorem forkGameplayRandomSource_secure (checkpoint : RandomCheckpoint) :
    forkGameplayRandomSource (secureRandomSource hmac source) checkpoint
      = source.fork checkpoint := by
  unfold forkGameplayRandomSource
  cases hfork : source.fork checkpoint with
  | none => simp [secureRandomSource, hfork]
  | some forked =>
    have hresume : forked.canResume checkpoint = true := (fork_eq_some hfork).1
    simp [secureRandomSource, hfork, canResumeGameplayCheckpoint, hresume]

/-- Bytes have been drawn from the first source, up to the second. -/
def Drawn (cursor cursor' : SecureRandomSource) : Prop :=
  ∃ n, 1 ≤ n ∧ cursor' = cursor.advance n

theorem Drawn.trans {c₁ c₂ c₃ : SecureRandomSource} (h : Drawn c₁ c₂) (h' : Drawn c₂ c₃) :
    Drawn c₁ c₃ := by
  obtain ⟨m, hm, rfl⟩ := h
  obtain ⟨n, -, rfl⟩ := h'
  exact ⟨m + n, by omega, advance_advance c₁ m n⟩

theorem nextBytes_drawn {cursor cursor' : SecureRandomSource} {bytes : List UInt8}
    (h : nextBytes hmac cursor 1 = some (bytes, cursor')) : Drawn cursor cursor' := by
  rw [nextBytes_one] at h
  cases h
  exact ⟨1, le_rfl, rfl⟩

theorem drawDie_drawn {attempts face : ℕ} {cursor cursor' : (secureRandomSource hmac source).Cursor}
    (h : drawDie (secureRandomSource hmac source) attempts cursor = some (face, cursor')) :
    Drawn cursor cursor' := by
  induction attempts generalizing cursor with
  | zero => cases h
  | succ attempts ih =>
    unfold drawDie at h
    split at h
    next value next hnext =>
      split_ifs at h
      · cases h
        exact nextBytes_drawn hnext
      · exact (nextBytes_drawn hnext).trans (ih h)
    · cases h

theorem rollDice_drawn {cursor cursor' : (secureRandomSource hmac source).Cursor} {dice : DiceRoll}
    (h : rollDice (secureRandomSource hmac source) cursor = some (dice, cursor')) :
    Drawn cursor cursor' := by
  simp only [rollDice, Option.bind_eq_bind, Option.bind_eq_some_iff, Prod.exists,
    Option.pure_def, Option.some.injEq, Prod.mk.injEq] at h
  obtain ⟨first, c₁, h₁, second, c₂, h₂, -, rfl⟩ := h
  exact (drawDie_drawn h₁).trans (drawDie_drawn h₂)

theorem drawCardIdFrom_drawn {remaining attempt cardId bytesConsumed : ℕ}
    {cursor cursor' : (secureRandomSource hmac source).Cursor}
    (h : drawCardIdFrom (secureRandomSource hmac source) remaining attempt cursor
      = some (cardId, bytesConsumed, cursor')) : Drawn cursor cursor' := by
  induction remaining generalizing attempt cursor with
  | zero => cases h
  | succ remaining ih =>
    unfold drawCardIdFrom at h
    split at h
    next byte next hnext =>
      split_ifs at h
      · cases h
        exact nextBytes_drawn hnext
      · exact (nextBytes_drawn hnext).trans (ih h)
    · cases h

end Draws

end Pootown.Server
