import Mathlib.Tactic

/-!
# Base64 for URLs

Three bytes are four characters of six bits each; one or two bytes at the end are two or three.
There is no padding.

* `sextets`, `octets`: from bytes to groups of six bits and back, `octets_sextets`;
* `encode`, `decode`: texts, in either alphabet; a character of neither is skipped;
* `decode_encode`.
-/

namespace Base64

/-! ### Bits -/

/-- The groups of six bits of some bytes, filled up with zeros. -/
def sextets : List ℕ → List ℕ
  | [] => []
  | [a] => [a / 4, a % 4 * 16]
  | [a, b] => [a / 4, a % 4 * 16 + b / 16, b % 16 * 4]
  | a :: b :: c :: rest =>
    a / 4 :: (a % 4 * 16 + b / 16) :: (b % 16 * 4 + c / 64) :: c % 64 :: sextets rest

/-- The bytes of some groups of six bits; what does not fill a byte is dropped. -/
def octets : List ℕ → List ℕ
  | [] => []
  | [_] => []
  | [w, x] => [w * 4 + x / 16]
  | [w, x, y] => [w * 4 + x / 16, x % 16 * 16 + y / 4]
  | w :: x :: y :: z :: rest =>
    (w * 4 + x / 16) :: (x % 16 * 16 + y / 4) :: (y % 4 * 64 + z) :: octets rest

theorem sextets_lt {bytes : List ℕ} (h : ∀ b ∈ bytes, b < 256) : ∀ n ∈ sextets bytes, n < 64 := by
  induction bytes using sextets.induct with
  | case1 => simp [sextets]
  | case2 a =>
    simp only [List.forall_mem_cons] at h
    simp only [sextets, List.forall_mem_cons]
    exact ⟨by omega, by omega, nofun⟩
  | case3 a b =>
    simp only [List.forall_mem_cons] at h
    simp only [sextets, List.forall_mem_cons]
    exact ⟨by omega, by omega, by omega, nofun⟩
  | case4 a b c rest ih =>
    simp only [List.forall_mem_cons] at h
    simp only [sextets, List.forall_mem_cons]
    exact ⟨by omega, by omega, by omega, by omega, ih h.2.2.2⟩

theorem octets_sextets {bytes : List ℕ} (h : ∀ b ∈ bytes, b < 256) :
    octets (sextets bytes) = bytes := by
  induction bytes using sextets.induct with
  | case1 => rfl
  | case2 a =>
    simp only [List.forall_mem_cons] at h
    simp only [sextets, octets, List.cons.injEq, and_true]
    omega
  | case3 a b =>
    simp only [List.forall_mem_cons] at h
    simp only [sextets, octets, List.cons.injEq, and_true]
    omega
  | case4 a b c rest ih =>
    simp only [List.forall_mem_cons] at h
    simp only [sextets, octets, List.cons.injEq, ih h.2.2.2, and_true]
    omega

/-! ### Characters -/

def alphabet : List Char :=
  "ABCDEFGHIJKLMNOPQRSTUVWXYZabcdefghijklmnopqrstuvwxyz0123456789-_".toList

def sextetChar (n : ℕ) : Char := alphabet.getD n 'A'

def charSextet (c : Char) : Option ℕ :=
  if 'A' ≤ c ∧ c ≤ 'Z' then some (c.toNat - 65)
  else if 'a' ≤ c ∧ c ≤ 'z' then some (c.toNat - 71)
  else if c.isDigit then some (c.toNat + 4)
  else if c = '-' ∨ c = '+' then some 62
  else if c = '_' ∨ c = '/' then some 63
  else none

theorem charSextet_sextetChar : ∀ n < 64, charSextet (sextetChar n) = some n := by
  decide +kernel

def encode (bytes : List UInt8) : String :=
  String.ofList ((sextets (bytes.map UInt8.toNat)).map sextetChar)

def decode (text : String) : List UInt8 :=
  (octets (text.toList.filterMap charSextet)).map UInt8.ofNat

theorem decode_encode (bytes : List UInt8) : decode (encode bytes) = bytes := by
  have hbytes : ∀ b ∈ bytes.map UInt8.toNat, b < 256 := by
    intro b hb
    obtain ⟨byte, -, rfl⟩ := List.mem_map.1 hb
    exact byte.toNat_lt
  have hchars : ((sextets (bytes.map UInt8.toNat)).map sextetChar).filterMap charSextet =
      sextets (bytes.map UInt8.toNat) := by
    rw [List.filterMap_map]
    refine (List.filterMap_congr fun n hn => ?_).trans List.filterMap_some
    exact charSextet_sextetChar n (sextets_lt hbytes n hn)
  rw [decode, encode, String.toList_ofList, hchars, octets_sextets hbytes, List.map_map]
  refine (List.map_congr_left fun byte _ => ?_).trans (List.map_id bytes)
  exact UInt8.ofNat_toNat

/-- The bytes of a text are the text again. -/
theorem fromUTF8_toUTF8 (text : String) :
    String.fromUTF8? ⟨text.toUTF8.data.toList.toArray⟩ = some text := by
  rw [Array.toArray_toList]
  exact dif_pos text.isValidUTF8

end Base64
