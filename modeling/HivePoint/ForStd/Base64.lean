import Mathlib
import HivePoint.ForStd.Text

/-!
# Base 64

Bytes as a text over an alphabet of 64 digits, three bytes to four digits. The last digits are
filled up with `=` (`encode`), or not (`encodeUnpadded`); `decode` reads both.

## Key results

- `decode_encodeUnpadded`: the round trip
- `length_encodeUnpadded`: the length of the text follows from the number of bytes
- `encodeUnpadded_map`: another alphabet renames the digits
-/

namespace Base64

/-- Sixty-four digits, none of which fills up. -/
structure Alphabet where
  digits : List Char
  length_eq : digits.length = 64
  nodup : digits.Nodup
  pad_notMem : '=' ∉ digits

def Alphabet.standard : Alphabet where
  digits := "ABCDEFGHIJKLMNOPQRSTUVWXYZabcdefghijklmnopqrstuvwxyz0123456789+/".toList
  length_eq := by decide +kernel
  nodup := by decide +kernel
  pad_notMem := by decide +kernel

def Alphabet.url : Alphabet where
  digits := "ABCDEFGHIJKLMNOPQRSTUVWXYZabcdefghijklmnopqrstuvwxyz0123456789-_".toList
  length_eq := by decide +kernel
  nodup := by decide +kernel
  pad_notMem := by decide +kernel

/-! ### Six bits at a time -/

/-- The digits of the bytes, as numbers. The last group may be incomplete. -/
def sextets : List UInt8 → List Nat
  | [] => []
  | [a] => [a.toNat / 4, a.toNat % 4 * 16]
  | [a, b] => [a.toNat / 4, a.toNat % 4 * 16 + b.toNat / 16, b.toNat % 16 * 4]
  | a :: b :: c :: rest =>
    a.toNat / 4 :: (a.toNat % 4 * 16 + b.toNat / 16) :: (b.toNat % 16 * 4 + c.toNat / 64) ::
      c.toNat % 64 :: sextets rest

/-- The bytes of the digits. A single digit makes no byte. -/
def octets : List Nat → Option (List UInt8)
  | [] => some []
  | [_] => none
  | [p, q] => some [UInt8.ofNat (p * 4 + q / 16)]
  | [p, q, r] => some [UInt8.ofNat (p * 4 + q / 16), UInt8.ofNat (q % 16 * 16 + r / 4)]
  | p :: q :: r :: s :: rest =>
    (octets rest).map fun bytes =>
      UInt8.ofNat (p * 4 + q / 16) :: UInt8.ofNat (q % 16 * 16 + r / 4) ::
        UInt8.ofNat (r % 4 * 64 + s) :: bytes

/-- An octet is read back from its number. -/
private theorem ofNat_eq {n : Nat} {a : UInt8} (h : n = a.toNat) : UInt8.ofNat n = a := by
  rw [h, UInt8.ofNat_toNat]

/-- The sextets of some octets are read back as them. -/
private theorem octets_sextets (bytes : List UInt8) : octets (sextets bytes) = some bytes := by
  induction bytes using sextets.induct with
  | case1 => rfl
  | case2 a =>
    simp only [sextets, octets]
    rw [ofNat_eq (a := a) (by omega)]
  | case3 a b =>
    have ha := a.toNat_lt
    have hb := b.toNat_lt
    simp only [sextets, octets]
    rw [ofNat_eq (a := a) (by omega), ofNat_eq (a := b) (by omega)]
  | case4 a b c rest ih =>
    have ha := a.toNat_lt
    have hb := b.toNat_lt
    have hc := c.toNat_lt
    simp only [sextets, octets, ih, Option.map_some]
    rw [ofNat_eq (a := a) (by omega), ofNat_eq (a := b) (by omega), ofNat_eq (a := c) (by omega)]

/-- A sextet is below 64. -/
private theorem lt_of_mem_sextets {bytes : List UInt8} {n : Nat} (h : n ∈ sextets bytes) :
    n < 64 := by
  -- by induction on three octets at a time, with one or two left over
  induction bytes using sextets.induct with
  | case1 => exact absurd h List.not_mem_nil
  | case2 a =>
    have ha := a.toNat_lt
    simp only [sextets, List.mem_cons, List.not_mem_nil, or_false] at h
    omega
  | case3 a b =>
    have ha := a.toNat_lt
    have hb := b.toNat_lt
    simp only [sextets, List.mem_cons, List.not_mem_nil, or_false] at h
    omega
  | case4 a b c rest ih =>
    have ha := a.toNat_lt
    have hb := b.toNat_lt
    have hc := c.toNat_lt
    simp only [sextets, List.mem_cons] at h
    rcases h with h | h | h | h | h
    · omega
    · omega
    · omega
    · omega
    · exact ih h

/-- The number of sextets. -/
private theorem length_sextets (bytes : List UInt8) :
    (sextets bytes).length = (bytes.length * 4 + 2) / 3 := by
  induction bytes using sextets.induct with
  | case1 => rfl
  | case2 a => simp [sextets]
  | case3 a b => simp [sextets]
  | case4 a b c rest ih =>
    simp only [sextets, List.length_cons, ih]
    omega

/-! ### Texts -/

section Texts

variable (A : Alphabet)

/-- The digit of a number below 64. -/
def Alphabet.digit (n : Nat) : Char := A.digits.getD n '='

/-- The number of a digit. -/
def Alphabet.value? (c : Char) : Option Nat :=
  if c ∈ A.digits then some (A.digits.idxOf c) else none

/-- A digit is in its alphabet. -/
private theorem Alphabet.digit_mem {n : Nat} (h : n < 64) : A.digit n ∈ A.digits := by
  have hlength : n < A.digits.length := A.length_eq ▸ h
  rw [Alphabet.digit, List.getD_eq_getElem _ _ hlength]
  exact List.getElem_mem hlength

/-- A digit is read back as its number. -/
private theorem Alphabet.value?_digit {n : Nat} (h : n < 64) : A.value? (A.digit n) = some n := by
  have hlength : n < A.digits.length := A.length_eq ▸ h
  rw [Alphabet.value?, if_pos (A.digit_mem h), Alphabet.digit, List.getD_eq_getElem _ _ hlength,
    List.Nodup.idxOf_getElem A.nodup]

/-- The text, filled up to a multiple of four digits. -/
def encode (bytes : List UInt8) : Text :=
  (sextets bytes).map A.digit ++ List.replicate ((3 - bytes.length % 3) % 3) '='

def encodeUnpadded (bytes : List UInt8) : Text := (sextets bytes).map A.digit

/-- The bytes of a text; what follows a `=` is ignored. -/
def decode (t : Text) : Option (List UInt8) :=
  ((t.takeWhile (· ≠ '=')).mapM A.value?).bind octets

/-- No digit is the padding. -/
private theorem digit_ne_pad {n : Nat} (h : n < 64) : A.digit n ≠ '=' := by
  intro heq
  exact A.pad_notMem (heq ▸ A.digit_mem h)

/-- An encoding is written in digits only. -/
theorem mem_encodeUnpadded {bytes : List UInt8} {c : Char} (h : c ∈ encodeUnpadded A bytes) :
    c ∈ A.digits := by
  obtain ⟨n, hn, rfl⟩ := List.mem_map.mp h
  exact A.digit_mem (lt_of_mem_sextets hn)

/-- The padding is what follows the digits. -/
private theorem takeWhile_encodeUnpadded (bytes : List UInt8) (n : Nat) :
    (encodeUnpadded A bytes ++ List.replicate n '=').takeWhile (· ≠ '=') =
      encodeUnpadded A bytes := by
  have hdigits : ∀ c ∈ encodeUnpadded A bytes, decide (c ≠ '=') = true := by
    intro c hc
    obtain ⟨k, hk, rfl⟩ := List.mem_map.mp hc
    exact decide_eq_true (digit_ne_pad A (lt_of_mem_sextets hk))
  rw [List.takeWhile_append_of_pos hdigits]
  cases n with
  | zero => simp
  | succ n => simp [List.replicate_succ]

/-- Digits are read back as their numbers. -/
private theorem mapM_value?_digits {l : List Nat} (h : ∀ n ∈ l, n < 64) :
    (l.map A.digit).mapM A.value? = some l := by
  induction l with
  | nil => rfl
  | cons n l ih =>
    rw [List.map_cons, List.mapM_cons, A.value?_digit (h n List.mem_cons_self),
      ih fun m hm => h m (List.mem_cons_of_mem _ hm)]
    rfl

/-- Decoding undoes encoding. -/
theorem decode_encodeUnpadded (bytes : List UInt8) :
    decode A (encodeUnpadded A bytes) = some bytes := by
  have htake := takeWhile_encodeUnpadded A bytes 0
  rw [List.replicate_zero, List.append_nil] at htake
  unfold decode
  rw [htake, encodeUnpadded, mapM_value?_digits A fun n hn => lt_of_mem_sextets hn]
  exact octets_sextets bytes

/-- The length of an encoding. -/
theorem length_encodeUnpadded (bytes : List UInt8) :
    (encodeUnpadded A bytes).length = (bytes.length * 4 + 2) / 3 := by
  rw [encodeUnpadded, List.length_map, length_sextets]

/-- Renaming the digits leads to another alphabet. -/
theorem encodeUnpadded_map {B : Alphabet} {f : Char → Char} (h : A.digits.map f = B.digits)
    (bytes : List UInt8) : (encodeUnpadded A bytes).map f = encodeUnpadded B bytes := by
  unfold encodeUnpadded
  rw [List.map_map]
  refine List.map_congr_left fun n hn => ?_
  have hn : n < A.digits.length := A.length_eq ▸ lt_of_mem_sextets hn
  have hn' : n < B.digits.length := by rw [← h, List.length_map]; exact hn
  show f (A.digit n) = B.digit n
  rw [Alphabet.digit, Alphabet.digit, List.getD_eq_getElem _ _ hn, List.getD_eq_getElem _ _ hn']
  simp only [← h, List.getElem_map]

end Texts

end Base64
