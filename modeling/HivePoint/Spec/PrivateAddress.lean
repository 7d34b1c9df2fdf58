import HivePoint.Native.ExternalUrl

/-!
# Private addresses

What `isPrivateAddress` answers on the canonical text of an IPv6 address, and how this compares
with the ranges of the address values.

## Key results

- `isPrivateIpv4_ipv4Text`: dotted addresses are classified by their octets
- `isPrivateIpv6_inetNtop`: what the prefixes of the text say about the value
- `isPrivateAddress_byValue`: the addresses that are classified by value
-/

namespace HivePoint

open Inet

/-! ### IPv4 -/

/-- A decimal text is read back. -/
private theorem toNumber?_decText (n : Nat) : toNumber? (decText n) = some n := by
  unfold toNumber? decText
  rw [if_pos, Nat.ofDigitChars_ten_toDigits]
  exact List.all_eq_true.mpr fun c hc => isDigit_of_mem_decText hc

/-- The first two octets of the addresses that `isPrivateIpv4` blocks. -/
def IsBlockedIpv4 (a b : Nat) : Prop :=
  a = 0 ∨ a = 10 ∨ a = 127 ∨ (a = 100 ∧ 64 ≤ b ∧ b ≤ 127) ∨ (a = 169 ∧ b = 254) ∨
    (a = 172 ∧ 16 ≤ b ∧ b ≤ 31) ∨ (a = 192 ∧ b = 168) ∨ (a = 198 ∧ (b = 18 ∨ b = 19))

/-- Dotted addresses are classified by their first two octets. -/
theorem isPrivateIpv4_ipv4Text (address : BitVec 32) :
    isPrivateIpv4 (ipv4Text address) ↔
      IsBlockedIpv4 (address.toNat / 2 ^ 24) (address.toNat / 2 ^ 16 % 2 ^ 8) := by
  have hparts : ((ipv4Text address).splitOn '.').map toNumber? = (octets address).map some := by
    rw [splitOn_ipv4Text, List.map_map]
    exact List.map_congr_left fun n _ => toNumber?_decText n
  unfold isPrivateIpv4
  rw [hparts]
  simp only [octets, List.map_cons, List.map_nil, IsBlockedIpv4, Bool.or_eq_true, Bool.and_eq_true,
    decide_eq_true_eq, or_assoc, and_assoc, ge_iff_le]

/-! ### IPv6 -/

/-- The IPv4-mapped addresses, `::ffff:0:0/96`. -/
def IsMapped (v : BitVec 128) : Prop := v.toNat / 2 ^ 32 = 0xffff

/-- An IPv4-mapped address whose embedded address is blocked. -/
def IsMappedPrivate (v : BitVec 128) : Prop :=
  IsMapped v ∧ isPrivateIpv4 (ipv4Text (embeddedIpv4 v))

/-- The values that name no public host: the unspecified address, the loopback address, the
ranges `fc00::/7` and `fe80::/10`, and the blocked IPv4 addresses. -/
def IsPrivateValue (v : BitVec 128) : Prop :=
  v = 0 ∨ v = 1 ∨ v.toNat / 2 ^ 121 = 0xfc00 / 2 ^ 9 ∨ v.toNat / 2 ^ 118 = 0xfe80 / 2 ^ 6 ∨
    IsMappedPrivate v

/-- The first groups that are written with fewer than four digits and begin with the digits of
a private range. -/
def HasShortPrefix (v : BitVec 128) : Prop :=
  group v 0 = 0xfc ∨ group v 0 = 0xfd ∨ (0xfc0 ≤ group v 0 ∧ group v 0 ≤ 0xfdf) ∨
    (0xfe8 ≤ group v 0 ∧ group v 0 ≤ 0xfeb)

/-- The first group decides about the two ranges. -/
private theorem toNat_div_eq_group_div (v : BitVec 128) :
    v.toNat / 2 ^ 121 = group v 0 / 2 ^ 9 ∧ v.toNat / 2 ^ 118 = group v 0 / 2 ^ 6 := by
  have hlt := v.isLt
  simp only [group, Nat.reduceMul, Nat.reduceSub, Nat.reducePow] at hlt ⊢
  omega

/-- The prefixes of an address's text. -/
private theorem startsWith_inetNtop {p : Nat} (hp : 0 < p) (v : BitVec 128) :
    Text.startsWith (inetNtop v) (hexText p) ↔
      p = group v 0 ∨ p = group v 0 / 16 ∨ p = group v 0 / 256 ∨ p = group v 0 / 4096 := by
  unfold Text.startsWith
  rw [List.isPrefixOf_iff_prefix]
  exact hexText_prefix_inetNtop hp v

/-- A hexadecimal digit is no white space. -/
private theorem not_isSpace_of_isHexDigit {c : Char} (h : isHexDigit c) : ¬Text.isSpace c := by
  have hrange : (48 ≤ c.toNat ∧ c.toNat ≤ 57) ∨ (97 ≤ c.toNat ∧ c.toNat ≤ 102) := by
    simp only [isHexDigit, Char.isDigit, Bool.or_eq_true, Bool.and_eq_true, decide_eq_true_eq,
      Char.le_def, UInt32.le_iff_toNat_le, ge_iff_le, Char.reduceVal, UInt32.reduceToNat] at h
    exact h
  unfold Text.isSpace
  simp only [List.contains_eq_mem, Bool.or_eq_true, Bool.and_eq_true, decide_eq_true_eq,
    List.mem_cons, List.not_mem_nil, or_false]
  omega

/-- A canonical text is trimmed and in lower case. -/
private theorem normalized_inetNtop (v : BitVec 128) :
    Text.toLowerCase (Text.trim (inetNtop v)) = inetNtop v := by
  have hchar : ∀ c ∈ inetNtop v, ¬Text.isSpace c ∧ c.toLower = c := by
    intro c hc
    have htext := isTextChar_of_mem_inetNtop hc
    simp only [isTextChar, Bool.or_eq_true, decide_eq_true_eq] at htext
    rcases htext with (hdigit | rfl) | rfl
    · exact ⟨not_isSpace_of_isHexDigit hdigit, toLower_of_isHexDigit hdigit⟩
    · exact ⟨by decide, rfl⟩
    · exact ⟨by decide, rfl⟩
  rw [Text.trim_of_no_space fun c hc => (hchar c hc).1,
    Text.toLowerCase_of_lower fun c hc => (hchar c hc).2]

/-- What the prefixes of the text say about the value. -/
theorem isPrivateIpv6_inetNtop (v : BitVec 128) :
    isPrivateIpv6 (inetNtop v) ↔
      v = 0 ∨ v = 1 ∨ v.toNat / 2 ^ 121 = 0xfc00 / 2 ^ 9 ∨ v.toNat / 2 ^ 118 = 0xfe80 / 2 ^ 6 ∨
        HasShortPrefix v := by
  have hlt : group v 0 < 65536 := groups_lt _ (List.mem_map_of_mem (by decide : 0 ∈ List.range 8))
  have hunspecified : inetNtop v = "::".toList ↔ v = 0 := inetNtop_eq_unspecified
  have hloopback : inetNtop v = "::1".toList ↔ v = 1 := inetNtop_eq_loopback
  -- what the six prefixes say of the first group
  have hfc := startsWith_inetNtop (p := 0xfc) (by decide) v
  have hfd := startsWith_inetNtop (p := 0xfd) (by decide) v
  have hfe8 := startsWith_inetNtop (p := 0xfe8) (by decide) v
  have hfe9 := startsWith_inetNtop (p := 0xfe9) (by decide) v
  have hfea := startsWith_inetNtop (p := 0xfea) (by decide) v
  have hfeb := startsWith_inetNtop (p := 0xfeb) (by decide) v
  unfold isPrivateIpv6
  rw [normalized_inetNtop, (toNat_div_eq_group_div v).1, (toNat_div_eq_group_div v).2]
  simp only [Bool.or_eq_true, decide_eq_true_eq, hunspecified, hloopback, or_assoc]
  rw [show "fc".toList = hexText 0xfc from rfl, show "fd".toList = hexText 0xfd from rfl,
    show "fe8".toList = hexText 0xfe8 from rfl, show "fe9".toList = hexText 0xfe9 from rfl,
    show "fea".toList = hexText 0xfea from rfl, show "feb".toList = hexText 0xfeb from rfl,
    hfc, hfd, hfe8, hfe9, hfea, hfeb]
  refine or_congr Iff.rfl (or_congr Iff.rfl ?_)
  unfold HasShortPrefix
  omega

/-- The text of an IPv6 address is checked as one. -/
private theorem isPrivateAddress_inetNtop (v : BitVec 128) :
    isPrivateAddress (inetNtop v) = isPrivateIpv6 (inetNtop v) := by
  unfold isPrivateAddress
  rw [isIP_inetNtop]
  rfl

/-- The values that are classified as private by mistake lie in no private range. -/
private theorem not_isPrivateValue_of_hasShortPrefix {v : BitVec 128} (h : HasShortPrefix v) :
    ¬IsPrivateValue v := by
  have hgroup : 0xfc ≤ group v 0 ∧ group v 0 < 0x1000 := by
    unfold HasShortPrefix at h
    omega
  have hfirst : group v 0 = v.toNat / 2 ^ 112 % 2 ^ 16 := rfl
  unfold IsPrivateValue IsMappedPrivate IsMapped
  rw [(toNat_div_eq_group_div v).1, (toNat_div_eq_group_div v).2]
  rintro (rfl | rfl | hrange | hrange | ⟨hmapped, -⟩)
  · exact absurd hgroup (by decide)
  · exact absurd hgroup (by decide)
  · omega
  · omega
  · omega

/-- The IPv4-mapped addresses lie in no range of their own. -/
private theorem not_isPrivateIpv6_of_isMapped {v : BitVec 128} (h : IsMapped v) :
    ¬isPrivateIpv6 (inetNtop v) := by
  have hfirst : group v 0 = v.toNat / 2 ^ 112 % 2 ^ 16 := rfl
  unfold IsMapped at h
  rw [isPrivateIpv6_inetNtop, (toNat_div_eq_group_div v).1, (toNat_div_eq_group_div v).2]
  rintro (rfl | rfl | hrange | hrange | hshort)
  · exact absurd h (by decide)
  · exact absurd h (by decide)
  · omega
  · omega
  · unfold HasShortPrefix at hshort
    omega

/-- An address is classified by its value exactly if its first group is not one of the short
numbers that begin like a private range, and it is not the mapped form of a blocked address. -/
theorem isPrivateAddress_byValue (v : BitVec 128) :
    (isPrivateAddress (inetNtop v) ↔ IsPrivateValue v) ↔
      ¬HasShortPrefix v ∧ ¬IsMappedPrivate v := by
  rw [isPrivateAddress_inetNtop]
  constructor
  · intro h
    constructor
    · intro hshort
      exact not_isPrivateValue_of_hasShortPrefix hshort
        (h.mp ((isPrivateIpv6_inetNtop v).mpr (.inr (.inr (.inr (.inr hshort))))))
    · intro hmapped
      exact not_isPrivateIpv6_of_isMapped hmapped.1
        (h.mpr (.inr (.inr (.inr (.inr hmapped)))))
  · rintro ⟨hshort, hmapped⟩
    rw [isPrivateIpv6_inetNtop]
    unfold IsPrivateValue
    simp only [hshort, hmapped]

/-- `::ffff:10.0.0.1` is taken for a public address. -/
theorem isPrivateAddress_mapped :
    inetNtop 0xffff0a000001 = "::ffff:10.0.0.1".toList ∧
      ¬(isPrivateAddress (inetNtop 0xffff0a000001) ↔ IsPrivateValue 0xffff0a000001) := by
  refine ⟨by decide +kernel, fun h => ?_⟩
  have hmapped : IsMappedPrivate 0xffff0a000001 := by
    refine ⟨?_, by decide +kernel⟩
    unfold IsMapped
    decide
  have hprivate := h.mpr (.inr (.inr (.inr (.inr hmapped))))
  rw [isPrivateAddress_inetNtop] at hprivate
  exact not_isPrivateIpv6_of_isMapped hmapped.1 hprivate

/-- `fc::1`, an address of no private range, is taken for a private one. -/
example : isPrivateAddress (inetNtop 0x00fc0000000000000000000000000001) := by
  decide +kernel

end HivePoint
