import Mathlib
/-!
# IPv6 addresses and their text

An address is a value of 128 bits. `inetNtop` is its canonical text: eight groups in lower case
hexadecimal without leading zeros, the longest run of zero groups compressed, and a dotted tail
where the address embeds an IPv4 address. `isIPv4` and `isIPv6` recognise the texts of
addresses, canonical or not.

## Key results

- `hexText_prefix_iff`: the numbers whose numeral begins with the digits of another one
- `inetNtop_cases`: how a canonical text begins
- `inetNtop_eq_unspecified`, `inetNtop_eq_loopback`: the two texts that name one value each
- `isIPv6_inetNtop`: canonical texts are recognised
-/

namespace Inet

/-! ### Numerals -/

/-- `%x` -/
def hexText (n : Nat) : List Char := Nat.toDigits 16 n

/-- `%u` -/
def decText (n : Nat) : List Char := Nat.toDigits 10 n

/-- A digit as `%x` writes it. -/
def isHexDigit (c : Char) : Bool := c.isDigit || ('a' ≤ c && c ≤ 'f')

/-- A lower-case hexadecimal digit is its own lower case. -/
theorem toLower_of_isHexDigit {c : Char} (h : isHexDigit c) : c.toLower = c := by
  unfold Char.toLower
  split
  · rename_i hupper
    simp only [isHexDigit, Char.isDigit, Bool.or_eq_true, Bool.and_eq_true, decide_eq_true_eq,
      Char.le_def] at h hupper
    simp only [UInt32.le_iff_toNat_le, ge_iff_le, Char.reduceVal, UInt32.reduceToNat] at h hupper
    omega
  · rfl

/-- The digits below 16 are written apart. -/
private theorem digitChar_inj : ∀ a < 16, ∀ b < 16, Nat.digitChar a = Nat.digitChar b → a = b := by
  decide

/-- The digits below 16 are hexadecimal digits. -/
private theorem isHexDigit_digitChar : ∀ a < 16, isHexDigit (Nat.digitChar a) := by
  decide

/-- The last digit, and the digits before it. -/
private theorem hexText_eq_append {n : Nat} (h : 16 ≤ n) :
    hexText n = hexText (n / 16) ++ [Nat.digitChar (n % 16)] :=
  Nat.toDigits_of_base_le (by decide) h

/-- A number below 16 is one digit. -/
private theorem hexText_of_lt {n : Nat} (h : n < 16) : hexText n = [Nat.digitChar n] :=
  Nat.toDigits_of_lt_base h

/-- A number is at least one digit. -/
private theorem hexText_ne_nil (n : Nat) : hexText n ≠ [] := Nat.toDigits_ne_nil

/-- A number is written in hexadecimal digits only. -/
private theorem isHexDigit_of_mem_hexText {n : Nat} {c : Char} (h : c ∈ hexText n) :
    isHexDigit c := by
  induction n using Nat.strongRecOn with
  | ind n ih =>
    by_cases hn : n < 16
    · rw [hexText_of_lt hn, List.mem_singleton] at h
      rw [h]
      exact isHexDigit_digitChar n hn
    · rw [hexText_eq_append (Nat.not_lt.mp hn), List.mem_append, List.mem_singleton] at h
      cases h with
      | inl h => exact ih (n / 16) (by omega) h
      | inr h => rw [h]; exact isHexDigit_digitChar _ (Nat.mod_lt n (by decide))

/-- Numbers with one numeral are one number. -/
private theorem hexText_inj {m n : Nat} (h : hexText m = hexText n) : m = n := by
  induction m using Nat.strongRecOn generalizing n with
  | ind m ih =>
    -- two digits from 16 on, so a text of one digit is a number below 16
    have hlength : ∀ k, 16 ≤ k → 2 ≤ (hexText k).length := by
      intro k hk
      rw [hexText_eq_append hk, List.length_append, List.length_singleton]
      have := List.length_pos_iff.mpr (hexText_ne_nil (k / 16))
      omega
    by_cases hm : m < 16 <;> by_cases hn : n < 16
    · rw [hexText_of_lt hm, hexText_of_lt hn] at h
      exact digitChar_inj m hm n hn (List.cons.inj h).1
    · have := hlength n (Nat.not_lt.mp hn)
      rw [← h, hexText_of_lt hm] at this
      exact absurd this (by simp)
    · have := hlength m (Nat.not_lt.mp hm)
      rw [h, hexText_of_lt hn] at this
      exact absurd this (by simp)
    -- both longer: the last digits agree, and so do the texts before them
    · rw [hexText_eq_append (Nat.not_lt.mp hm), hexText_eq_append (Nat.not_lt.mp hn)] at h
      obtain ⟨hinit, hlast⟩ := List.append_inj' h rfl
      have hdiv := ih (m / 16) (by omega) hinit
      have hmod := digitChar_inj _ (Nat.mod_lt m (by decide)) _ (Nat.mod_lt n (by decide))
        (List.cons.inj hlast).1
      omega

/-- A numeral begins with the digits of `p` if it is `p`, or begins so without its last digit. -/
private theorem hexText_prefix_step {p n : Nat} :
    hexText p <+: hexText n ↔ p = n ∨ (16 ≤ n ∧ hexText p <+: hexText (n / 16)) := by
  by_cases hn : 16 ≤ n
  · rw [hexText_eq_append hn, List.prefix_concat_iff, ← hexText_eq_append hn]
    exact ⟨fun h => h.imp hexText_inj (⟨hn, ·⟩), fun h => h.imp (congrArg hexText) (·.2)⟩
  · constructor
    · intro h
      -- the prefix is not empty, and the numeral is one digit
      have hlength := h.length_le
      rw [hexText_of_lt (Nat.not_le.mp hn), List.length_singleton] at hlength
      have hpos := List.length_pos_iff.mpr (hexText_ne_nil p)
      refine .inl (hexText_inj (h.eq_of_length ?_))
      rw [hexText_of_lt (Nat.not_le.mp hn), List.length_singleton]
      omega
    · intro h
      cases h with
      | inl h => exact h ▸ List.prefix_refl _
      | inr h => exact absurd h.1 hn

/-- Up to four digits. -/
theorem hexText_prefix_iff {p n : Nat} (hp : 0 < p) (hn : n < 65536) :
    hexText p <+: hexText n ↔ p = n ∨ p = n / 16 ∨ p = n / 256 ∨ p = n / 4096 := by
  rw [hexText_prefix_step, hexText_prefix_step, hexText_prefix_step, hexText_prefix_step]
  simp only [Nat.div_div_eq_div_mul]
  omega

/-! ### Texts in pieces -/

/-- What an intercalated list holds is the separator or in one of its parts. -/
private theorem mem_intercalate_singleton {α : Type} {sep x : α} {ls : List (List α)}
    (h : x ∈ [sep].intercalate ls) : x = sep ∨ ∃ l ∈ ls, x ∈ l := by
  induction ls with
  | nil => simp at h
  | cons l ls ih =>
    cases ls with
    | nil => exact .inr ⟨l, List.mem_cons_self, by simpa using h⟩
    | cons l' ls =>
      rw [List.intercalate_cons_cons, List.mem_append, List.mem_append, List.mem_singleton] at h
      rcases h with (h | h) | h
      · exact .inr ⟨l, List.mem_cons_self, h⟩
      · exact .inl h
      · exact (ih h).imp id fun ⟨m, hm, hx⟩ => ⟨m, List.mem_cons_of_mem l hm, hx⟩

/-- The text before the first `::`, and the text after it. -/
def splitDouble : List Char → Option (List Char × List Char)
  | ':' :: ':' :: rest => some ([], rest)
  | c :: rest => (splitDouble rest).map fun p => (c :: p.1, p.2)
  | [] => none

/-- A text without colons before a double colon goes to the first half. -/
private theorem splitDouble_append {l rest : List Char} (h : ':' ∉ l) :
    splitDouble (l ++ rest) = (splitDouble rest).map fun p => (l ++ p.1, p.2) := by
  induction l with
  | nil => simp
  | cons c l ih =>
    rw [List.mem_cons, not_or] at h
    rw [List.cons_append, splitDouble]
    · rw [ih h.2, Option.map_map]
      rfl
    · rintro rest rfl
      exact absurd rfl h.1

/-- Pieces that are not empty and have no colon. -/
def Pieces (ls : List (List Char)) : Prop := ∀ l ∈ ls, l ≠ [] ∧ ':' ∉ l

/-- The later pieces are pieces. -/
theorem Pieces.tail {l : List Char} {ls : List (List Char)} (h : Pieces (l :: ls)) : Pieces ls :=
  fun m hm => h m (List.mem_cons_of_mem l hm)

/-- Between two pieces there is one colon only. -/
private theorem splitDouble_intercalate {ls : List (List Char)} (h : Pieces ls) (rest : List Char) :
    splitDouble ([':'].intercalate ls ++ rest) =
      (splitDouble rest).map fun p => ([':'].intercalate ls ++ p.1, p.2) := by
  induction ls with
  | nil => simp
  | cons l ls ih =>
    cases ls with
    | nil =>
      rw [List.intercalate_singleton]
      exact splitDouble_append (h l List.mem_cons_self).2
    | cons l' ls =>
      obtain ⟨hne, hcolon⟩ := h l' (List.mem_cons_of_mem l List.mem_cons_self)
      obtain ⟨c, text, rfl⟩ := List.exists_cons_of_ne_nil hne
      rw [List.intercalate_cons_cons, List.append_assoc, List.append_assoc,
        splitDouble_append (h l List.mem_cons_self).2, List.singleton_append]
      rw [splitDouble]
      · rw [ih h.tail, Option.map_map, Option.map_map]
        simp [Function.comp_def]
      · -- the colon is followed by the first character of a piece
        intro rest' _ heq
        rw [List.intercalate_cons_cons_left, List.cons_append] at heq
        exact hcolon ((List.cons.inj heq).1 ▸ List.mem_cons_self)

/-- The texts between the colons, of which the empty text has none. -/
def pieces (t : List Char) : List (List Char) := if t = [] then [] else t.splitOn ':'

/-- Splitting at colons undoes joining with colons. -/
private theorem pieces_intercalate {ls : List (List Char)} (h : Pieces ls) :
    pieces ([':'].intercalate ls) = ls := by
  cases ls with
  | nil => rfl
  | cons l ls =>
    obtain ⟨c, text, rfl⟩ := List.exists_cons_of_ne_nil (h l List.mem_cons_self).1
    unfold pieces
    rw [if_neg]
    · exact List.splitOn_intercalate ':' (fun m hm => (h m hm).2) (List.cons_ne_nil _ _)
    · rw [List.intercalate_cons_cons_left]
      exact List.cons_ne_nil _ _

/-! ### IPv4 -/

/-- One decimal number of a dotted address: no leading zero, at most 255. -/
def isOctet (p : List Char) : Bool :=
  p ≠ [] && p.all Char.isDigit && (p.length = 1 || p.head? ≠ some '0') &&
    Nat.ofDigitChars 10 p 0 ≤ 255

/-- `isIPv4` of `node:net` -/
def isIPv4 (t : List Char) : Bool :=
  (t.splitOn '.').length = 4 && (t.splitOn '.').all isOctet

/-- The four octets, highest first. -/
def octets (a : BitVec 32) : List Nat :=
  [a.toNat / 2 ^ 24, a.toNat / 2 ^ 16 % 2 ^ 8, a.toNat / 2 ^ 8 % 2 ^ 8, a.toNat % 2 ^ 8]

/-- The dotted text of an IPv4 address. -/
def ipv4Text (a : BitVec 32) : List Char := ['.'].intercalate ((octets a).map decText)

/-- An octet is below 256. -/
private theorem octets_lt {a : BitVec 32} : ∀ o ∈ octets a, o < 256 := by
  have := a.isLt
  simp only [octets, List.forall_mem_cons]
  refine ⟨by omega, by omega, by omega, by omega, by simp⟩

/-- A number is written in decimal digits only. -/
theorem isDigit_of_mem_decText {n : Nat} {c : Char} (h : c ∈ decText n) : c.isDigit :=
  Nat.isDigit_of_mem_toDigits (by decide) (by decide) h

/-- A number below 256 is read back as an octet. -/
private theorem isOctet_decText : ∀ n < 256, isOctet (decText n) := by
  decide +kernel

/-- The dots of a dotted text are between its octets. -/
theorem splitOn_ipv4Text (a : BitVec 32) :
    (ipv4Text a).splitOn '.' = (octets a).map decText := by
  apply List.splitOn_intercalate
  · intro l hl hdot
    obtain ⟨o, -, rfl⟩ := List.mem_map.mp hl
    exact absurd (isDigit_of_mem_decText hdot) (by decide)
  · simp [octets]

/-- The dotted text of four octets is an IPv4 address. -/
private theorem isIPv4_ipv4Text (a : BitVec 32) : isIPv4 (ipv4Text a) := by
  unfold isIPv4
  rw [splitOn_ipv4Text, List.all_map]
  simp only [List.length_map, Bool.and_eq_true, decide_eq_true_eq, List.all_eq_true]
  exact ⟨rfl, fun o ho => isOctet_decText o (octets_lt o ho)⟩

/-- An IPv4 address holds digits and dots only. -/
private theorem isDigit_or_dot_of_isIPv4 {t : List Char} (h : isIPv4 t) {c : Char} (hc : c ∈ t) :
    c.isDigit ∨ c = '.' := by
  simp only [isIPv4, Bool.and_eq_true, List.all_eq_true] at h
  have ht : ['.'].intercalate (t.splitOn '.') = t := List.intercalate_splitOn '.'
  rw [← ht] at hc
  cases mem_intercalate_singleton hc with
  | inl hdot => exact .inr hdot
  | inr hpiece =>
    obtain ⟨p, hp, hc⟩ := hpiece
    have hoctet := h.2 p hp
    simp only [isOctet, Bool.and_eq_true, List.all_eq_true] at hoctet
    exact .inl (hoctet.1.1.2 c hc)

/-! ### IPv6 texts -/

/-- One to four hexadecimal digits, in either case. -/
def isHexGroup (p : List Char) : Bool :=
  1 ≤ p.length && p.length ≤ 4 && p.all fun c => isHexDigit c.toLower

/-- How many groups of 16 bits the pieces name, if each is well formed. The last one may be a
dotted address when `dotted`. -/
def groupCount (dotted : Bool) : List (List Char) → Option Nat
  | [] => some 0
  | [p] => if isHexGroup p then some 1 else if dotted && isIPv4 p then some 2 else none
  | p :: ps => if isHexGroup p then (groupCount dotted ps).map (· + 1) else none

/-- Eight groups, or at most seven around one `::`. -/
def isIPv6Address (t : List Char) : Bool :=
  match splitDouble t with
  | none => groupCount true (pieces t) = some 8
  | some (head, tail) =>
    ((groupCount false (pieces head)).bind fun m =>
      (groupCount true (pieces tail)).map (m + ·)).any (· ≤ 7)

/-- `%` and the name of an interface -/
def isZone : List Char → Bool
  | [] => true
  | _ :: zone => zone ≠ [] && zone.all fun c => c.isAlphanum || c = '-' || c = '.' || c = ':'

/-- `isIPv6` of `node:net` -/
def isIPv6 (t : List Char) : Bool :=
  isIPv6Address (t.takeWhile (· ≠ '%')) && isZone (t.dropWhile (· ≠ '%'))

/-- `isIP` of `node:net` -/
def isIP (t : List Char) : Nat :=
  if isIPv4 t then 4 else if isIPv6 t then 6 else 0

/-- A number below `2 ^ 16` is a group. -/
private theorem isHexGroup_hexText {n : Nat} (h : n < 65536) : isHexGroup (hexText n) := by
  have hlength : (hexText n).length ≤ 4 :=
    (Nat.length_toDigits_le_iff (by decide) (by decide)).mpr h
  have hpos := List.length_pos_iff.mpr (hexText_ne_nil n)
  simp only [isHexGroup, Bool.and_eq_true, decide_eq_true_eq, List.all_eq_true]
  refine ⟨⟨hpos, hlength⟩, fun c hc => ?_⟩
  have hdigit := isHexDigit_of_mem_hexText hc
  rwa [toLower_of_isHexDigit hdigit]

/-- Pieces that are groups are counted one each. -/
private theorem groupCount_of_groups {dotted : Bool} {ps : List (List Char)}
    (h : ∀ p ∈ ps, isHexGroup p) : groupCount dotted ps = some ps.length := by
  induction ps with
  | nil => rfl
  | cons p ps ih =>
    have hp := h p List.mem_cons_self
    have ih := ih fun q hq => h q (List.mem_cons_of_mem p hq)
    cases ps with
    | nil => simp [groupCount, hp]
    | cons q qs => simp [groupCount, hp, ih]

/-- A dotted piece is two groups. -/
private theorem groupCount_of_dotted {ps : List (List Char)} {a : List Char}
    (h : ∀ p ∈ ps, isHexGroup p) (ha : isIPv4 a) (hgroup : ¬isHexGroup a) :
    groupCount true (ps ++ [a]) = some (ps.length + 2) := by
  induction ps with
  | nil => simp [groupCount, ha, hgroup]
  | cons p ps ih =>
    have hp := h p List.mem_cons_self
    have ih := ih fun q hq => h q (List.mem_cons_of_mem p hq)
    cases ps with
    | nil => simpa [groupCount, hp] using ih
    | cons q qs => simpa [groupCount, hp] using ih

/-! ### The canonical text -/

/-- Group `i` of the eight groups of 16 bits, highest first. -/
def group (v : BitVec 128) (i : Nat) : Nat := v.toNat / 2 ^ (112 - 16 * i) % 2 ^ 16

def groups (v : BitVec 128) : List Nat := (List.range 8).map (group v)

/-- The low 32 bits. -/
def embeddedIpv4 (v : BitVec 128) : BitVec 32 := v.setWidth 32

/-- The number of zeros a list begins with. -/
def zeroPrefix : List Nat → Nat
  | 0 :: ws => zeroPrefix ws + 1
  | _ => 0

/-- Where the first of the longest runs of zeros begins, and its length. -/
def longestRun (ws : List Nat) : Nat × Nat :=
  (List.range ws.length).foldl
    (fun best i =>
      if best.2 < zeroPrefix (ws.drop i) then (i, zeroPrefix (ws.drop i)) else best)
    (0, 0)

/-- What follows the run, with the dotted tail of `::a.b.c.d` and `::ffff:a.b.c.d`. -/
def tailPieces (v : BitVec 128) (base length : Nat) : List (List Char) :=
  if base = 0 ∧ (length = 6 ∨ (length = 5 ∧ group v 5 = 0xffff)) then
    (((groups v).drop length).take (6 - length)).map hexText ++ [ipv4Text (embeddedIpv4 v)]
  else ((groups v).drop (base + length)).map hexText

/-- `inet_ntop`. A single zero group is not compressed. -/
def inetNtop (v : BitVec 128) : List Char :=
  let run := longestRun (groups v)
  if run.2 < 2 then [':'].intercalate ((groups v).map hexText)
  else [':'].intercalate (((groups v).take run.1).map hexText) ++
    ':' :: ':' :: [':'].intercalate (tailPieces v run.1 run.2)

/-- The words before the end of a run of zeros are zero. -/
private theorem zeroPrefix_getElem? {ws : List Nat} {i : Nat} (h : i < zeroPrefix ws) :
    ws[i]? = some 0 := by
  induction ws generalizing i with
  | nil => simp [zeroPrefix] at h
  | cons w ws ih =>
    cases w with
    | zero =>
      cases i with
      | zero => rfl
      | succ i => exact ih (by simpa [zeroPrefix] using h)
    | succ w => simp [zeroPrefix] at h

/-- The run is one. -/
private theorem longestRun_le (ws : List Nat) :
    (longestRun ws).2 ≤ zeroPrefix (ws.drop (longestRun ws).1) := by
  unfold longestRun
  refine List.foldlRecOn (motive := fun best : Nat × Nat => best.2 ≤ zeroPrefix (ws.drop best.1))
    _ _ (Nat.zero_le _) fun best hbest i _ => ?_
  split
  · exact Nat.le_refl _
  · exact hbest

/-- An address has eight groups. -/
@[simp] theorem length_groups (v : BitVec 128) : (groups v).length = 8 := by
  simp [groups]

/-- The `i`-th group, read out of the list. -/
private theorem groups_getElem? {v : BitVec 128} {i : Nat} (h : i < 8) :
    (groups v)[i]? = some (group v i) := by
  simp [groups, List.getElem?_range h]

/-- The groups inside the longest run are zero. -/
private theorem group_of_longestRun {v : BitVec 128} {i : Nat}
    (hbase : (longestRun (groups v)).1 ≤ i)
    (hi : i < (longestRun (groups v)).1 + (longestRun (groups v)).2) :
    i < 8 ∧ group v i = 0 := by
  have hprefix : ((groups v).drop (longestRun (groups v)).1)[i - (longestRun (groups v)).1]? =
      some 0 := zeroPrefix_getElem? (by have := longestRun_le (groups v); omega)
  rw [List.getElem?_drop, Nat.add_sub_cancel' hbase] at hprefix
  have hlt : i < 8 := by
    have := (List.getElem?_eq_some_iff.mp hprefix).1
    simpa [groups] using this
  rw [groups_getElem? hlt] at hprefix
  exact ⟨hlt, Option.some.inj hprefix⟩

/-- The longest run ends with the address. -/
private theorem longestRun_add_le {v : BitVec 128} (h : 0 < (longestRun (groups v)).2) :
    (longestRun (groups v)).1 + (longestRun (groups v)).2 ≤ 8 := by
  have := (group_of_longestRun (v := v) (Nat.le_sub_one_of_lt (Nat.lt_add_of_pos_right h))
    (by omega)).1
  omega

/-- A group is below `2 ^ 16`. -/
theorem groups_lt {v : BitVec 128} : ∀ w ∈ groups v, w < 65536 := by
  intro w hw
  obtain ⟨i, -, rfl⟩ := List.mem_map.mp hw
  exact Nat.mod_lt _ (by decide)

/-- The groups of an address are written as groups. -/
private theorem isHexGroup_of_mem_groups {v : BitVec 128} {ws : List Nat}
    (h : ∀ w ∈ ws, w ∈ groups v) :
    ∀ p ∈ ws.map hexText, isHexGroup p := by
  intro p hp
  obtain ⟨w, hw, rfl⟩ := List.mem_map.mp hp
  exact isHexGroup_hexText (groups_lt w (h w hw))

/-- A value is its groups. -/
private theorem toNat_eq_groups (v : BitVec 128) :
    v.toNat = group v 0 * 2 ^ 112 + group v 1 * 2 ^ 96 + group v 2 * 2 ^ 80 + group v 3 * 2 ^ 64 +
      group v 4 * 2 ^ 48 + group v 5 * 2 ^ 32 + group v 6 * 2 ^ 16 + group v 7 := by
  have hlt := v.isLt
  simp only [group, Nat.reduceMul, Nat.reduceSub, Nat.reducePow, Nat.pow_zero] at hlt ⊢
  omega

/-! ### Canonical texts are recognised -/

/-- Written groups hold no colon and are not empty. -/
private theorem pieces_of_groups (ws : List Nat) : Pieces (ws.map hexText) := by
  intro p hp
  obtain ⟨w, -, rfl⟩ := List.mem_map.mp hp
  exact ⟨hexText_ne_nil w, fun hcolon => absurd (isHexDigit_of_mem_hexText hcolon) (by decide)⟩

/-- A dotted text begins with a digit and has a dot. -/
private theorem ipv4Text_ne_nil (a : BitVec 32) : ipv4Text a ≠ [] ∧ '.' ∈ ipv4Text a := by
  simp [ipv4Text, octets, List.intercalate_cons_cons]

/-- A dotted text is no group. -/
private theorem not_isHexGroup_ipv4Text (a : BitVec 32) : ¬isHexGroup (ipv4Text a) := by
  intro h
  simp only [isHexGroup, Bool.and_eq_true, List.all_eq_true] at h
  exact absurd (h.2 '.' (ipv4Text_ne_nil a).2) (by decide)

/-- What follows the double colon splits into pieces. -/
private theorem pieces_tailPieces (v : BitVec 128) (base length : Nat) :
    Pieces (tailPieces v base length) := by
  unfold tailPieces
  split
  · intro p hp
    rw [List.mem_append, List.mem_singleton] at hp
    cases hp with
    | inl hp => exact pieces_of_groups _ p hp
    | inr hp =>
      subst hp
      refine ⟨(ipv4Text_ne_nil _).1, fun hcolon => ?_⟩
      have := isDigit_or_dot_of_isIPv4 (isIPv4_ipv4Text _) hcolon
      exact absurd this (by decide)
  · exact pieces_of_groups _

/-- The tail names the groups after the run. -/
private theorem groupCount_tailPieces {v : BitVec 128} {base length : Nat} (h : base + length ≤ 8) :
    groupCount true (tailPieces v base length) = some (8 - (base + length)) := by
  unfold tailPieces
  split
  · rename_i hdotted
    obtain ⟨rfl, hlength⟩ := hdotted
    rw [groupCount_of_dotted
      (isHexGroup_of_mem_groups fun w hw => List.mem_of_mem_drop (List.mem_of_mem_take hw))
      (isIPv4_ipv4Text _) (not_isHexGroup_ipv4Text _)]
    simp only [List.length_map, List.length_take, List.length_drop, length_groups]
    congr 1
    omega
  · rw [groupCount_of_groups (isHexGroup_of_mem_groups fun w hw => List.mem_of_mem_drop hw)]
    simp

/-- The text of every address is an IPv6 address. -/
private theorem isIPv6Address_inetNtop (v : BitVec 128) : isIPv6Address (inetNtop v) := by
  unfold isIPv6Address inetNtop
  by_cases hrun : (longestRun (groups v)).2 < 2
  · have hsplit := splitDouble_intercalate (pieces_of_groups (groups v)) []
    rw [List.append_nil] at hsplit
    simp only [hrun, if_true, hsplit, splitDouble, Option.map_none]
    rw [pieces_intercalate (pieces_of_groups _),
      groupCount_of_groups (isHexGroup_of_mem_groups fun _ hw => hw)]
    simp
  · have hle := longestRun_add_le (v := v) (by omega)
    simp only [hrun, if_false, splitDouble_intercalate (pieces_of_groups _), splitDouble,
      Option.map_some, List.append_nil]
    rw [pieces_intercalate (pieces_of_groups _), pieces_intercalate (pieces_tailPieces _ _ _),
      groupCount_of_groups (isHexGroup_of_mem_groups fun _ hw => List.mem_of_mem_take hw),
      groupCount_tailPieces hle]
    simp only [List.length_map, List.length_take, length_groups, Option.bind_some, Option.map_some,
      Option.any_some, decide_eq_true_eq]
    omega

/-- What a canonical text is written with. -/
def isTextChar (c : Char) : Bool := isHexDigit c || c = ':' || c = '.'

/-- A written group holds characters of an address only. -/
private theorem isTextChar_of_mem_hexText {ws : List Nat} {p : List Char} (hp : p ∈ ws.map hexText)
    {c : Char} (hc : c ∈ p) : isTextChar c := by
  obtain ⟨w, -, rfl⟩ := List.mem_map.mp hp
  simp [isTextChar, isHexDigit_of_mem_hexText hc]

/-- What follows the double colon holds characters of an address only. -/
private theorem isTextChar_of_mem_tailPieces {v : BitVec 128} {base length : Nat} {p : List Char}
    (hp : p ∈ tailPieces v base length) {c : Char} (hc : c ∈ p) : isTextChar c := by
  unfold tailPieces at hp
  split at hp
  · rw [List.mem_append, List.mem_singleton] at hp
    cases hp with
    | inl hp => exact isTextChar_of_mem_hexText hp hc
    | inr hp =>
      rw [hp] at hc
      cases isDigit_or_dot_of_isIPv4 (isIPv4_ipv4Text _) hc with
      | inl hdigit => simp [isTextChar, isHexDigit, hdigit]
      | inr hdot => simp [isTextChar, hdot]
  · exact isTextChar_of_mem_hexText hp hc

/-- Joining with colons adds characters of an address only. -/
private theorem isTextChar_of_mem_intercalate {ps : List (List Char)}
    (h : ∀ p ∈ ps, ∀ c ∈ p, isTextChar c) {c : Char} (hc : c ∈ [':'].intercalate ps) :
    isTextChar c := by
  cases mem_intercalate_singleton hc with
  | inl hcolon => rw [hcolon]; decide
  | inr hpiece =>
    obtain ⟨p, hp, hc⟩ := hpiece
    exact h p hp c hc

/-- The text of an address holds characters of an address only. -/
theorem isTextChar_of_mem_inetNtop {v : BitVec 128} {c : Char} (h : c ∈ inetNtop v) :
    isTextChar c := by
  unfold inetNtop at h
  by_cases hrun : (longestRun (groups v)).2 < 2
  · simp only [hrun, if_true] at h
    exact isTextChar_of_mem_intercalate (fun _ hp _ hc => isTextChar_of_mem_hexText hp hc) h
  · simp only [hrun, if_false, List.mem_append, List.mem_cons] at h
    rcases h with h | rfl | rfl | h
    · exact isTextChar_of_mem_intercalate (fun _ hp _ hc => isTextChar_of_mem_hexText hp hc) h
    · decide
    · decide
    · exact isTextChar_of_mem_intercalate (fun _ hp _ hc => isTextChar_of_mem_tailPieces hp hc) h

/-- Canonical texts are recognised. -/
theorem isIPv6_inetNtop (v : BitVec 128) : isIPv6 (inetNtop v) := by
  have hzone : ∀ c ∈ inetNtop v, decide (c ≠ '%') = true := by
    intro c hc
    rw [decide_eq_true_eq]
    rintro rfl
    exact absurd (isTextChar_of_mem_inetNtop hc) (by decide)
  have haddress := @List.takeWhile_append_of_pos _ _ _ [] hzone
  have hrest := @List.dropWhile_append_of_pos _ _ _ [] hzone
  rw [List.append_nil] at haddress hrest
  unfold isIPv6
  rw [haddress, hrest]
  simp [isIPv6Address_inetNtop, isZone]

/-! ### How a canonical text begins -/

/-- A text begins with its first group, unless this is in the run. -/
theorem inetNtop_cases (v : BitVec 128) :
    (group v 0 = 0 ∧ ∃ rest, inetNtop v = ':' :: ':' :: rest) ∨
      ∃ rest, inetNtop v = hexText (group v 0) ++ ':' :: rest := by
  have hgroups : ∃ w ws, groups v = group v 0 :: w :: ws := ⟨_, _, rfl⟩
  obtain ⟨w, ws, hgroups⟩ := hgroups
  unfold inetNtop
  -- without a run of two zeros the groups are joined as they are
  by_cases hrun : (longestRun (groups v)).2 < 2
  · right
    simp only [hrun, if_true]
    rw [hgroups, List.map_cons, List.map_cons, List.intercalate_cons_cons]
    exact ⟨_, by rw [List.append_assoc, List.singleton_append]⟩
  -- else the run stands first, or the first group is written before it
  · simp only [hrun, if_false]
    cases hbase : (longestRun (groups v)).1 with
    | zero =>
      left
      exact ⟨(group_of_longestRun (i := 0) (by omega) (by omega)).2, _, rfl⟩
    | succ base =>
      right
      rw [hgroups, List.take_succ_cons, List.map_cons]
      cases base with
      | zero => exact ⟨_, by rw [List.take_zero, List.map_nil, List.intercalate_singleton]⟩
      | succ base =>
        rw [List.take_succ_cons, List.map_cons, List.intercalate_cons_cons]
        exact ⟨_, by rw [List.append_assoc, List.append_assoc, List.singleton_append]⟩

/-- The text of every 128-bit address is of family 6. -/
theorem isIP_inetNtop (v : BitVec 128) : isIP (inetNtop v) = 6 := by
  have hcolon : ':' ∈ inetNtop v := by
    cases inetNtop_cases v with
    | inl h =>
      obtain ⟨-, rest, htext⟩ := h
      rw [htext]
      exact List.mem_cons_self
    | inr h =>
      obtain ⟨rest, htext⟩ := h
      rw [htext]
      exact List.mem_append_right _ List.mem_cons_self
  unfold isIP
  rw [if_neg, if_pos (isIPv6_inetNtop v)]
  intro hipv4
  exact absurd (isDigit_or_dot_of_isIPv4 hipv4 hcolon) (by decide)

/-- What comes after a numeral does not lengthen its digits. -/
private theorem hexText_prefix_append_colon {p n : Nat} {rest : List Char} :
    hexText p <+: hexText n ++ ':' :: rest ↔ hexText p <+: hexText n := by
  refine ⟨fun h => ?_, fun h => h.trans (List.prefix_append _ _)⟩
  cases List.prefix_or_prefix_of_prefix h (List.prefix_append _ _) with
  | inl hprefix => exact hprefix
  | inr hprefix =>
    obtain ⟨more, hmore⟩ := hprefix
    rw [← hmore, List.prefix_append_right_inj] at h
    cases more with
    | nil => exact ⟨[], by rw [← hmore, List.append_nil, List.append_nil]⟩
    | cons c more =>
      have hcolon : ':' ∈ hexText p := by
        rw [← hmore, ← (List.cons_prefix_cons.mp h).1]
        exact List.mem_append_right _ List.mem_cons_self
      exact absurd (isHexDigit_of_mem_hexText hcolon) (by decide)

/-- A text begins with the digits of `p` if its first group does. -/
theorem hexText_prefix_inetNtop {p : Nat} (hp : 0 < p) (v : BitVec 128) :
    hexText p <+: inetNtop v ↔
      p = group v 0 ∨ p = group v 0 / 16 ∨ p = group v 0 / 256 ∨ p = group v 0 / 4096 := by
  have hlt : group v 0 < 65536 := Nat.mod_lt _ (by decide)
  cases inetNtop_cases v with
  -- a text that starts with the double colon has no digit to start with
  | inl h =>
    obtain ⟨hzero, rest, htext⟩ := h
    constructor
    · intro hprefix
      rw [htext] at hprefix
      obtain ⟨c, digits, hdigits⟩ := List.exists_cons_of_ne_nil (hexText_ne_nil p)
      have hcolon : ':' ∈ hexText p := by
        rw [hdigits] at hprefix ⊢
        rw [(List.cons_prefix_cons.mp hprefix).1]
        exact List.mem_cons_self
      exact absurd (isHexDigit_of_mem_hexText hcolon) (by decide)
    · omega
  | inr h =>
    obtain ⟨rest, htext⟩ := h
    rw [htext, hexText_prefix_append_colon, hexText_prefix_iff hp hlt]

/-- What a text with its run in front says about the value. -/
private theorem groups_of_inetNtop {v : BitVec 128} {ws : List Nat}
    (h : inetNtop v = ':' :: ':' :: [':'].intercalate (ws.map hexText)) :
    ∃ n, (∀ i < n, group v i = 0) ∧ (groups v).drop n = ws := by
  unfold inetNtop at h
  have hsplit := congrArg splitDouble h
  by_cases hrun : (longestRun (groups v)).2 < 2
  · have hnone := splitDouble_intercalate (pieces_of_groups (groups v)) []
    rw [List.append_nil] at hnone
    simp [hrun, hnone, splitDouble] at hsplit
  · simp only [hrun, if_false, splitDouble_intercalate (pieces_of_groups _), splitDouble,
      Option.map_some, List.append_nil, Option.some.injEq, Prod.mk.injEq] at hsplit
    obtain ⟨hhead, htail⟩ := hsplit
    have hhead := congrArg pieces hhead
    have htail := congrArg pieces htail
    rw [pieces_intercalate (pieces_of_groups _)] at hhead htail
    rw [pieces_intercalate (pieces_tailPieces _ _ _)] at htail
    -- nothing stands before the run
    have hbase : (longestRun (groups v)).1 = 0 := by
      have hlength := congrArg List.length hhead
      simpa [pieces] using hlength
    refine ⟨(longestRun (groups v)).2,
      fun i hi => (group_of_longestRun (by omega) (by omega)).2, ?_⟩
    unfold tailPieces at htail
    split at htail
    · -- a dotted piece is no numeral
      have hdotted : ipv4Text (embeddedIpv4 v) ∈ ws.map hexText := by
        rw [← htail]
        exact List.mem_append_right _ List.mem_cons_self
      obtain ⟨w, -, hw⟩ := List.mem_map.mp hdotted
      have hdot := (ipv4Text_ne_nil (embeddedIpv4 v)).2
      rw [← hw] at hdot
      exact absurd (isHexDigit_of_mem_hexText hdot) (by decide)
    · rw [hbase, Nat.zero_add] at htail
      exact (List.map_inj_right fun _ _ => hexText_inj).mp htail

/-- `::` is the text of the unspecified address only. -/
theorem inetNtop_eq_unspecified {v : BitVec 128} : inetNtop v = [':', ':'] ↔ v = 0 := by
  constructor
  · intro h
    have h : inetNtop v = ':' :: ':' :: [':'].intercalate (([] : List Nat).map hexText) := h
    obtain ⟨n, hzero, hdrop⟩ := groups_of_inetNtop h
    have hn : 8 ≤ n := by simpa using hdrop
    apply BitVec.eq_of_toNat_eq
    rw [toNat_eq_groups, hzero 0 (by omega), hzero 1 (by omega), hzero 2 (by omega),
      hzero 3 (by omega), hzero 4 (by omega), hzero 5 (by omega), hzero 6 (by omega),
      hzero 7 (by omega)]
    rfl
  · rintro rfl
    decide +kernel

/-- `::1` is the text of the loopback address only. -/
theorem inetNtop_eq_loopback {v : BitVec 128} : inetNtop v = [':', ':', '1'] ↔ v = 1 := by
  constructor
  · intro h
    have h : inetNtop v = ':' :: ':' :: [':'].intercalate ([1].map hexText) := h
    obtain ⟨n, hzero, hdrop⟩ := groups_of_inetNtop h
    have hlength := congrArg List.length hdrop
    rw [List.length_drop, length_groups, List.length_singleton] at hlength
    obtain rfl : n = 7 := by omega
    have hlast : group v 7 = 1 := (List.cons.inj hdrop).1
    apply BitVec.eq_of_toNat_eq
    rw [toNat_eq_groups, hzero 0 (by omega), hzero 1 (by omega), hzero 2 (by omega),
      hzero 3 (by omega), hzero 4 (by omega), hzero 5 (by omega), hzero 6 (by omega), hlast]
    rfl
  · rintro rfl
    decide +kernel

end Inet
