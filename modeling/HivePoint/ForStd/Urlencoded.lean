import HivePoint.ForStd.Url

/-!
# `application/x-www-form-urlencoded`

The parser and the serializer of the URL standard. Bytes are decoded as UTF-8 with replacement, the
way the decoder of the encoding standard does it.

## Key results

- `utf8Decode_encode`: the decoder reads back what was encoded
- `decodeText_encodeText`: a name or value survives its escapes
- `parse_serialize`: a list of parameters survives
-/

namespace Urlencoded

/-! ### UTF-8 -/

/-- A character of which some bytes have been read. -/
structure Pending where
  needed : Nat
  lower : Nat
  upper : Nat
  codePoint : Nat

def replacement : Char := Char.ofNat 0xfffd

/-- The first byte of a character. -/
def startChar (b : Nat) : Text × Option Pending :=
  if b ≤ 0x7f then ([Char.ofNat b], none)
  else if 0xc2 ≤ b ∧ b ≤ 0xdf then ([], some ⟨1, 0x80, 0xbf, b % 0x20⟩)
  else if 0xe0 ≤ b ∧ b ≤ 0xef then
    ([], some ⟨2, if b = 0xe0 then 0xa0 else 0x80, if b = 0xed then 0x9f else 0xbf, b % 0x10⟩)
  else if 0xf0 ≤ b ∧ b ≤ 0xf4 then
    ([], some ⟨3, if b = 0xf0 then 0x90 else 0x80, if b = 0xf4 then 0x8f else 0xbf, b % 0x08⟩)
  else ([replacement], none)

/-- A byte that does not continue the character is read again as a first one. -/
def utf8DecodeFrom : Option Pending → List UInt8 → Text
  | none, [] => []
  | some _, [] => [replacement]
  | none, b :: rest => (startChar b.toNat).1 ++ utf8DecodeFrom (startChar b.toNat).2 rest
  | some p, b :: rest =>
    if p.lower ≤ b.toNat ∧ b.toNat ≤ p.upper then
      if p.needed = 1 then
        Char.ofNat (p.codePoint * 0x40 + b.toNat % 0x40) :: utf8DecodeFrom none rest
      else
        utf8DecodeFrom (some ⟨p.needed - 1, 0x80, 0xbf, p.codePoint * 0x40 + b.toNat % 0x40⟩) rest
    else replacement :: (startChar b.toNat).1 ++ utf8DecodeFrom (startChar b.toNat).2 rest

/-- `UTF-8 decode without BOM` -/
def utf8Decode (bytes : List UInt8) : Text := utf8DecodeFrom none bytes

/-- A continuation byte, as a number. -/
private theorem toNat_continuation {n : Nat} (hn : n < 0x40) :
    (UInt8.ofNat (n + 0x80)).toNat = n + 0x80 := by
  rw [UInt8.toNat_ofNat']
  omega

/-- The last byte of a character. -/
private theorem utf8DecodeFrom_last {lower upper codePoint n : Nat} (hn : n < 0x40)
    (hlower : lower ≤ n + 0x80) (hupper : n + 0x80 ≤ upper) (rest : List UInt8) :
    utf8DecodeFrom (some ⟨1, lower, upper, codePoint⟩) (UInt8.ofNat (n + 0x80) :: rest) =
      Char.ofNat (codePoint * 0x40 + n) :: utf8DecodeFrom none rest := by
  have hmod : (n + 0x80) % 0x40 = n := by omega
  rw [utf8DecodeFrom, toNat_continuation hn, if_pos ⟨hlower, hupper⟩, if_pos rfl, hmod]

/-- A byte in the middle of a character. -/
private theorem utf8DecodeFrom_middle {k lower upper codePoint n : Nat} (hn : n < 0x40)
    (hlower : lower ≤ n + 0x80) (hupper : n + 0x80 ≤ upper) (rest : List UInt8) :
    utf8DecodeFrom (some ⟨k + 2, lower, upper, codePoint⟩) (UInt8.ofNat (n + 0x80) :: rest) =
      utf8DecodeFrom (some ⟨k + 1, 0x80, 0xbf, codePoint * 0x40 + n⟩) rest := by
  have hmod : (n + 0x80) % 0x40 = n := by omega
  rw [utf8DecodeFrom, toNat_continuation hn, if_pos ⟨hlower, hupper⟩, if_neg (by simp), hmod]
  rfl

/-- A byte that starts a character of more than one byte. -/
private theorem utf8DecodeFrom_start {b : Nat} (hb : b < 0x100) {p : Pending}
    (hp : startChar b = ([], some p)) (rest : List UInt8) :
    utf8DecodeFrom none (UInt8.ofNat b :: rest) = utf8DecodeFrom (some p) rest := by
  have hnat : (UInt8.ofNat b).toNat = b := by
    rw [UInt8.toNat_ofNat']
    omega
  rw [utf8DecodeFrom, hnat, hp]
  rfl

/-- A character's bytes are decoded to it. -/
private theorem utf8DecodeFrom_encodeChar (c : Char) (rest : List UInt8) :
    utf8DecodeFrom none (String.utf8EncodeChar c ++ rest) = c :: utf8DecodeFrom none rest := by
  have hc : Char.ofNat c.val.toNat = c := Char.ofNat_toNat c
  have hvalid : c.val.toNat < 0xd800 ∨ 0xdfff < c.val.toNat ∧ c.val.toNat < 0x110000 := c.valid
  unfold String.utf8EncodeChar
  generalize c.val.toNat = v at hc hvalid ⊢
  dsimp only
  split
  · have hnat : (UInt8.ofNat v).toNat = v := by
      rw [UInt8.toNat_ofNat']
      omega
    rename_i hv
    rw [List.cons_append, utf8DecodeFrom, hnat, startChar, if_pos hv, hc]
    rfl
  · split
    · rename_i hv
      have hstart : startChar (v / 64 % 0x20 + 0xc0) = ([], some ⟨1, 0x80, 0xbf, v / 64⟩) := by
        have hmod : (v / 64 % 0x20 + 0xc0) % 0x20 = v / 64 := by omega
        rw [startChar, if_neg (by omega), if_pos (by omega), hmod]
      have hsum : v / 64 * 0x40 + v % 0x40 = v := by omega
      rw [List.cons_append, utf8DecodeFrom_start (by omega) hstart, List.cons_append,
        utf8DecodeFrom_last (by omega) (by omega) (by omega), hsum, hc]
      rfl
    · split
      · rename_i hv
        have hstart : startChar (v / 4096 % 0x10 + 0xe0) = ([], some ⟨2,
            if v / 4096 % 0x10 + 0xe0 = 0xe0 then 0xa0 else 0x80,
            if v / 4096 % 0x10 + 0xe0 = 0xed then 0x9f else 0xbf, v / 4096⟩) := by
          have hmod : (v / 4096 % 0x10 + 0xe0) % 0x10 = v / 4096 := by omega
          rw [startChar, if_neg (by omega), if_neg (by omega), if_pos (by omega), hmod]
        have hsum : (v / 4096 * 0x40 + v / 64 % 0x40) * 0x40 + v % 0x40 = v := by omega
        -- the bounds on the second byte exclude overlong spellings and surrogates
        rw [List.cons_append, utf8DecodeFrom_start (by omega) hstart, List.cons_append,
          utf8DecodeFrom_middle (by omega) (by split <;> omega) (by split <;> omega),
            List.cons_append,
          utf8DecodeFrom_last (by omega) (by omega) (by omega), hsum, hc]
        rfl
      · have hstart : startChar (v / 262144 % 0x08 + 0xf0) = ([], some ⟨3,
            if v / 262144 % 0x08 + 0xf0 = 0xf0 then 0x90 else 0x80,
            if v / 262144 % 0x08 + 0xf0 = 0xf4 then 0x8f else 0xbf, v / 262144⟩) := by
          have hmod : (v / 262144 % 0x08 + 0xf0) % 0x08 = v / 262144 := by omega
          rw [startChar, if_neg (by omega), if_neg (by omega), if_neg (by omega),
            if_pos (by omega), hmod]
        have hsum : ((v / 262144 * 0x40 + v / 4096 % 0x40) * 0x40 + v / 64 % 0x40) * 0x40 +
            v % 0x40 =
            v := by omega
        rw [List.cons_append, utf8DecodeFrom_start (by omega) hstart, List.cons_append,
          utf8DecodeFrom_middle (by omega) (by split <;> omega) (by split <;> omega),
            List.cons_append,
          utf8DecodeFrom_middle (by omega) (by omega) (by omega), List.cons_append,
          utf8DecodeFrom_last (by omega) (by omega) (by omega), hsum, hc]
        rfl

/-- What was encoded is read back. -/
theorem utf8Decode_encode (t : Text) : utf8Decode (t.flatMap String.utf8EncodeChar) = t := by
  unfold utf8Decode
  induction t with
  | nil => rfl
  | cons c t ih => rw [List.flatMap_cons, utf8DecodeFrom_encodeChar, ih]

/-! ### Escapes -/

/-- The value of a hexadecimal digit. -/
def hexValue (b : UInt8) : Option Nat :=
  if 0x30 ≤ b.toNat ∧ b.toNat ≤ 0x39 then some (b.toNat - 0x30)
  else if 0x41 ≤ b.toNat ∧ b.toNat ≤ 0x46 then some (b.toNat - 0x37)
  else if 0x61 ≤ b.toNat ∧ b.toNat ≤ 0x66 then some (b.toNat - 0x57)
  else none

/-- A percent sign that two digits do not follow stands for itself. -/
def percentDecode : List UInt8 → List UInt8
  | [] => []
  | [b] => [b]
  | [b, c] => [b, c]
  | b :: hi :: lo :: rest =>
    if b = 0x25 then
      match hexValue hi, hexValue lo with
      | some x, some y => UInt8.ofNat (16 * x + y) :: percentDecode rest
      | _, _ => b :: percentDecode (hi :: lo :: rest)
    else b :: percentDecode (hi :: lo :: rest)

/-- The bytes of a text, with spaces for plus signs. -/
def plusBytes (t : Text) : List UInt8 :=
  t.flatMap fun c => if c = '+' then [0x20] else String.utf8EncodeChar c

def decodeText (t : Text) : Text := utf8Decode (percentDecode (plusBytes t))

/-- What the serializer does not escape. -/
def isUnreserved (c : Char) : Bool := c.isAlphanum || ['*', '-', '.', '_'].contains c

def encodeChar (c : Char) : Text :=
  if c = ' ' then ['+']
  else if isUnreserved c then [c]
  else (String.utf8EncodeChar c).flatMap Url.percentEncodeByte

def encodeText (t : Text) : Text := t.flatMap encodeChar

/-- A byte that is no percent sign is taken as it is. -/
private theorem percentDecode_cons {b : UInt8} (hb : b ≠ 0x25) (rest : List UInt8) :
    percentDecode (b :: rest) = b :: percentDecode rest := by
  match rest with
  | [] => rfl
  | [_] => rfl
  | _ :: _ :: _ => rw [percentDecode, if_neg hb]

/-- The digits that the serializer writes, as bytes. -/
private theorem hexValue_digit : ∀ a < 16,
    plusBytes [(Nat.digitChar a).toUpper] = [UInt8.ofNat (Nat.digitChar a).toUpper.toNat] ∧
      hexValue (UInt8.ofNat (Nat.digitChar a).toUpper.toNat) = some a := by
  decide

/-- The bytes of two texts, one after the other. -/
private theorem plusBytes_append (s t : Text) : plusBytes (s ++ t) = plusBytes s ++ plusBytes t :=
  List.flatMap_append

/-- One escaped byte. -/
private theorem percentDecode_encodeByte (b : UInt8) (rest : List UInt8) :
    percentDecode (plusBytes (Url.percentEncodeByte b) ++ rest) = b :: percentDecode rest := by
  have hb := b.toNat_lt
  obtain ⟨hhi, hhiValue⟩ := hexValue_digit (b.toNat / 16) (by omega)
  obtain ⟨hlo, hloValue⟩ := hexValue_digit (b.toNat % 16) (by omega)
  have hbytes : plusBytes (Url.percentEncodeByte b) =
      0x25 :: (plusBytes [(Nat.digitChar (b.toNat / 16)).toUpper] ++
        plusBytes [(Nat.digitChar (b.toNat % 16)).toUpper]) := by
    rw [← plusBytes_append]
    rfl
  have hvalue : UInt8.ofNat (16 * (b.toNat / 16) + b.toNat % 16) = b := by
    rw [Nat.div_add_mod, UInt8.ofNat_toNat]
  rw [hbytes, hhi, hlo]
  show percentDecode (0x25 :: _ :: _ :: rest) = _
  rw [percentDecode, if_pos rfl, hhiValue, hloValue]
  dsimp only
  rw [hvalue]

/-- Percent-encoded bytes are decoded to themselves. -/
private theorem percentDecode_encodeBytes (bytes rest : List UInt8) :
    percentDecode (plusBytes (bytes.flatMap Url.percentEncodeByte) ++ rest) =
      bytes ++ percentDecode rest := by
  induction bytes with
  | nil => rfl
  | cons b bytes ih =>
    rw [List.flatMap_cons, plusBytes_append, List.append_assoc, percentDecode_encodeByte, ih]
    rfl

/-- A character that is not escaped is one byte, and neither a plus nor a percent sign. -/
private theorem bytes_of_isUnreserved {c : Char} (h : isUnreserved c) :
    plusBytes [c] = String.utf8EncodeChar c ∧
      ∃ b, String.utf8EncodeChar c = [b] ∧ b ≠ 0x25 := by
  -- an unreserved character is ASCII, so the rest can be evaluated
  have hascii : c.toNat < 0x80 := by
    simp only [isUnreserved, Char.isAlphanum, Char.isAlpha, Char.isUpper, Char.isLower,
      Char.isDigit,
      Bool.or_eq_true, Bool.and_eq_true, decide_eq_true_eq, List.contains_iff_mem, List.mem_cons,
      List.not_mem_nil, or_false, UInt32.le_iff_toNat_le] at h
    show c.val.toNat < 0x80
    obtain ((⟨-, h⟩ | ⟨-, h⟩) | ⟨-, h⟩) | (rfl | rfl | rfl | rfl) := h
    · exact Nat.lt_of_le_of_lt h (by decide)
    · exact Nat.lt_of_le_of_lt h (by decide)
    · exact Nat.lt_of_le_of_lt h (by decide)
    all_goals decide
  have hall : ∀ n < 0x80, isUnreserved (Char.ofNat n) →
      plusBytes [Char.ofNat n] = String.utf8EncodeChar (Char.ofNat n) ∧
        String.utf8EncodeChar (Char.ofNat n) = [UInt8.ofNat n] ∧ UInt8.ofNat n ≠ 0x25 := by
    decide +kernel
  have hc := hall c.toNat hascii
  rw [Char.ofNat_toNat] at hc
  obtain ⟨hplus, hbyte, hne⟩ := hc h
  exact ⟨hplus, _, hbyte, hne⟩

/-- An encoded character is decoded to its bytes. -/
private theorem percentDecode_encodeChar (c : Char) (rest : List UInt8) :
    percentDecode (plusBytes (encodeChar c) ++ rest) = String.utf8EncodeChar c ++
      percentDecode rest := by
  unfold encodeChar
  split
  · rename_i hspace
    subst hspace
    exact percentDecode_cons (by decide) rest
  · split
    · rename_i hunreserved
      obtain ⟨hplus, b, hbyte, hb⟩ := bytes_of_isUnreserved hunreserved
      rw [hplus, hbyte]
      exact percentDecode_cons hb rest
    · exact percentDecode_encodeBytes _ rest

/-- A name or value is read back from its escapes. -/
theorem decodeText_encodeText (t : Text) : decodeText (encodeText t) = t := by
  have hbytes : percentDecode (plusBytes (encodeText t)) = t.flatMap String.utf8EncodeChar := by
    unfold encodeText
    induction t with
    | nil => rfl
    | cons c t ih =>
      rw [List.flatMap_cons, plusBytes_append, percentDecode_encodeChar, ih, List.flatMap_cons]
  rw [decodeText, hbytes, utf8Decode_encode]

/-! ### Parameters -/

abbrev Params := List (Text × Text)

def parsePair (piece : Text) : Text × Text :=
  (decodeText (piece.takeWhile (· ≠ '=')), decodeText ((piece.dropWhile (· ≠ '=')).drop 1))

def parse (t : Text) : Params := ((t.splitOn '&').filter (· ≠ [])).map parsePair

def formatPair (param : Text × Text) : Text := encodeText param.1 ++ '=' :: encodeText param.2

def serialize (params : Params) : Text := ['&'].intercalate (params.map formatPair)

/-- `new URLSearchParams(text)` drops a question mark at the start. -/
def ofText : Text → Params
  | '?' :: t => parse t
  | t => parse t

/-- No escape is a separator. -/
private theorem not_separator_of_mem_encodeText {t : Text} {c : Char} (h : c ∈ encodeText t) :
    c ≠ '&' ∧ c ≠ '=' := by
  -- neither separator is a hexadecimal digit, nor unreserved
  have hdigit : ∀ a < 16, (Nat.digitChar a).toUpper ≠ '&' ∧
      (Nat.digitChar a).toUpper ≠ '=' := by decide
  obtain ⟨d, -, hd⟩ := List.mem_flatMap.mp h
  unfold encodeChar at hd
  split at hd
  · obtain rfl := List.mem_singleton.mp hd
    decide
  · split at hd
    · rename_i hunreserved
      obtain rfl := List.mem_singleton.mp hd
      constructor <;>
      · rintro rfl
        exact absurd hunreserved (by decide)
    · obtain ⟨b, -, hb⟩ := List.mem_flatMap.mp hd
      have hlt := b.toNat_lt
      simp only [Url.percentEncodeByte, List.mem_cons, List.not_mem_nil, or_false] at hb
      obtain rfl | rfl | rfl := hb
      · decide
      · exact hdigit _ (by omega)
      · exact hdigit _ (by omega)

/-- A written pair is read back. -/
private theorem parsePair_formatPair (param : Text × Text) :
    parsePair (formatPair param) = param := by
  have hname : ∀ c ∈ encodeText param.1, decide (c ≠ '=') = true :=
    fun c hc => decide_eq_true (not_separator_of_mem_encodeText hc).2
  have htake : (formatPair param).takeWhile (· ≠ '=') = encodeText param.1 := by
    rw [formatPair, List.takeWhile_append_of_pos hname]
    simp
  have hdrop : (formatPair param).dropWhile (· ≠ '=') = '=' :: encodeText param.2 := by
    rw [formatPair, List.dropWhile_append_of_pos hname]
    simp
  rw [parsePair, htake, hdrop]
  exact Prod.ext (decodeText_encodeText _) (decodeText_encodeText _)

/-- The parameters of a serialized list. -/
theorem parse_serialize (params : Params) : parse (serialize params) = params := by
  cases params with
  | nil => rfl
  | cons param params =>
    have hamp : ∀ piece ∈ (param :: params).map formatPair, '&' ∉ piece := by
      intro piece hpiece hmem
      obtain ⟨p, -, rfl⟩ := List.mem_map.mp hpiece
      rw [formatPair, List.mem_append, List.mem_cons] at hmem
      obtain hmem | hmem | hmem := hmem
      · exact (not_separator_of_mem_encodeText hmem).1 rfl
      · exact absurd hmem (by decide)
      · exact (not_separator_of_mem_encodeText hmem).1 rfl
    have hne : ∀ piece ∈ (param :: params).map formatPair, decide (piece ≠ []) = true := by
      intro piece hpiece
      obtain ⟨p, -, rfl⟩ := List.mem_map.mp hpiece
      simp [formatPair]
    rw [parse, serialize, List.splitOn_intercalate '&' hamp (by simp),
      List.filter_eq_self.mpr hne, List.map_map, show parsePair ∘ formatPair = id from
        funext parsePair_formatPair, List.map_id]

end Urlencoded

/-! ### `searchParams.set` -/

namespace Url

variable (key value : Text)

/-- Setting a key in an empty list adds it. -/
private theorem setParam_nil : setParam [] key value = [(key, value)] := rfl

/-- Setting a key replaces its first value and drops the others. -/
private theorem setParam_cons (param : Text × Text) (params : List (Text × Text)) :
    setParam (param :: params) key value =
      if param.1 = key then (key, value) :: params.filter (·.1 ≠ key)
      else param :: setParam params key value := by
  unfold setParam
  rw [List.findIdx?_cons]
  by_cases hkey : param.1 = key
  · rw [if_pos (by simpa using hkey), if_pos hkey]
    rfl
  · rw [if_neg (by simpa using hkey), if_neg hkey]
    cases params.findIdx? (·.1 = key) <;> rfl

/-- The parameters of other names. -/
theorem filter_setParam_of_other {keep : Text → Bool} (hkey : keep key = false)
    (params : List (Text × Text)) :
    (setParam params key value).filter (keep ·.1) = params.filter (keep ·.1) := by
  induction params with
  | nil => rw [setParam_nil, List.filter_cons_of_neg (by simp [hkey])]
  | cons param params ih =>
    rw [setParam_cons]
    split
    · rename_i heq
      rw [List.filter_cons_of_neg (by simp [hkey]), List.filter_cons_of_neg (by simp [heq, hkey]),
        List.filter_filter]
      refine List.filter_congr fun p _ => ?_
      by_cases hp : p.1 = key <;> simp [hp, hkey]
    · rw [List.filter_cons, List.filter_cons, ih]

/-- The parameter is there once. -/
theorem filter_setParam_self (params : List (Text × Text)) :
    (setParam params key value).filter (·.1 = key) = [(key, value)] := by
  induction params with
  | nil => rw [setParam_nil, List.filter_cons_of_pos (by simp), List.filter_nil]
  | cons param params ih =>
    rw [setParam_cons]
    split
    · rw [List.filter_cons_of_pos (by simp), List.filter_filter, List.filter_eq_nil_iff.mpr]
      simp
    · rename_i hne
      rw [List.filter_cons_of_neg (by simpa using hne), ih]

end Url
