import HivePoint.ForStd.Text

/-!
# JSON.parse

The values of JSON, and the parser of their texts. The fuel of the parser exceeds the depth that
a text of its length can have. A lone surrogate, which is no character, becomes U+FFFD; a number
is kept as it is written.

## Key results

- `JsonValue.parse_object`: what is parsed as an object begins with a brace
-/

inductive JsonValue where
  | null
  | bool (b : Bool)
  | number (text : Text)
  | string (s : Text)
  | array (items : List JsonValue)
  | object (members : List (Text × JsonValue))

namespace JsonValue

/-- `value.key`, where the value is an object. The last of several members counts. -/
def get? (key : Text) : JsonValue → Option JsonValue
  | .object members => (members.reverse.find? (·.1 = key)).map (·.2)
  | _ => none

/-! ### Characters -/

def quote : Char := Char.ofNat 0x22
def backslash : Char := Char.ofNat 0x5c
def openBrace : Char := Char.ofNat 0x7b
def closeBrace : Char := Char.ofNat 0x7d

def isWhitespace (a : Char) : Bool := [0x9, 0xa, 0xd, 0x20].contains a.toNat

def skip (t : Text) : Text := t.dropWhile isWhitespace

/-! ### Strings -/

/-- The code units of a character. -/
def utf16 (a : Char) : List Nat :=
  if a.toNat < 0x10000 then [a.toNat]
  else [0xd800 + (a.toNat - 0x10000) / 0x400, 0xdc00 + (a.toNat - 0x10000) % 0x400]

/-- The characters of code units. -/
def ofUtf16 : List Nat → Text
  | [] => []
  | [u] => [if 0xd800 ≤ u && u ≤ 0xdfff then Char.ofNat 0xfffd else Char.ofNat u]
  | u :: v :: units =>
    if 0xd800 ≤ u && u ≤ 0xdbff && 0xdc00 ≤ v && v ≤ 0xdfff then
      Char.ofNat (0x10000 + (u - 0xd800) * 0x400 + (v - 0xdc00)) :: ofUtf16 units
    else
      (if 0xd800 ≤ u && u ≤ 0xdfff then Char.ofNat 0xfffd else Char.ofNat u) :: ofUtf16 (v :: units)

def hexDigit? (a : Char) : Option Nat :=
  if '0' ≤ a ∧ a ≤ '9' then some (a.toNat - 0x30)
  else if 'a' ≤ a ∧ a ≤ 'f' then some (a.toNat - 0x61 + 10)
  else if 'A' ≤ a ∧ a ≤ 'F' then some (a.toNat - 0x41 + 10)
  else none

/-- The code unit of an escape other than `\u`. -/
def escape? (a : Char) : Option Nat :=
  if a = quote || a = backslash || a = '/' then some a.toNat
  else if a = 'b' then some 0x8
  else if a = 'f' then some 0xc
  else if a = 'n' then some 0xa
  else if a = 'r' then some 0xd
  else if a = 't' then some 0x9
  else none

/-- The code units of a string after its opening quote, and what follows the closing one. -/
def parseUnits : Text → Option (List Nat × Text)
  | [] => none
  | a :: t =>
    if a = quote then some ([], t)
    else if a = backslash then
      match t with
      | [] => none
      | e :: t =>
        if e = 'u' then
          match t with
          | h₁ :: h₂ :: h₃ :: h₄ :: t => do
            let unit := (((← hexDigit? h₁) * 16 + (← hexDigit? h₂)) * 16 + (← hexDigit? h₃)) * 16 +
              (← hexDigit? h₄)
            let (units, rest) ← parseUnits t
            return (unit :: units, rest)
          | _ => none
        else do
          let unit ← escape? e
          let (units, rest) ← parseUnits t
          return (unit :: units, rest)
    else if a.toNat < 0x20 then none
    else do
      let (units, rest) ← parseUnits t
      return (utf16 a ++ units, rest)

def parseString (t : Text) : Option (Text × Text) := do
  let (units, rest) ← parseUnits t
  return (ofUtf16 units, rest)

/-! ### Numbers -/

/-- One digit or more. -/
def parseDigits (t : Text) : Option (Text × Text) :=
  let digits := t.takeWhile Char.isDigit
  if digits = [] then none else some (digits, t.dropWhile Char.isDigit)

/-- A number has no leading zeros. -/
def parseInteger (t : Text) : Option (Text × Text) :=
  if t.head? = some '0' then some (['0'], t.tail) else parseDigits t

/-- `.` and the digits after it, if there is a `.`. -/
def parseFraction (t : Text) : Option (Text × Text) :=
  if t.head? = some '.' then (parseDigits t.tail).map fun (digits, rest) => ('.' :: digits, rest)
  else some ([], t)

def parseExponent (t : Text) : Option (Text × Text) :=
  match t with
  | [] => some ([], [])
  | e :: t' =>
    if e = 'e' || e = 'E' then
      let sign := (t'.take 1).filter fun a => a = '+' || a = '-'
      (parseDigits (t'.drop sign.length)).map fun (digits, rest) => (e :: sign ++ digits, rest)
    else some ([], t)

def parseNumber (t : Text) : Option (Text × Text) := do
  let sign := (t.take 1).filter (· = '-')
  let (integer, rest) ← parseInteger (t.drop sign.length)
  let (fraction, rest) ← parseFraction rest
  let (exponent, rest) ← parseExponent rest
  return (sign ++ integer ++ fraction ++ exponent, rest)

/-! ### Values -/

/-- A word at the beginning of the text. -/
def parseWord (word : String) (value : JsonValue) (t : Text) : Option (JsonValue × Text) :=
  if word.toList.isPrefixOf t then some (value, t.drop word.length) else none

mutual

/-- A value and what follows it. -/
def parseValue : Nat → Text → Option (JsonValue × Text)
  | 0, _ => none
  | fuel + 1, t =>
    match skip t with
    | [] => none
    | a :: rest =>
      if a = openBrace then
        if (skip rest).head? = some closeBrace then some (.object [], (skip rest).tail)
        else (parseMembers fuel rest).map fun (members, rest) => (.object members, rest)
      else if a = '[' then
        if (skip rest).head? = some ']' then some (.array [], (skip rest).tail)
        else (parseItems fuel rest).map fun (items, rest) => (.array items, rest)
      else if a = quote then (parseString rest).map fun (s, rest) => (.string s, rest)
      else if a = 't' then parseWord "true" (.bool true) (a :: rest)
      else if a = 'f' then parseWord "false" (.bool false) (a :: rest)
      else if a = 'n' then parseWord "null" .null (a :: rest)
      else (parseNumber (a :: rest)).map fun (text, rest) => (.number text, rest)

/-- The items of an array up to its closing bracket. -/
def parseItems : Nat → Text → Option (List JsonValue × Text)
  | 0, _ => none
  | fuel + 1, t => do
    let (item, rest) ← parseValue fuel t
    match skip rest with
    | [] => none
    | a :: rest =>
      if a = ']' then return ([item], rest)
      else if a = ',' then
        let (items, rest) ← parseItems fuel rest
        return (item :: items, rest)
      else none

/-- The members of an object up to its closing brace. -/
def parseMembers : Nat → Text → Option (List (Text × JsonValue) × Text)
  | 0, _ => none
  | fuel + 1, t =>
    match skip t with
    | [] => none
    | a :: rest =>
      if a = quote then do
        let (key, rest) ← parseString rest
        if (skip rest).head? = some ':' then
          let (value, rest) ← parseValue fuel (skip rest).tail
          match skip rest with
          | [] => none
          | a :: rest =>
            if a = closeBrace then return ([(key, value)], rest)
            else if a = ',' then
              let (members, rest) ← parseMembers fuel rest
              return ((key, value) :: members, rest)
            else none
        else none
      else none

end

/-- `JSON.parse(text)`, with `none` for the `SyntaxError` -/
def parse (text : Text) : Option JsonValue := do
  let (value, rest) ← parseValue (2 * text.length + 2) text
  if skip rest = [] then return value else none

/-- A word is no object. -/
private theorem parseWord_ne_object {word : String} {value : JsonValue} {t rest : Text}
    {members : List (Text × JsonValue)} (hvalue : ∀ members, value ≠ .object members) :
    parseWord word value t ≠ some (.object members, rest) := by
  unfold parseWord
  split
  · exact fun h => hvalue members (Prod.mk.inj (Option.some.inj h)).1
  · exact fun h => nomatch h

/-- What is parsed as an object begins with a brace. -/
private theorem parseValue_object {fuel : Nat} {t rest : Text} {members : List (Text × JsonValue)}
    (h : parseValue fuel t = some (.object members, rest)) : (skip t).head? = some openBrace := by
  cases fuel with
  | zero => exact nomatch h
  | succ fuel =>
    rw [parseValue] at h
    split at h
    · exact nomatch h
    · rename_i a rest' hskip
      rw [hskip, List.head?_cons]
      refine congrArg some (Decidable.byContradiction fun ha => ?_)
      rw [if_neg ha] at h
      -- every other kind of value is no object
      split at h
      · split at h
        · exact nomatch (Prod.mk.inj (Option.some.inj h)).1
        · obtain ⟨_, -, heq⟩ := Option.map_eq_some_iff.mp h
          exact nomatch (Prod.mk.inj heq).1
      · split at h
        · obtain ⟨_, -, heq⟩ := Option.map_eq_some_iff.mp h
          exact nomatch (Prod.mk.inj heq).1
        · split at h
          · exact parseWord_ne_object (by simp) h
          · split at h
            · exact parseWord_ne_object (by simp) h
            · split at h
              · exact parseWord_ne_object (by simp) h
              · obtain ⟨_, -, heq⟩ := Option.map_eq_some_iff.mp h
                exact nomatch (Prod.mk.inj heq).1

/-- A text that parses to an object begins with its brace. -/
theorem parse_object {text : Text} {members : List (Text × JsonValue)}
    (h : parse text = some (.object members)) : (skip text).head? = some openBrace := by
  obtain ⟨⟨value, rest⟩, hvalue, h⟩ := Option.bind_eq_some_iff.mp h
  dsimp only at h
  split at h
  · obtain rfl := Option.some.inj h
    exact parseValue_object hvalue
  · exact nomatch h

end JsonValue
