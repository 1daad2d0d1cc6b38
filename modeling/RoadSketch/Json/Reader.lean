import RoadSketch.Json.Value

/-!
# Reading JSON

A recursive reader of whole documents. Every step of the recursion takes at least one character, so
the length of the text bounds its depth.
-/
namespace RoadSketch.Json

def isBlank (c : Char) : Bool := c = ' ' || c = '\n' || c = '\t' || c = '\r'

def skipBlanks (text : List Char) : List Char := text.dropWhile isBlank

def codeUnit? (a b c d : Char) : Option Nat := do
  some ((((← hexDigit? a) * 16 + (← hexDigit? b)) * 16 + (← hexDigit? c)) * 16 + (← hexDigit? d))

def shortEscape? : Char → Option Char
  | '"' => some '"'
  | '\\' => some '\\'
  | '/' => some '/'
  | 'b' => some '\x08'
  | 'f' => some '\x0c'
  | 'n' => some '\n'
  | 'r' => some '\r'
  | 't' => some '\t'
  | _ => none

def isHighSurrogate (unit : Nat) : Bool := 0xD800 ≤ unit && unit < 0xDC00

def isLowSurrogate (unit : Nat) : Bool := 0xDC00 ≤ unit && unit < 0xE000

/-- The code units of a text up to its closing quote, each a character or a unit given by number,
and what follows the quote. -/
def readUnits? : List Char → Option (List (Char ⊕ Nat) × List Char)
  | [] => none
  | '"' :: rest => some ([], rest)
  | '\\' :: 'u' :: a :: b :: c :: d :: rest => do
    let unit ← codeUnit? a b c d
    let (units, after) ← readUnits? rest
    some (.inr unit :: units, after)
  | '\\' :: letter :: rest => do
    let c ← shortEscape? letter
    let (units, after) ← readUnits? rest
    some (.inl c :: units, after)
  | c :: rest =>
    if c.toNat < 0x20 ∨ c = '\\' then none
    else do
      let (units, after) ← readUnits? rest
      some (.inl c :: units, after)

/-- Joins surrogate pairs. -/
def joinUnits? : List (Char ⊕ Nat) → Option (List Char)
  | [] => some []
  | .inl c :: rest => (joinUnits? rest).map (c :: ·)
  | .inr high :: rest =>
    if isHighSurrogate high then
      match rest with
      | .inr low :: rest =>
        if isLowSurrogate low then
          (joinUnits? rest).map
            (Char.ofNat (0x10000 + (high - 0xD800) * 0x400 + (low - 0xDC00)) :: ·)
        else none
      | _ => none
    -- Half a pair stands for nothing.
    else if isLowSurrogate high then none
    else (joinUnits? rest).map (Char.ofNat high :: ·)

/-- The text up to its closing quote, unless it has half of a surrogate pair. -/
def readText? (text : List Char) : Option (Option String × List Char) := do
  let (units, rest) ← readUnits? text
  some ((joinUnits? units).map String.ofList, rest)

def dropWord? : List Char → List Char → Option (List Char)
  | [], text => some text
  | c :: word, d :: text => if c = d then dropWord? word text else none
  | _ :: _, [] => none

def readFraction? : List Char → Option (Option (List Char) × List Char)
  | '.' :: text =>
    match spanDigits text with
    | ([], _) => none
    | (digits, rest) => some (some digits, rest)
  | text => some (none, text)

/-- An exponent that may be missing; its letter has to be followed by digits, after a sign that may
be missing. -/
def readScale? : List Char → Option (Option (Bool × List Char) × List Char)
  | [] => some (none, [])
  | c :: text =>
    if c = 'e' ∨ c = 'E' then
      let (negative, unsigned) := spanSign text
      match spanDigits unsigned with
      | ([], _) => none
      | (digits, rest) => some (some (negative, digits), rest)
    else some (none, c :: text)

def readNumeral? (text : List Char) : Option (Numeral × List Char) := do
  let (negative, unsigned) := match text with
    | '-' :: rest => (true, rest)
    | rest => (false, rest)
  let (whole, afterWhole) := spanDigits unsigned
  -- A zero does not stand in front of other digits.
  if whole = [] ∨ (whole.head? = some '0' ∧ whole.length > 1) then none
  else
    let (fraction, afterFraction) ← readFraction? afterWhole
    let (exponent, rest) ← readScale? afterFraction
    some (⟨negative, whole, fraction, exponent⟩, rest)

mutual

/-- A value at the start of a text, and what follows it. -/
def readValue? : Nat → List Char → Option (Json × List Char)
  | 0, _ => none
  | fuel + 1, text =>
    match skipBlanks text with
    | 'n' :: rest => (dropWord? "ull".toList rest).map fun rest => (.null, rest)
    | 't' :: rest => (dropWord? "rue".toList rest).map fun rest => (.bool true, rest)
    | 'f' :: rest => (dropWord? "alse".toList rest).map fun rest => (.bool false, rest)
    | '"' :: rest => (readText? rest).map fun
      | (some content, rest) => (.string content, rest)
      | (none, rest) => (.brokenString, rest)
    | '[' :: rest =>
      match skipBlanks rest with
      | ']' :: rest => some (.array [], rest)
      | rest => (readItems? fuel rest).map fun (items, rest) => (.array items, rest)
    | '\x7b' :: rest =>
      match skipBlanks rest with
      | '\x7d' :: rest => some (.object [], rest)
      | rest => (readFields? fuel rest).map fun (fields, rest) => (.object fields, rest)
    | rest => (readNumeral? rest).map fun (numeral, rest) => (.number numeral, rest)

/-- The items of an array up to its closing bracket; there is at least one. -/
def readItems? : Nat → List Char → Option (List Json × List Char)
  | 0, _ => none
  | fuel + 1, text => do
    let (item, rest) ← readValue? fuel text
    match skipBlanks rest with
    | ',' :: rest =>
      let (items, rest) ← readItems? fuel rest
      some (item :: items, rest)
    | ']' :: rest => some ([item], rest)
    | _ => none

/-- The fields of an object up to its closing brace; there is at least one. -/
def readFields? : Nat → List Char → Option (List (Option String × Json) × List Char)
  | 0, _ => none
  | fuel + 1, text =>
    match skipBlanks text with
    | '"' :: rest => do
      let (name, rest) ← readText? rest
      match skipBlanks rest with
      | ':' :: rest =>
        let (value, rest) ← readValue? fuel rest
        match skipBlanks rest with
        | ',' :: rest =>
          let (fields, rest) ← readFields? fuel rest
          some ((name, value) :: fields, rest)
        | '\x7d' :: rest => some ([(name, value)], rest)
        | _ => none
      | _ => none
    | _ => none

end

def ofText? (text : String) : Option Json := do
  let characters := text.toList
  let (value, rest) ← readValue? (characters.length + 1) characters
  -- Nothing but blanks may follow the value.
  if skipBlanks rest = [] then some value else none

end RoadSketch.Json
