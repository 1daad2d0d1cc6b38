import RoadSketch.Json.Value

/-!
# Printing JSON

Documents on one line without blanks, or with an item per line and two blanks for each level.
-/
namespace RoadSketch.Json

def hexCharacter (n : Nat) : Char := Nat.digitChar n

def numberChars (numeral : Numeral) : List Char := numeral.toChars NumberLayout.stored.plusSign

def escaped (c : Char) : List Char :=
  if c = '"' then ['\\', '"']
  else if c = '\\' then ['\\', '\\']
  else if c = '\n' then ['\\', 'n']
  else if c = '\r' then ['\\', 'r']
  else if c = '\t' then ['\\', 't']
  else if c = '\x08' then ['\\', 'b']
  else if c = '\x0c' then ['\\', 'f']
  else if c.toNat < 0x20 then
    ['\\', 'u', '0', '0', hexCharacter (c.toNat / 16), hexCharacter (c.toNat % 16)]
  else [c]

def quoted (text : String) : List Char := '"' :: text.toList.flatMap escaped ++ ['"']

inductive Spacing where
  | compact
  | indented
  deriving DecidableEq, Repr

namespace Spacing

/-- A line break that is followed by the blanks of a level. -/
def newLine (spacing : Spacing) (level : Nat) : List Char :=
  match spacing with
  | .compact => []
  | .indented => '\n' :: List.replicate (2 * level) ' '

def colon : Spacing → List Char
  | .compact => [':']
  | .indented => [':', ' ']

end Spacing

/-- Items between brackets, separated by commas and each on a line of its own. -/
def enclosed (spacing : Spacing) (level : Nat) (start finish : Char) : List (List Char) → List Char
  | [] => [start, finish]
  | items =>
    start :: List.intercalate [','] (items.map (spacing.newLine (level + 1) ++ ·)) ++
      spacing.newLine level ++ [finish]

mutual

/-- The characters of a value that stands at some level. -/
def print (spacing : Spacing) (level : Nat) : Json → List Char
  | .null => "null".toList
  | .bool true => "true".toList
  | .bool false => "false".toList
  | .number numeral => numberChars numeral
  | .string text => quoted text
  | .brokenString => quoted ""
  | .array items => enclosed spacing level '[' ']' (printItems spacing (level + 1) items)
  | .object fields => enclosed spacing level '\x7b' '\x7d' (printFields spacing (level + 1) fields)

def printItems (spacing : Spacing) (level : Nat) : List Json → List (List Char)
  | [] => []
  | item :: rest => print spacing level item :: printItems spacing level rest

def printFields (spacing : Spacing) (level : Nat) : List (Option String × Json) → List (List Char)
  | [] => []
  | (name, value) :: rest =>
    (quoted (name.getD "") ++ spacing.colon ++ print spacing level value) ::
      printFields spacing level rest

end

def compact (value : Json) : String := String.ofList (print .compact 0 value)

def indented (value : Json) : String := String.ofList (print .indented 0 value)

end RoadSketch.Json
