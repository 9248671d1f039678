/-!
# JSON texts

The values that reports are made of, and their two layouts: on one line without blanks, and over
several lines with an indentation of two blanks for each level.
-/

namespace FaultTreeExchange

/-- A value of a report. The entries of an object keep their order. -/
inductive Json where
  | number (value : Nat)
  | string (text : String)
  | array (items : List Json)
  | object (entries : List (String × Json))

namespace Json

/-- A digit of a hexadecimal number below sixteen. -/
def hexDigit (value : Nat) : Char :=
  if value < 10 then Char.ofNat ('0'.toNat + value) else Char.ofNat ('a'.toNat + (value - 10))

/-- A character of a string. Quotes, backslashes and control characters are escaped, and no
others. -/
def escape (c : Char) : List Char :=
  if c = '"' then ['\\', '"']
  else if c = '\\' then ['\\', '\\']
  else if c = '\n' then ['\\', 'n']
  else if c = '\r' then ['\\', 'r']
  else if c = '\t' then ['\\', 't']
  else if c = '\x08' then ['\\', 'b']
  else if c = '\x0c' then ['\\', 'f']
  else if c.toNat < 32 then
    ['\\', 'u', '0', '0', hexDigit (c.toNat / 16), hexDigit (c.toNat % 16)]
  else [c]

def quote (text : String) : String :=
  String.ofList ('"' :: text.toList.flatMap escape ++ ['"'])

/-- Brackets around items that are separated by commas. -/
def enclose (opening closing : String) (items : List String) : String :=
  opening ++ ",".intercalate items ++ closing

mutual

/-- The layout on one line. -/
def compact : Json → String
  | .number value => toString value
  | .string text => quote text
  | .array items => enclose "[" "]" (compactItems items)
  | .object entries => enclose "\x7b" "\x7d" (compactEntries entries)

/-- The items of an array on one line. -/
def compactItems : List Json → List String
  | [] => []
  | item :: rest => compact item :: compactItems rest

/-- The entries of an object on one line. -/
def compactEntries : List (String × Json) → List String
  | [] => []
  | (name, value) :: rest => (quote name ++ ":" ++ compact value) :: compactEntries rest

end

/-- The start of a line at a level of the layout over several lines. -/
def newLine (level : Nat) : String :=
  String.ofList ('\n' :: List.replicate (2 * level) ' ')

/-- Brackets around items that stand on lines of their own. Without items nothing stands between
the brackets. -/
def encloseLines (level : Nat) (opening closing : String) : List String → String
  | [] => opening ++ closing
  | items =>
    opening ++ newLine (level + 1) ++ ("," ++ newLine (level + 1)).intercalate items ++
      newLine level ++ closing

mutual

/-- The layout over several lines of a value at a level. -/
def prettyAt (level : Nat) : Json → String
  | .number value => toString value
  | .string text => quote text
  | .array items => encloseLines level "[" "]" (prettyItems (level + 1) items)
  | .object entries => encloseLines level "\x7b" "\x7d" (prettyEntries (level + 1) entries)

/-- The items of an array over several lines. -/
def prettyItems (level : Nat) : List Json → List String
  | [] => []
  | item :: rest => prettyAt level item :: prettyItems level rest

/-- The entries of an object over several lines. -/
def prettyEntries (level : Nat) : List (String × Json) → List String
  | [] => []
  | (name, value) :: rest =>
    (quote name ++ ": " ++ prettyAt level value) :: prettyEntries level rest

end

/-- The layout over several lines. -/
def pretty (value : Json) : String :=
  prettyAt 0 value

end Json
end FaultTreeExchange
