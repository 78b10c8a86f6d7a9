import SpriteStage.Json.Basic
import SpriteStage.Number.Decimal

namespace SpriteStage.Json

/-- Doubles are written with a point, and with an exponent outside `1e-5` to `1e15`; a half goes to
    the even neighbour. -/
def doubleLayout : Number.Layout :=
  { plain := some (-5, 15), point := true, tie := .toEven }

/-- The text of a double; JSON has none for infinities and NaN but `null`. -/
def doubleText (x : Float) : String :=
  if Number.isFinite x then doubleLayout.text x else "null"

def hexDigit (n : Nat) : Char :=
  (Nat.toDigits 16 (n % 16)).headD '0'

/-- A character inside a string. -/
def escape (c : Char) : List Char :=
  match c with
  | '"' => ['\\', '"']
  | '\\' => ['\\', '\\']
  | '\x08' => ['\\', 'b']
  | '\x0c' => ['\\', 'f']
  | '\n' => ['\\', 'n']
  | '\r' => ['\\', 'r']
  | '\t' => ['\\', 't']
  | c =>
    if c.toNat < 0x20 then
      ['\\', 'u', '0', '0', hexDigit (c.toNat / 16), hexDigit c.toNat]
    else [c]

def quote (s : String) : String :=
  String.ofList ('"' :: s.toList.flatMap escape ++ ['"'])

mutual

/-- Writes a value behind a text, on one line without spaces. -/
def writeCompact (out : String) : Json → String
  | .null => out ++ "null"
  | .bool b => out ++ if b then "true" else "false"
  | .int i => out ++ toString i
  | .double x => out ++ doubleText x
  | .str s => out ++ quote s
  | .arr items => writeItems (out ++ "[") items ++ "]"
  | .obj entries => writeEntries (out ++ "\x7b") entries ++ "\x7d"

def writeItems (out : String) : List Json → String
  | [] => out
  | [item] => writeCompact out item
  | item :: rest => writeItems (writeCompact out item ++ ",") rest

def writeEntries (out : String) : List (String × Json) → String
  | [] => out
  | [(key, value)] => writeCompact (out ++ quote key ++ ":") value
  | (key, value) :: rest => writeEntries (writeCompact (out ++ quote key ++ ":") value ++ ",") rest

end

/-- The value on one line without spaces. -/
def compact (j : Json) : String :=
  writeCompact "" j

/-- A new line at a depth of nesting. -/
def newLine (depth : Nat) : String :=
  String.ofList ('\n' :: List.replicate (2 * depth) ' ')

mutual

/-- Writes a value behind a text, every item and entry on a line of its own. Empty containers stay on
    one line. -/
def writeLines (depth : Nat) (out : String) : Json → String
  | .null => out ++ "null"
  | .bool b => out ++ if b then "true" else "false"
  | .int i => out ++ toString i
  | .double x => out ++ doubleText x
  | .str s => out ++ quote s
  | .arr [] => out ++ "[]"
  | .arr items => writeItemLines (depth + 1) (out ++ "[") items ++ newLine depth ++ "]"
  | .obj [] => out ++ "\x7b\x7d"
  | .obj entries => writeEntryLines (depth + 1) (out ++ "\x7b") entries ++ newLine depth ++ "\x7d"

def writeItemLines (depth : Nat) (out : String) : List Json → String
  | [] => out
  | [item] => writeLines depth (out ++ newLine depth) item
  | item :: rest =>
    writeItemLines depth (writeLines depth (out ++ newLine depth) item ++ ",") rest

def writeEntryLines (depth : Nat) (out : String) : List (String × Json) → String
  | [] => out
  | [(key, value)] => writeLines depth (out ++ newLine depth ++ quote key ++ ": ") value
  | (key, value) :: rest =>
    writeEntryLines depth (writeLines depth (out ++ newLine depth ++ quote key ++ ": ") value ++ ",")
      rest

end

/-- The indented text of a whole document. -/
def pretty (j : Json) : String :=
  writeLines 0 "" j

end SpriteStage.Json
