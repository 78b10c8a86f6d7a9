import SpriteStage.Json.Token

namespace SpriteStage.Toml

def isBlank (c : Char) : Bool := c = ' ' || c = '\t'

def skipBlanks (cs : List Char) : List Char := cs.dropWhile isBlank

/-- The text behind a line end at its front. -/
def lineEnd? : List Char → Option (List Char)
  | '\n' :: rest => some rest
  | '\r' :: '\n' :: rest => some rest
  | _ => none

/-- A character that may stand in comments and strings: anything but control characters, of which
    the tab alone is allowed. -/
def isPlain (c : Char) : Bool :=
  c = '\t' || (0x20 ≤ c.toNat && c.toNat ≠ 0x7f)

/-- The text behind a comment, if there is one at its front. -/
def skipComment : List Char → List Char
  | '#' :: rest => rest.dropWhile isPlain
  | cs => cs

/-- The text behind the end of a line, before which blanks and a comment may stand. -/
def endLine? (cs : List Char) : Option (List Char) :=
  match skipComment (skipBlanks cs) with
  | [] => some []
  | rest => lineEnd? rest

/-- The text behind blanks, comments and line ends. -/
def skipLines : Nat → List Char → List Char
  | 0, cs => cs
  | fuel + 1, cs =>
    let rest := skipComment (skipBlanks cs)
    match lineEnd? rest with
    | some rest => skipLines fuel rest
    | none => rest

/-- The character with a code point written by `count` hexadecimal digits. -/
def codePoint? (count : Nat) (cs : List Char) : Option (Char × List Char) := do
  let digits := cs.take count
  guard (digits.length = count)
  let values ← digits.mapM Json.hexDigit?
  let code := values.foldl (fun total digit => 16 * total + digit) 0
  guard code.isValidChar
  pure (Char.ofNat code, cs.drop count)

/-- The character that an escape stands for, behind its backslash. -/
def escaped? : List Char → Option (Char × List Char)
  | 'b' :: rest => some ('\x08', rest)
  | 't' :: rest => some ('\t', rest)
  | 'n' :: rest => some ('\n', rest)
  | 'f' :: rest => some ('\x0c', rest)
  | 'r' :: rest => some ('\r', rest)
  | '"' :: rest => some ('"', rest)
  | '\\' :: rest => some ('\\', rest)
  | 'u' :: rest => codePoint? 4 rest
  | 'U' :: rest => codePoint? 8 rest
  | _ => none

/-- The rest of a string on one line between double quotes. `done` holds its characters so far, last
    first. -/
def basicString? (done : List Char) : Nat → List Char → Option (String × List Char)
  | 0, _ => none
  | fuel + 1, cs =>
    match cs with
    | [] => none
    | '"' :: rest => some (String.ofList done.reverse, rest)
    | '\\' :: rest => do
      let (c, rest) ← escaped? rest
      basicString? (c :: done) fuel rest
    | c :: rest => if isPlain c then basicString? (c :: done) fuel rest else none

/-- The rest of a string on one line between single quotes, in which nothing is escaped. -/
def literalString? (cs : List Char) : Option (String × List Char) :=
  let content := cs.takeWhile fun c => isPlain c && c ≠ '\''
  match cs.drop content.length with
  | '\'' :: rest => some (String.ofList content, rest)
  | _ => none

/-- The end of a string over several lines, at the first of a run of quotes. Three quotes close the
    string, and up to two more before them belong to it. -/
def closing? (quote : Char) (cs : List Char) : Option (List Char × List Char) :=
  let quotes := cs.takeWhile (· = quote)
  if quotes.length < 3 then none
  else
    let count := min quotes.length 5
    some (List.replicate (count - 3) quote, cs.drop count)

/-- The text behind an escaped line end: blanks, a line end, and all blanks and line ends that
    follow. -/
def continuation? (cs : List Char) : Option (List Char) :=
  (lineEnd? (skipBlanks cs)).map skipSpace
where
  skipSpace (cs : List Char) : List Char :=
    skip cs.length cs
  skip : Nat → List Char → List Char
    | 0, cs => cs
    | fuel + 1, cs =>
      let rest := skipBlanks cs
      match lineEnd? rest with
      | some rest => skip fuel rest
      | none => rest

/-- The rest of a string over several lines. Between double quotes characters are escaped. -/
def linesString? (quote : Char) (done : List Char) : Nat → List Char → Option (String × List Char)
  | 0, _ => none
  | fuel + 1, cs =>
    match closing? quote cs with
    | some (extra, rest) => some (String.ofList (done.reverse ++ extra), rest)
    | none =>
      match lineEnd? cs with
      | some rest => linesString? quote ('\n' :: done) fuel rest
      | none =>
        match cs with
        | [] => none
        | c :: rest =>
          if c = '\\' && quote = '"' then
            match continuation? rest with
            | some rest => linesString? quote done fuel rest
            | none => do
              let (c, rest) ← escaped? rest
              linesString? quote (c :: done) fuel rest
          else if isPlain c then linesString? quote (c :: done) fuel rest
          else none

/-- The string at the front of a text. A line end right behind three quotes is skipped. -/
def string? (cs : List Char) : Option (String × List Char) :=
  match cs with
  | '"' :: '"' :: '"' :: rest => linesString? '"' [] (cs.length + 1) ((lineEnd? rest).getD rest)
  | '\'' :: '\'' :: '\'' :: rest => linesString? '\'' [] (cs.length + 1) ((lineEnd? rest).getD rest)
  | '"' :: rest => basicString? [] (cs.length + 1) rest
  | '\'' :: rest => literalString? rest
  | _ => none

def isBareKey (c : Char) : Bool :=
  c.isAlphanum || c = '_' || c = '-'

/-- One part of a key. -/
def keyPart? (cs : List Char) : Option (String × List Char) :=
  match cs with
  | '"' :: rest => basicString? [] (cs.length + 1) rest
  | '\'' :: rest => literalString? rest
  | cs =>
    let name := cs.takeWhile isBareKey
    if name.isEmpty then none else some (String.ofList name, cs.drop name.length)

/-- The parts of a key, with points between them and blanks around them. -/
def keyParts? : Nat → List Char → Option (List String × List Char)
  | 0, _ => none
  | fuel + 1, cs => do
    let (part, rest) ← keyPart? (skipBlanks cs)
    match skipBlanks rest with
    | '.' :: rest =>
      let (parts, rest) ← keyParts? fuel rest
      pure (part :: parts, rest)
    | rest => pure ([part], rest)

/-- Keys have fewer parts than this, and arrays and inline tables are nested less deep. -/
def depthLimit : Nat := 80

/-- The parts of the key at the front of a text. -/
def key? (cs : List Char) : Option (List String × List Char) :=
  (keyParts? (cs.length + 1) cs).filter fun (parts, _) => parts.length < depthLimit

end SpriteStage.Toml
