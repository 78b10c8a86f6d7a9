import SpriteStage.Toml.Scalar
import SpriteStage.Toml.Table

namespace SpriteStage.Toml

mutual

/-- The value at the front of a text, inside `depth` arrays and inline tables. -/
def value? : Nat → Nat → List Char → Option (Source × List Char)
  | 0, _, _ => none
  | fuel + 1, depth, cs =>
    match cs with
    | '[' :: rest => if depth + 1 < depthLimit then items? fuel (depth + 1) [] rest else none
    | '\x7b' :: rest =>
      if depth + 1 < depthLimit then
        match skipBlanks rest with
        | '\x7d' :: rest => some (.obj [], rest)
        | rest => pairs? fuel (depth + 1) [] rest
      else none
    | '"' :: _ => (string? cs).map fun (s, rest) => (.str s, rest)
    | '\'' :: _ => (string? cs).map fun (s, rest) => (.str s, rest)
    | cs => scalar? cs

/-- The items of an array up to its end. A comma may follow the last of them, and items may stand on
    lines of their own. -/
def items? : Nat → Nat → List Source → List Char → Option (Source × List Char)
  | 0, _, _, _ => none
  | fuel + 1, depth, done, cs =>
    match skipLines cs.length cs with
    | ']' :: rest => some (.arr done.reverse, rest)
    | cs => do
      let (item, rest) ← value? fuel depth cs
      match skipLines rest.length rest with
      | ',' :: rest => items? fuel depth (item :: done) rest
      | ']' :: rest => some (.arr (item :: done).reverse, rest)
      | _ => none

/-- The pairs of an inline table, which stands on one line. -/
def pairs? : Nat → Nat → Entries Node → List Char → Option (Source × List Char)
  | 0, _, _, _ => none
  | fuel + 1, depth, done, cs => do
    let (key, rest) ← key? cs
    let (value, rest) ← value? fuel depth (skipBlanks (← expect? '=' rest))
    let done ← insert? done key value
    match skipBlanks rest with
    | ',' :: rest => pairs? fuel depth done rest
    | '\x7d' :: rest => some (.obj (entriesToSource done), rest)
    | _ => none

end

/-- Takes one line, or a value over several lines, and returns the text behind it. -/
def line? (b : Builder) (cs : List Char) : Option (Builder × List Char) :=
  match skipBlanks cs with
  | '[' :: '[' :: rest => do
    let (path, rest) ← key? rest
    let rest ← endLine? (← expect? ']' (← expect? ']' rest))
    pure (← b.openListed? path, rest)
  | '[' :: rest => do
    let (path, rest) ← key? rest
    let rest ← endLine? (← expect? ']' rest)
    pure (← b.openTable? path, rest)
  | rest =>
    match endLine? rest with
    | some rest => some (b, rest)
    | none => do
      let (key, rest) ← key? rest
      let rest := skipBlanks (← expect? '=' rest)
      let (value, rest) ← value? (rest.length + 1) 0 rest
      let rest ← endLine? rest
      pure (← b.insert? key value, rest)

/-- Takes all lines. -/
def lines? : Nat → Builder → List Char → Option Builder
  | _, b, [] => some b
  | 0, _, _ => none
  | fuel + 1, b, cs => do
    let (b, rest) ← line? b cs
    lines? fuel b rest

/-- The tree of a document. A byte order mark at its front is skipped. -/
def source? (text : String) : Option Source := do
  let cs := match text.toList with
    | '\ufeff' :: rest => rest
    | cs => cs
  let b ← lines? (cs.length + 1) .start cs
  pure (.obj (entriesToSource (← b.close?)))

end SpriteStage.Toml
