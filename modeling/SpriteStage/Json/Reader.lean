import SpriteStage.Json.Token

namespace SpriteStage.Json

/-- A container that is still open, with its finished parts last first. A container is not usable
    once it is nested too deep or has a key without content. -/
inductive Frame where
  | array (items : List Source) (usable : Bool)
  | object (entries : List (String × Source)) (key : String) (usable : Bool)

/-- What may come next. -/
inductive Awaited where
  | value
  | firstItem
  | firstKey
  | key
  | colon
  | separator
  | nothing (result : Source)

/-- How far a text was read. A stack of open containers takes the tokens one after the other, so the
    nesting of a text costs no recursion. -/
structure Progress where
  stack : List Frame
  awaited : Awaited

/-- Adds a finished value to the innermost open container. -/
def Progress.finish (value : Source) : List Frame → Progress
  | [] => ⟨[], .nothing value⟩
  | .array items usable :: rest => ⟨.array (value :: items) usable :: rest, .separator⟩
  | .object entries key usable :: rest =>
    ⟨.object ((key, value) :: entries) key usable :: rest, .separator⟩

/-- The value of a container that is being closed. -/
def Frame.value : Frame → Source
  | .array items true => .arr items.reverse
  | .object entries _ true => .obj entries.reverse
  | _ => .unusable

/-- A value starts with this token. Containers are nested `limit` deep at most, if there is a
    limit. -/
def Progress.begin? (limit : Option Nat) (stack : List Frame) : Token → Option Progress
  | .literal value => some (finish value stack)
  | .string content => some (finish (content.elim .unusable .str) stack)
  | .openArray => some ⟨.array [] (usable stack) :: stack, .firstItem⟩
  | .openObject => some ⟨.object [] "" (usable stack) :: stack, .firstKey⟩
  | _ => none
where
  usable (stack : List Frame) : Bool := limit.all (stack.length < ·)

/-- The name of an entry of the innermost object. -/
def Progress.name? (stack : List Frame) (content : Option String) : Option Progress :=
  match stack with
  | .object entries _ usable :: rest =>
    let frame := match content with
      | some key => Frame.object entries key usable
      | none => Frame.object entries "" false
    some ⟨frame :: rest, .colon⟩
  | _ => none

/-- Takes one token. -/
def Progress.step? (limit : Option Nat) (p : Progress) (token : Token) : Option Progress :=
  match p.awaited, token with
  | .value, token => begin? limit p.stack token
  | .firstItem, .closeArray => close p.stack
  | .firstItem, token => begin? limit p.stack token
  | .firstKey, .closeObject => close p.stack
  | .firstKey, .string content => name? p.stack content
  | .key, .string content => name? p.stack content
  | .colon, .colon => some ⟨p.stack, .value⟩
  | .separator, .comma =>
    match p.stack with
    | .array _ _ :: _ => some ⟨p.stack, .value⟩
    | .object _ _ _ :: _ => some ⟨p.stack, .key⟩
    | [] => none
  | .separator, .closeArray =>
    match p.stack with
    | .array _ _ :: _ => close p.stack
    | _ => none
  | .separator, .closeObject =>
    match p.stack with
    | .object _ _ _ :: _ => close p.stack
    | _ => none
  | _, _ => none
where
  close : List Frame → Option Progress
    | [] => none
    | frame :: rest => some (finish frame.value rest)

/-- The tree of a list of tokens that write exactly one value. -/
def ofTokens? (limit : Option Nat) (tokens : List Token) : Option Source :=
  match tokens.foldlM (Progress.step? limit) ⟨[], .value⟩ with
  | some ⟨_, .nothing result⟩ => some result
  | _ => none

/-- The tree of a JSON text. -/
def source? (limit : Option Nat) (text : String) : Option Source :=
  (tokens? text.toList).bind (ofTokens? limit)

/-- Containers in ordinary documents are nested at most this deep. -/
def nestingLimit : Nat := 127

/-- The value of a JSON text of ordinary depth. -/
def read? (text : String) : Option Json :=
  (source? (some nestingLimit) text).bind Source.toJson?

/-- The value of a JSON text of any depth. -/
def readDeep? (text : String) : Option Json :=
  (source? none text).bind Source.toJson?

end SpriteStage.Json
