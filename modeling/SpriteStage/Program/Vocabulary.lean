import SpriteStage.Json.Basic

namespace SpriteStage

/-- What a kind of blocks is for. -/
inductive Category where
  | event
  | motion
  | looks
  | control
deriving DecidableEq, Repr

namespace Category

def all : List Category := [.event, .motion, .looks, .control]

def label : Category → String
  | .event => "Event"
  | .motion => "Motion"
  | .looks => "Looks"
  | .control => "Control"

/-- The name of the category in documents. -/
def key : Category → String
  | .event => "event"
  | .motion => "motion"
  | .looks => "looks"
  | .control => "control"

def colour : Category → String
  | .event => "#ffbf00"
  | .motion => "#4d97fe"
  | .looks => "#9966ff"
  | .control => "#ffab19"

end Category

/-- What a field holds, with the value it starts from in the editor. -/
inductive FieldContent where
  | number (default : Float) (min max : Option Float)
  | text (default : String)
  /-- An icon without a value; it never appears among the fields of a block. -/
  | image (path : String)

/-- A field of a kind of blocks. The interpreter reads the fields that are named here, and the
    linter checks programs against them. -/
structure FieldSpec where
  name : String
  content : FieldContent

namespace FieldSpec

def number (name : String) (default : Float) : FieldSpec :=
  ⟨name, .number default none none⟩

def atLeast (name : String) (default min : Float) : FieldSpec :=
  ⟨name, .number default (some min) none⟩

def angle (name : String) : FieldSpec :=
  ⟨name, .number 15 (some 0) (some 360)⟩

def text (name default : String) : FieldSpec :=
  ⟨name, .text default⟩

def image (path : String) : FieldSpec :=
  ⟨"", .image path⟩

/-- Whether the field names a value that blocks carry. -/
def carriesValue (spec : FieldSpec) : Bool :=
  match spec.content with
  | .image _ => false
  | _ => true

/-- The name of the kind of field in documents. -/
def kind (spec : FieldSpec) : String :=
  match spec.content with
  | .number _ _ _ => "number"
  | .text _ => "text"
  | .image _ => "image_decoration"

def min? (spec : FieldSpec) : Option Float :=
  match spec.content with
  | .number _ min _ => min
  | _ => none

def max? (spec : FieldSpec) : Option Float :=
  match spec.content with
  | .number _ _ max => max
  | _ => none

def isNumber (spec : FieldSpec) : Bool :=
  match spec.content with
  | .number _ _ _ => true
  | _ => false

end FieldSpec

/-- The kinds of blocks that the editor offers. -/
inductive BlockKind where
  | whenFlagClicked
  | move
  | clockwise
  | anticlockwise
  | goTo
  | goToRandom
  | glide
  | pointTowards
  | changeXBy
  | setX
  | changeYBy
  | setY
  | sayForSeconds
  | say
  | thinkForSeconds
  | think
  | changeSize
  | wait
  | repeatAbove
deriving DecidableEq, Repr

/-- The target that stands for the pointer in a block that turns towards it. -/
def mousePointer : String := "MOUSE_POINTER"

namespace BlockKind

def all : List BlockKind :=
  [.whenFlagClicked, .move, .clockwise, .anticlockwise, .goTo, .goToRandom, .glide, .pointTowards,
    .changeXBy, .setX, .changeYBy, .setY, .sayForSeconds, .say, .thinkForSeconds, .think,
    .changeSize, .wait, .repeatAbove]

def typeId : BlockKind → String
  | whenFlagClicked => "when_flag_clicked"
  | move => "move"
  | clockwise => "clockwise"
  | anticlockwise => "anticlockwise"
  | goTo => "go_to"
  | goToRandom => "go_to_random"
  | glide => "glide"
  | pointTowards => "point_towards"
  | changeXBy => "change_x_by"
  | setX => "set_x"
  | changeYBy => "change_y_by"
  | setY => "set_y"
  | sayForSeconds => "say_for_seconds"
  | say => "say"
  | thinkForSeconds => "think_for_seconds"
  | think => "think"
  | changeSize => "change_size"
  | wait => "wait"
  | repeatAbove => "repeat"

/-- The kind with a type id. -/
def ofTypeId? (typeId : String) : Option BlockKind :=
  all.find? fun kind => kind.typeId = typeId

def category : BlockKind → Category
  | whenFlagClicked => .event
  | sayForSeconds | say | thinkForSeconds | think | changeSize => .looks
  | wait | repeatAbove => .control
  | _ => .motion

/-- The text on the block, with a place for every field. -/
def template : BlockKind → String
  | whenFlagClicked => "when %1 clicked"
  | move => "move %1 steps"
  | clockwise => "turn %1 %2 degrees"
  | anticlockwise => "turn %1 %2 degrees"
  | goTo => "go to x: %1 y: %2"
  | goToRandom => "go to random position"
  | glide => "glide %1 secs to x: %2 y: %3"
  | pointTowards => "point towards %1"
  | changeXBy => "change x by %1"
  | setX => "set x to %1"
  | changeYBy => "change y by %1"
  | setY => "set y to %1"
  | sayForSeconds => "say %1 for %2 seconds"
  | say => "say %1"
  | thinkForSeconds => "think %1 for %2 seconds"
  | think => "think %1"
  | changeSize => "change size by %1"
  | wait => "wait %1 secs"
  | repeatAbove => "repeat above block %1 times."

def fields : BlockKind → List FieldSpec
  | whenFlagClicked => [.image "/play.svg"]
  | move => [.number "x_position" 20]
  | clockwise => [.image "/rotate-right.svg", .angle "angle"]
  | anticlockwise => [.image "/rotate-left.svg", .angle "angle"]
  | goTo => [.number "x_position" 0, .number "y_position" 0]
  | goToRandom => []
  | glide => [.atLeast "seconds" 1 0, .number "x_position" 0, .number "y_position" 0]
  | pointTowards => [.text "target" mousePointer]
  | changeXBy => [.number "delta_x" 10]
  | setX => [.number "x_position" 0]
  | changeYBy => [.number "delta_y" 10]
  | setY => [.number "y_position" 0]
  | sayForSeconds => [.text "message" "Hello!", .atLeast "seconds" 2 0]
  | say => [.text "message" "Hello!"]
  | thinkForSeconds => [.text "message" "Hmm...", .atLeast "seconds" 2 0]
  | think => [.text "message" "Hmm..."]
  | changeSize => [.number "size" 10]
  | wait => [.atLeast "seconds" 1 0]
  | repeatAbove => [.atLeast "TIMES" 10 1]

/-- A block of this kind may follow another block; a hat only starts a chain. -/
def acceptsPrevious : BlockKind → Bool
  | whenFlagClicked => false
  | _ => true

/-- The fields whose values blocks of this kind carry. -/
def valueFields (kind : BlockKind) : List FieldSpec :=
  kind.fields.filter (·.carriesValue)

def field? (kind : BlockKind) (name : String) : Option FieldSpec :=
  kind.valueFields.find? fun spec => spec.name = name

/-- The kinds of one category in the order of the vocabulary. -/
def inCategory (category : Category) : List BlockKind :=
  all.filter fun kind => kind.category = category

end BlockKind

namespace FieldSpec

/-- The field as an entry of a document; an absent bound is left out. -/
def toJson (spec : FieldSpec) : Json :=
  let default : Json := match spec.content with
    | .number x _ _ => .double x
    | .text s => .str s
    | .image path => .str path
  let bound (name : String) (x : Option Float) : Entries Json :=
    (x.map fun x => (name, Json.double x)).toList
  .obj ([("name", .str spec.name), ("kind", .str spec.kind), ("default", default)]
    ++ bound "min" spec.min? ++ bound "max" spec.max?)

end FieldSpec

namespace BlockKind

def toJson (kind : BlockKind) : Json :=
  .obj [("type_id", .str kind.typeId), ("category", .str kind.category.key),
    ("template", .str kind.template), ("fields", .arr (kind.fields.map (·.toJson))),
    ("accepts_previous", .bool kind.acceptsPrevious)]

/-- The whole vocabulary as a document. -/
def vocabularyJson : Json :=
  .arr (all.map (·.toJson))

/-- No kind of block is missing from the list. -/
theorem mem_all (kind : BlockKind) : kind ∈ all := by
  cases kind <;> decide

/-- Kinds of blocks are told apart by their type ids. -/
theorem typeId_inj {a b : BlockKind} (htype : a.typeId = b.typeId) : a = b := by
  revert htype
  cases a <;> cases b <;> decide

/-- A kind is found under its own type id. -/
@[simp] theorem ofTypeId?_typeId (kind : BlockKind) : ofTypeId? kind.typeId = some kind := by
  cases kind <;> decide

/-- Only its own type id leads to a kind. -/
theorem typeId_of_ofTypeId? {typeId : String} {kind : BlockKind}
    (hkind : ofTypeId? typeId = some kind) : kind.typeId = typeId := by
  simpa using List.find?_some hkind

end BlockKind

end SpriteStage
