namespace SpriteStage

/-- A JSON value. The integers in use are those from `-2 ^ 63` below `2 ^ 64`; every double is
    finite. -/
inductive Json where
  | null
  | bool (value : Bool)
  | int (value : Int)
  | double (value : Float)
  | str (value : String)
  | arr (items : List Json)
  | obj (entries : List (String × Json))
deriving Inhabited

/-- Ordered entries with string keys, as in an object. -/
abbrev Entries (β : Type) := List (String × β)

namespace Entries

variable {β : Type}

/-- The entries with the value of a key replaced, or with the key added at the end. -/
def put (key : String) (value : β) : Entries β → Entries β
  | [] => [(key, value)]
  | (k, v) :: rest => if k = key then (k, value) :: rest else (k, v) :: put key value rest

/-- The entries after putting each of `added` in order. -/
def merge (entries added : Entries β) : Entries β :=
  added.foldl (fun result (key, value) => put key value result) entries

/-- The entries with every key once, in the place of its first mention and with the value of its
    last. -/
def distinct (entries : Entries β) : Entries β :=
  merge [] entries

def get? (entries : Entries β) (key : String) : Option β :=
  entries.lookup key

/-- What is found under a key is smaller than the entries it was found in. -/
theorem sizeOf_get?_lt [SizeOf β] {entries : Entries β} {key : String} {value : β}
    (hget : entries.get? key = some value) : sizeOf value < sizeOf entries := by
  induction entries with
  | nil => simp [get?] at hget
  | cons entry rest ih =>
    obtain ⟨k, v⟩ := entry
    simp only [get?, List.lookup_cons] at hget
    split at hget
    · cases hget
      simp only [List.cons.sizeOf_spec, Prod.mk.sizeOf_spec]
      omega
    · have hrest := ih hget
      simp only [List.cons.sizeOf_spec]
      omega

end Entries

namespace Json

/-- The entries of an object. -/
def entries? : Json → Option (Entries Json)
  | .obj entries => some entries
  | _ => none

def items? : Json → Option (List Json)
  | .arr items => some items
  | _ => none

def text? : Json → Option String
  | .str s => some s
  | _ => none

def isObject (j : Json) : Bool := j.entries?.isSome

def isArray (j : Json) : Bool := j.items?.isSome

/-- The value under a key of an object; nothing else has keys. -/
def get? (j : Json) (key : String) : Option Json :=
  j.entries?.bind (·.get? key)

/-- The entries of an object are smaller than the object. -/
theorem sizeOf_entries?_lt {j : Json} {entries : Entries Json} (hentries : j.entries? = some entries) :
    sizeOf entries < sizeOf j := by
  cases j <;> simp [entries?] at hentries
  subst hentries
  simp

/-- What an object holds under a key is smaller than the object, so readers may recurse on it. -/
theorem sizeOf_get?_lt {j value : Json} {key : String} (hget : j.get? key = some value) :
    sizeOf value < sizeOf j := by
  obtain ⟨entries, hentries, hvalue⟩ := Option.bind_eq_some_iff.1 hget
  exact Nat.lt_trans (Entries.sizeOf_get?_lt hvalue) (sizeOf_entries?_lt hentries)

def isNumber : Json → Bool
  | .int _ => true
  | .double _ => true
  | _ => false

end Json

end SpriteStage
