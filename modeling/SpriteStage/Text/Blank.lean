namespace SpriteStage.Text

/-- The characters with the Unicode property White_Space, as inclusive ranges of code points. -/
def blankRanges : List (Nat × Nat) :=
  [(0x09, 0x0d), (0x20, 0x20), (0x85, 0x85), (0xa0, 0xa0), (0x1680, 0x1680), (0x2000, 0x200a),
    (0x2028, 0x2029), (0x202f, 0x202f), (0x205f, 0x205f), (0x3000, 0x3000)]

/-- The character has the Unicode property White_Space. -/
def isBlank (c : Char) : Bool :=
  blankRanges.any fun (low, high) => low ≤ c.toNat && c.toNat ≤ high

/-- The characters without the blanks at either end. -/
def trim (cs : List Char) : List Char :=
  ((cs.dropWhile isBlank).reverse.dropWhile isBlank).reverse

/-- The text with the letters A to Z in lower case; every other character stays. -/
def foldCase (s : String) : String :=
  String.ofList (s.toList.map Char.toLower)

/-- What is blank in ASCII is blank. -/
theorem isBlank_of_isWhitespace {c : Char} (hspace : c.isWhitespace = true) : isBlank c = true := by
  simp only [Char.isWhitespace, Bool.or_eq_true, decide_eq_true_eq] at hspace
  rcases hspace with ((h | h) | h) | h <;> subst h <;> decide

end SpriteStage.Text
