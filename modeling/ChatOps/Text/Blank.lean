/-!
# Blank characters

The characters of the Unicode property `White_Space`, trimming at both ends, and
the words between blanks.
-/

set_option autoImplicit false

namespace ChatOps.Text

/-- The ranges of code points with the property `White_Space`. -/
def blankRanges : List (Nat × Nat) :=
  [(0x9, 0xD), (0x20, 0x20), (0x85, 0x85), (0xA0, 0xA0), (0x1680, 0x1680),
    (0x2000, 0x200A), (0x2028, 0x2029), (0x202F, 0x202F), (0x205F, 0x205F),
    (0x3000, 0x3000)]

/-- Whether some range of the table holds a code point. -/
def inRanges (ranges : List (Nat × Nat)) (code : Nat) : Bool :=
  ranges.any fun range => Nat.ble range.1 code && Nat.ble code range.2

/-- Whether a character is white space. -/
def isBlank (c : Char) : Bool := inRanges blankRanges c.toNat

/-- Drop the blanks in front. -/
def trimStart (text : List Char) : List Char := text.dropWhile isBlank

/-- Drop the blanks at the end. -/
def trimEnd (text : List Char) : List Char := (trimStart text.reverse).reverse

/-- Drop the blanks at both ends. -/
def trim (text : List Char) : List Char := trimEnd (trimStart text)

/-- A string without the blanks at its ends. -/
def trimmed (text : String) : String := String.ofList (trim text.toList)

/-- The maximal runs of characters that are not blank, in order. -/
def words : List Char → List (List Char)
  | [] => []
  | c :: rest =>
      if isBlank c then words rest
      else
        match rest with
        | [] => [[c]]
        | next :: _ =>
            if isBlank next then [c] :: words rest
            else
              match words rest with
              | [] => [[c]]
              | word :: others => (c :: word) :: others

/-- The first word, or nothing when every character is blank. -/
def firstWord (text : List Char) : List Char :=
  (trimStart text).takeWhile fun c => !isBlank c

end ChatOps.Text
