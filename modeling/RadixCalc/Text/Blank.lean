import RadixCalc.Text.CodePoint

/-!
Blank characters, and cutting text at them. Blank is wider here than the four
characters that expressions may be spaced with: lines typed at the console and
arguments of the command line are trimmed of every blank in the table.
-/

namespace RadixCalc.Text

/-- The white space characters, together with the four separators U+001C to U+001F. -/
def blankRanges : CodePointRanges :=
  [(0x9, 0xd), (0x1c, 0x20), (0x85, 0x85), (0xa0, 0xa0), (0x1680, 0x1680), (0x2000, 0x200a),
    (0x2028, 0x2029), (0x202f, 0x202f), (0x205f, 0x205f), (0x3000, 0x3000)]

def isBlank (char : Char) : Bool :=
  blankRanges.has char

def trimStart (text : List Char) : List Char :=
  text.dropWhile isBlank

def trimEnd (text : List Char) : List Char :=
  (text.reverse.dropWhile isBlank).reverse

/-- Text without the blanks at either end. -/
def trim (text : List Char) : List Char :=
  trimEnd (trimStart text)

/-- `trim` on whole strings. -/
def trimmed (text : String) : String :=
  String.ofList (trim text.toList)

/-- Collects words; `current` holds the letters of an unfinished word, the last one first. -/
def wordsFrom (current : List Char) : List Char → List (List Char)
  | [] => if current.isEmpty then [] else [current.reverse]
  | char :: rest =>
      if isBlank char then
        if current.isEmpty then wordsFrom [] rest else current.reverse :: wordsFrom [] rest
      else wordsFrom (char :: current) rest

/-- The maximal runs of characters that are not blank. -/
def words (text : List Char) : List (List Char) :=
  wordsFrom [] text

end RadixCalc.Text
