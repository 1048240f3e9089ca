import ModuleBindings.Text.Grapheme
import ModuleBindings.Text.LetterCase

/-!
# Words of a name and Pascal case

A name is cut into words at `_`, `-` and blanks, which are dropped, and where its letter case
or a digit shows that a new word begins. In Pascal case every word is capitalised and the words
are joined without a separator.
-/

namespace ModuleBindings.Text

namespace Grapheme

def isUpper (g : Grapheme) : Bool :=
  upperChars g != lowerChars g && g == upperChars g

def isLower (g : Grapheme) : Bool :=
  upperChars g != lowerChars g && g == lowerChars g

def isDigit (g : Grapheme) : Bool :=
  g.all Char.isDigit

/-- The graphemes that separate words and belong to none. -/
def isDelimiter (g : Grapheme) : Bool :=
  g == ['_'] || g == ['-'] || g == [' ']

end Grapheme

/-- Whether a word ends after `g`, which is followed by `rest`: before a capital after a small
letter, between a letter and a digit, and before the last capital of several if a small letter
follows it. -/
def endsWord (g : Grapheme) (rest : List Grapheme) : Bool :=
  match rest with
  | [] => false
  | h :: more =>
    (g.isLower && h.isUpper)
      || (g.isUpper && h.isUpper && more.head?.any Grapheme.isLower)
      || ((g.isUpper || g.isLower) && h.isDigit)
      || (g.isDigit && (h.isUpper || h.isLower))

/-- A word with its graphemes in order; a word of none is no word. -/
def closeWord (begun : List Grapheme) : List (List Grapheme) :=
  if begun.isEmpty then [] else [begun.reverse]

/-- The words of `gs` when `begun` is the word begun before it, last grapheme first. -/
def wordsAfter (begun : List Grapheme) : List Grapheme → List (List Grapheme)
  | [] => closeWord begun
  | g :: gs =>
    if g.isDelimiter then closeWord begun ++ wordsAfter [] gs
    else if endsWord g gs then closeWord (g :: begun) ++ wordsAfter [] gs
    else wordsAfter (g :: begun) gs

def words (cs : List Char) : List (List Grapheme) :=
  wordsAfter [] (graphemes cs)

def capitalize : List Grapheme → List Char
  | [] => []
  | g :: gs => upperChars g ++ lowerChars gs.flatten

/-- Pascal case: `my_queue` becomes `MyQueue`. -/
def pascal (name : String) : String :=
  String.ofList ((words name.toList).flatMap capitalize)

end ModuleBindings.Text
