/-
# Names as words

A name is split into lower-case words, which can be joined again in one of several styles.  Words
are divided by characters that belong to no word, and by changes of class inside a run of word
characters: before a capital that follows a small letter, before the last capital of a run of
capitals, and between letters and digits.
-/
import Gls.Text.Letter

namespace Gls.Casing

/-- How words are joined. -/
inductive Style where
  /-- `fooBar` -/
  | camel
  /-- `FooBar` -/
  | pascal
  /-- `foo_bar` -/
  | snake
  /-- `FOO_BAR` -/
  | upperSnake
  /-- `foo-bar` -/
  | kebab
  /-- `foo bar` -/
  | spaceLower
deriving DecidableEq

/-- What a character is to the splitter. -/
inductive CharClass where
  | lower
  | upper
  | digit
  | separator
deriving DecidableEq

/-- The class of a character.  A letter without case, and a digit that is not ASCII, counts as a
small letter. -/
def classify (c : Char) : CharClass :=
  if Text.isUpper c then .upper
  else if Text.isLower c then .lower
  else if c.isDigit then .digit
  else if Text.isAlphanumeric c then .lower
  else .separator

/-! ### Splitting -/

/-- A new word begins between two characters of the given classes; the class of the character
after them decides inside a run of capitals. -/
def startsWord (prev cur : CharClass) (next : Option CharClass) : Bool :=
  match prev, cur with
  | .lower, .upper => true
  | .upper, .upper => next == some .lower
  | .digit, .lower => true
  | .digit, .upper => true
  | .lower, .digit => true
  | .upper, .digit => true
  | _, _ => false

/-- A word as a list of one, or nothing when it is empty. -/
def wordOf (word : List Char) : List (List Char) := if word.isEmpty then [] else [word]

/-- The words of the given characters, when `prev` is the class of the character before them and
`word` is what the current word holds so far. -/
def splitFrom : Option CharClass → List Char → List Char → List (List Char)
  | _, word, [] => wordOf word
  | prev, word, c :: cs =>
    match classify c, prev with
    | .separator, _ => wordOf word ++ splitFrom (some .separator) [] cs
    | cur, none => splitFrom (some cur) (word ++ Text.toLower c) cs
    | cur, some p =>
      if startsWord p cur (cs.head?.map classify) then
        wordOf word ++ splitFrom (some cur) (Text.toLower c) cs
      else splitFrom (some cur) (word ++ Text.toLower c) cs

/-- The lower-case words of a name. -/
def split (name : String) : List String := (splitFrom none [] name.toList).map String.ofList

/-! ### Joining -/

/-- The word with its first character in upper case. -/
def capitalize (word : String) : String :=
  match word.toList with
  | c :: cs => String.ofList (Text.toUpper c ++ cs)
  | [] => ""

/-- The text with every character in upper case. -/
def upperCase (text : String) : String := String.ofList (text.toList.flatMap Text.toUpper)

/-- The text with every character in lower case. -/
def lowerCase (text : String) : String := String.ofList (text.toList.flatMap Text.toLower)

/-- Joins lower-case words in a style. -/
def join (words : List String) : Style → String
  | .camel =>
    match words with
    | [] => ""
    | w :: ws => String.join (w :: ws.map capitalize)
  | .pascal => String.join (words.map capitalize)
  | .snake => String.intercalate "_" words
  | .upperSnake => upperCase (String.intercalate "_" words)
  | .kebab => String.intercalate "-" words
  | .spaceLower => String.intercalate " " words

/-- A name in a style. -/
def convert (name : String) (style : Style) : String := join (split name) style

/-- The words of a name, for a reader. -/
def words (name : String) : String := convert name .spaceLower

end Gls.Casing
