import GrammarLayout.Text.Unprintable
import GrammarLayout.Text.GraphemeExtend

/-!
# Text in quotes for messages

A text shown in a message stands between double quotes. Quotes and backslashes in it are
escaped, and so is every character that would not show or would be drawn onto the one before it.
-/

namespace GrammarLayout.Text

def isUnprintable (c : Char) : Bool := unprintableRanges.contains c.toNat

def isGraphemeExtend (c : Char) : Bool := graphemeExtendRanges.contains c.toNat

/-- The two sound marks of halfwidth katakana. They extend a grapheme, but they are letters with
a cell of their own. -/
def isHalfwidthSoundMark (c : Char) : Bool := c == '\uff9e' || c == '\uff9f'

/-- A combining mark, which would be drawn onto the character before it. -/
def isCombining (c : Char) : Bool := isGraphemeExtend c && !isHalfwidthSoundMark c

/-- The code point in braces, in lower case hexadecimal digits without leading zeros. -/
def codePointEscape (c : Char) : List Char :=
  '\\' :: 'u' :: '{' :: (Nat.toDigits 16 c.toNat ++ ['}'])

/-- How one character is written between the quotes. -/
def quotedChar (c : Char) : List Char :=
  match c with
  | '\x00' => ['\\', '0']
  | '\t' => ['\\', 't']
  | '\n' => ['\\', 'n']
  | '\r' => ['\\', 'r']
  | '\\' => ['\\', '\\']
  | '"' => ['\\', '"']
  | c => if isCombining c || isUnprintable c then codePointEscape c else [c]

def quoted (text : String) : String :=
  String.ofList ('"' :: (text.toList.flatMap quotedChar ++ ['"']))

end GrammarLayout.Text
