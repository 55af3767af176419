import SectorStore.Text.DefaultIgnorable
import SectorStore.Text.GraphemeExtend
import SectorStore.Text.Unprintable

/-!
# Quoted texts

In a message a text stands between quotation marks. Characters that would not show as themselves
there are escaped: some by a letter, all others by their code point in hexadecimal digits.
-/

namespace SectorStore.Quoted

/-- A character written by its code point. -/
def codePoint (c : Char) : List Char :=
  '\\' :: 'u' :: '\x7b' :: (Nat.toDigits 16 c.toNat ++ ['\x7d'])

/-- The letter that stands behind a backslash for a character, where there is one. -/
def escapeLetter? (c : Char) : Option Char :=
  match c with
  | '\x00' => some '0'
  | '\t' => some 't'
  | '\n' => some 'n'
  | '\r' => some 'r'
  | '\\' => some '\\'
  | '"' => some '"'
  | _ => none

/-- Whether a character is a halfwidth sound mark. It belongs to the kana in front of it, but is
shown in a place of its own. -/
def isHalfwidthSoundMark (c : Char) : Bool :=
  c = '\uff9e' || c = '\uff9f'

/-- Whether a character is shown, and in a place of its own. -/
def isShownAlone (c : Char) : Bool :=
  !(isUnprintable c || isDefaultIgnorable c || isGraphemeExtend c && !isHalfwidthSoundMark c)

/-- The form in which a character stands in a quoted text. -/
def encodeChar (c : Char) : List Char :=
  match escapeLetter? c with
  | some letter => ['\\', letter]
  | none => if isShownAlone c then [c] else codePoint c

/-- A text between quotation marks. -/
def encode (text : String) : String :=
  .ofList ('"' :: (text.toList.flatMap encodeChar ++ ['"']))

end SectorStore.Quoted
