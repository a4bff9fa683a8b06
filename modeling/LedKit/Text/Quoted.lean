import LedKit.Text.Decimal
import LedKit.Text.GraphemeExtend
import LedKit.Text.Unprintable

/-!
# Quoted texts

A text is quoted between double quotes. Quotes, backslashes and the usual control characters get
a short escape, single quotes do not; what cannot be seen on its own is written as its code point.
-/

namespace LedKit.Text

/-- The fillers of the Korean script: letters that only hold a place. -/
def isFiller (character : Char) : Bool :=
  character ∈ ['\u115f', '\u1160', '\u3164', '\uffa0']

/-- The halfwidth sound marks, which extend the letter before them but have a picture of their
own. -/
def isHalfwidthMark (character : Char) : Bool := character ∈ ['\uff9e', '\uff9f']

/-- A character that cannot be seen on its own. -/
def isHidden (character : Char) : Bool :=
  isUnprintable character || isFiller character ||
    isGraphemeExtend character && !isHalfwidthMark character

/-- The written form of one character inside a quoted text. -/
def quotedChar (character : Char) : String :=
  match character with
  | '\x00' => "\\0"
  | '\t' => "\\t"
  | '\r' => "\\r"
  | '\n' => "\\n"
  | '"' => "\\\""
  | '\\' => "\\\\"
  | _ =>
    if isHidden character then
      "\\u\x7b" ++ hexadecimal 1 character.toNat ++ "\x7d"
    else
      character.toString

/-- The text between double quotes, each character in its written form. -/
def quoted (text : String) : String :=
  "\"" ++ String.join (text.toList.map quotedChar) ++ "\""

example : quotedChar '\'' = "'" := by decide +kernel
example : isHidden '\u3164' = true := by decide +kernel
example : isHidden '\uff9e' = false := by decide +kernel
example : quotedChar '\u200b' = "\\u\x7b200b\x7d" := by decide +kernel

end LedKit.Text
