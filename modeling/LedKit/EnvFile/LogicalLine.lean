import LedKit.Text.Blank
import LedKit.Text.Lines

/-!
# Logical lines

A file of settings is read line by line, but a line goes on over its end while a quote is open,
after a backslash, and while the last character was a blank. A number sign after a blank starts a
comment, and so does one at the beginning of a line; a comment ends the logical line.
-/

namespace LedKit.EnvFile

open LedKit.Text

/-- What the characters so far leave open. -/
inductive Scan where
  | plain
  | afterBlank
  | afterBackslash
  | inStrong
  | inStrongBackslash
  | inWeak
  | inWeakBackslash
  deriving DecidableEq

namespace Scan

/-- What a character opens outside of quotes and escapes. -/
def opening (character : Char) : Scan :=
  if character = '\\' then afterBackslash
  else if character = '"' then inWeak
  else if character = '\'' then inStrong
  else plain

/-- What is open after one more character. -/
def next (scan : Scan) (character : Char) : Scan :=
  match scan with
  | plain =>
    if isBlank character && character != '\n' && character != '\r' then afterBlank
    else opening character
  | afterBlank => opening character
  | afterBackslash => plain
  | inStrong =>
    if character = '\\' then inStrongBackslash else if character = '\'' then plain else inStrong
  | inStrongBackslash => inStrong
  | inWeak =>
    if character = '\\' then inWeakBackslash else if character = '"' then plain else inWeak
  | inWeakBackslash => inWeak

/-- Scan a physical line. The result is the part before a comment, and what is open at the end of
the line if no comment ended it. -/
def line (scan : Scan) : List Char → List Char × Option Scan
  | [] => ([], some scan)
  | character :: rest =>
    if scan = afterBlank ∧ character = '#' then
      ([], none)
    else
      let (kept, final) := (scan.next character).line rest
      (character :: kept, final)

end Scan

/-- The text begins, after blanks, with a number sign. -/
def startsComment (text : List Char) : Bool := (trimStart text).head? == some '#'

/-- A line of settings, or the text that the end of the file left open. -/
inductive LogicalLine where
  | complete (text : List Char)
  | unfinished (text : List Char)
  deriving DecidableEq

/-- Join physical lines after a text that was left open. -/
def joinAfter (buffer : List Char) (scan : Scan) : List (List Char) → List LogicalLine
  | [] => if scan = .plain then [] else [.unfinished buffer]
  | line :: rest =>
    let text := buffer ++ line
    if startsComment text then
      .complete [] :: joinAfter [] .plain rest
    else
      match scan.line line with
      | (kept, none) => .complete (buffer ++ kept) :: joinAfter [] .plain rest
      | (_, some .plain) => .complete (dropLineEnd text) :: joinAfter [] .plain rest
      | (_, some stillOpen) => joinAfter text stillOpen rest

/-- The logical lines of a text. -/
def logicalLines (text : List Char) : List LogicalLine := joinAfter [] .plain (physicalLines text)

end LedKit.EnvFile
