import Chip8Console.Text.Faceless
import Chip8Console.Text.Hex

/-!
# Quoted characters

The form in which a message shows a single character: between single quotes,
with everything that would be invisible or misleading spelled out.

* The null, tab, newline and carriage return characters have a letter of their
  own after a backslash.
* The backslash and the single quote get a backslash.  The double quote does
  not, since it cannot be taken for the closing quote.
* Any other character without a picture is written by its number.
* Everything else stands for itself.
-/

namespace Chip8Console

/-- The backslash. -/
def backslash : Char := '\x5c'

/-- The single quote. -/
def singleQuote : Char := '\x27'

/-- The text that stands for a character between single quotes. -/
def quotedBody (c : Char) : String :=
  if c = '\x00' then "\\0"
  else if c = '\t' then "\\t"
  else if c = '\n' then "\\n"
  else if c = '\r' then "\\r"
  else if c = backslash || c = singleQuote then String.ofList [backslash, c]
  else if isFaceless c then "\\u\x7b" ++ Hex.shortest c.toNat ++ "\x7d"
  else String.singleton c

/-- A character between single quotes. -/
def quoted (c : Char) : String :=
  String.singleton singleQuote ++ quotedBody c ++ String.singleton singleQuote

end Chip8Console
