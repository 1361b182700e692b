import EmulatedShell.Text.Pad
import EmulatedShell.Unicode.Printable

namespace EmulatedShell

/-- A number in small hexadecimal digits, filled up with zeros to a width. -/
def hexPadded (width n : Nat) : String := padZeros width (String.ofList (Nat.toDigits 16 n))

/-- One character inside quotes: the quote itself, the backslash and what does not pass as shown are
escaped. -/
def escapeChar (shown : Char → Bool) (quote c : Char) : String :=
  if c = quote || c = '\\' then String.ofList ['\\', c]
  else if c = '\n' then "\\n"
  else if c = '\r' then "\\r"
  else if c = '\t' then "\\t"
  else if shown c then String.singleton c
  else if c.toNat < 0x100 then "\\x" ++ hexPadded 2 c.toNat
  else if c.toNat < 0x10000 then "\\u" ++ hexPadded 4 c.toNat
  else "\\U" ++ hexPadded 8 c.toNat

/-- The quote that stands around a text: double only when the text holds single quotes and no
double ones. -/
def quoteFor (text : List Char) : Char :=
  if text.contains '\'' && !text.contains '"' then '"' else '\''

/-- A text in quotes, on one line, with an escape for every character that does not pass as
shown. -/
def quotedBy (shown : Char → Bool) (text : String) : String :=
  let quote := quoteFor text.toList
  String.singleton quote ++ String.join (text.toList.map (escapeChar shown quote)) ++
    String.singleton quote

/-- A text in quotes, on one line and with every character visible. -/
def quoted (text : String) : String := quotedBy isPrintable text

/-- A text in quotes, in ASCII alone. -/
def quotedAscii (text : String) : String :=
  quotedBy (fun c => isPrintable c && c.toNat < 128) text

end EmulatedShell
