import EmulatedShell.Text.Quoted

namespace EmulatedShell

/-- The reasons for which a template cannot be filled in. -/
inductive TemplateFault where
  | loneClose
  | loneOpen
  | openInName
  | endInConversion
  | noColonAfterConversion
  | openSpec
  | unclosedField
  | nestedTooDeep
  | unknownName (name : String)
  | position (index : Nat)
  | numberTooLarge
  | noAccessAfterBracket
  | emptyAccess
  | unclosedBracket
  | noAttribute (name : String)
  | indexByName
  | indexOutOfRange
  | unknownConversion (conversion : Char)
  | missingPrecision
  | badSpec (spec : String)
  | bothGroupings
  | groupingWith (grouping kind : Char)
  | spaceSign
  | plusOrMinusSign
  | zeroSign
  | alternateForm
  | signAlignment
  | unknownKind (kind : Char)
  deriving Repr, DecidableEq

/-- A character between 33 and a bound as itself, any other by its code. -/
def shownCode (bound : Nat) (c : Char) : String :=
  if 32 < c.toNat && c.toNat < bound then String.singleton c
  else "\\x" ++ String.ofList (Nat.toDigits 16 c.toNat)

/-- The text that tells the reason. -/
def TemplateFault.message : TemplateFault → String
  | .loneClose => "Single '\x7d' encountered in format string"
  | .loneOpen => "Single '\x7b' encountered in format string"
  | .openInName => "unexpected '\x7b' in field name"
  | .endInConversion => "end of string while looking for conversion specifier"
  | .noColonAfterConversion => "expected ':' after conversion specifier"
  | .openSpec => "unmatched '\x7b' in format spec"
  | .unclosedField => "expected '\x7d' before end of string"
  | .nestedTooDeep => "Max string recursion exceeded"
  | .unknownName name => quoted name
  | .position index =>
    "Replacement index " ++ toString index ++ " out of range for positional args tuple"
  | .numberTooLarge => "Too many decimal digits in format string"
  | .noAccessAfterBracket => "Only '.' or '[' may follow ']' in format field specifier"
  | .emptyAccess => "Empty attribute in format string"
  | .unclosedBracket => "Missing ']' in format string"
  | .noAttribute name => "'str' object has no attribute '" ++ name ++ "'"
  | .indexByName => "string indices must be integers, not 'str'"
  | .indexOutOfRange => "string index out of range"
  | .unknownConversion c => "Unknown conversion specifier " ++ shownCode 127 c
  | .missingPrecision => "Format specifier missing precision"
  | .badSpec spec => "Invalid format specifier '" ++ spec ++ "' for object of type 'str'"
  | .bothGroupings => "Cannot specify both ',' and '_'."
  | .groupingWith grouping kind =>
    "Cannot specify '" ++ String.singleton grouping ++ "' with '" ++ shownCode 128 kind ++ "'."
  | .spaceSign => "Space not allowed in string format specifier"
  | .plusOrMinusSign => "Sign not allowed in string format specifier"
  | .zeroSign => "Negative zero coercion (z) not allowed in string format specifier"
  | .alternateForm => "Alternate form (#) not allowed in string format specifier"
  | .signAlignment => "'=' alignment not allowed in string format specifier"
  | .unknownKind kind =>
    "Unknown format code '" ++ shownCode 128 kind ++ "' for object of type 'str'"

end EmulatedShell
