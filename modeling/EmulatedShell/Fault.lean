import EmulatedShell.Text.Quoted

namespace EmulatedShell

/-- The reasons for which carrying out a command can break off. -/
inductive Fault where
  /-- The brackets around a host do not pair up. -/
  | unpairedBracket
  /-- A host in brackets is no address. -/
  | notAnAddress (host : String)
  /-- A host in brackets is an address of four numbers. -/
  | plainAddressInBrackets
  /-- A host in brackets announces an address of a later version and is none. -/
  | badFutureAddress
  /-- A character of a host stands for a delimiter. -/
  | hiddenDelimiter (host : String)
  /-- A character is no digit. -/
  | notADigit (text : String)
  /-- A repetition count is beyond what a search pattern can hold. -/
  | repetitionTooLarge
  /-- A number has more digits than are read. -/
  | tooManyDigits (count : Nat)
  /-- A number has more digits than are written. -/
  | tooManyToWrite
  /-- A whole number is too large to be taken for one with a fraction. -/
  | numberTooLarge
  /-- A search pattern asks for two alphabets at once. -/
  | twoAlphabets
  /-- A moment lies too close to the start of the calendar. -/
  | beforeCalendar
  /-- A table has no entry under a key. -/
  | missingKey (key : String)
  /-- A reason of a command that was added to the table, of a kind and with a text of its own. -/
  | custom (kind message : String)
  deriving Repr, DecidableEq

/-- The text that tells the reason. -/
def Fault.message : Fault → String
  | .unpairedBracket => "Invalid IPv6 URL"
  | .notAnAddress host => quoted host ++ " does not appear to be an IPv4 or IPv6 address"
  | .plainAddressInBrackets => "An IPv4 address cannot be in brackets"
  | .badFutureAddress => "IPvFuture address is invalid"
  | .hiddenDelimiter host =>
    "netloc '" ++ host ++ "' contains invalid characters under NFKC normalization"
  | .notADigit text => "invalid literal for int() with base 10: " ++ quoted text
  | .repetitionTooLarge => "the repetition number is too large"
  | .tooManyDigits count =>
    "Exceeds the limit (4300 digits) for integer string conversion: value has " ++
      toString count ++ " digits; use sys.set_int_max_str_digits() to increase the limit"
  | .tooManyToWrite =>
    "Exceeds the limit (4300 digits) for integer string conversion; use " ++
      "sys.set_int_max_str_digits() to increase the limit"
  | .numberTooLarge => "int too large to convert to float"
  | .twoAlphabets => "ASCII and UNICODE flags are incompatible"
  | .beforeCalendar => "year 0 is out of range"
  | .missingKey key => quoted key
  | .custom _ message => message

end EmulatedShell
