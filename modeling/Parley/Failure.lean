import Parley.Json.Reader
import Parley.Schema.Issue
import Parley.Text.Quoted

/-!
Why an operation fails.

Each constructor is one cause; `Failure.message` gives its wording.
-/

namespace Parley

open Schema Text

/-- The name of the kind of a JSON value. -/
def Json.kindName : Json → String
  | .null => "NoneType"
  | .bool _ => "bool"
  | .int _ => "int"
  | .float _ => "float"
  | .str _ => "str"
  | .arr _ => "list"
  | .obj _ => "dict"

/-- What is wrong with an address. -/
inductive AddressFault where
  | tooLong
  | unprintable (c : Char) (position : Nat)
  | badPort (text : String)
  /-- Four numbers are no address of a host. -/
  | badFourOctets (text : String)
  /-- What stands in brackets is no address of a host. -/
  | badLongAddress (text : String)
  | badHostName (text : String)
  /-- A host is followed by a path without a slash. -/
  | pathWithoutSlash
  | twoSlashes
  | leadingColon
  deriving DecidableEq, Repr

/-- The wording of what is wrong with an address. -/
def AddressFault.message : AddressFault → String
  | tooLong => "URL too long"
  | unprintable c position => "Invalid non-printable ASCII character in URL, "
      ++ quoted (String.ofList [c]) ++ " at position " ++ natText position ++ "."
  | badPort text => "Invalid port: " ++ quoted text
  | badFourOctets text => "Invalid IPv4 address: " ++ quoted text
  | badLongAddress text => "Invalid IPv6 address: " ++ quoted text
  | badHostName text => "Invalid IDNA hostname: " ++ quoted text
  | pathWithoutSlash => "For absolute URLs, path must be empty or begin with '/'"
  | twoSlashes => "Relative URLs cannot have a path starting with '//'"
  | leadingColon => "Relative URLs cannot have a path starting with ':'"

/-- The cause of a failure. -/
inductive Failure where
  /-- A value does not have the shape it is read as. -/
  | rejected (issues : List Issue)
  /-- A stored conversation is not at the version that was expected; without a version it is not
  stored at all. -/
  | conflict (id : String) (expected : Int) (found : Option Int)
  /-- A text is not JSON. -/
  | badJson (fault : Json.FaultAt)
  /-- A whole number has more digits than are read. -/
  | tooManyDigits (digits : Nat)
  /-- A text is not a whole number. -/
  | badWholeText (text : String)
  /-- A value is neither a number nor a text. -/
  | notWhole (kind : String)
  /-- An undefined number is taken as a whole one. -/
  | undefinedWhole
  /-- An infinite number is taken as a whole one. -/
  | infiniteWhole
  /-- A row has no such column. -/
  | missingColumn (name : String)
  /-- A value has no items to go through. -/
  | notIterable (kind : String)
  /-- A value cannot be counted up. -/
  | notCounted (kind : String)
  /-- A value has no letters to make small. -/
  | noLetters (kind : String)
  /-- A clock time lacks its minutes. -/
  | missingMinutes
  /-- A text is no date. -/
  | badDate (text : String)
  | yearOutOfRange (year : Nat)
  | monthOutOfRange
  | dayOutOfRange
  | hourOutOfRange
  | minuteOutOfRange
  /-- A part of a clock time does not fit into 32 bits. -/
  | clockTooLarge
  | clockTooSmall
  /-- A part of a clock time does not fit into 64 bits. -/
  | clockTooWide
  /-- There is no such moment in the calendar. -/
  | momentOutOfRange
  /-- Two values of these kinds have no order. -/
  | unordered (left right : String)
  /-- A pattern repeats a part too often. -/
  | repetitionTooLarge
  /-- A pattern asks for two alphabets. -/
  | mixedAlphabets
  /-- A node is no object. -/
  | nodeNotObject (kind : String)
  /-- A history entry tells of something unknown. -/
  | unknownAction (shown : String)
  /-- An address cannot be called. -/
  | badAddress (fault : AddressFault)
  /-- A reply came from an address that does not say where it is. -/
  | noPlace (address : String)
  /-- A header holds characters outside ASCII: the first ones and where they stand. -/
  | badHeader (first : Char) (position : Nat) (count : Nat)
  /-- A number without a text in JSON is sent. -/
  | notFinite
  /-- A failure of the surroundings, in their own words. -/
  | raised (message : String)
  deriving DecidableEq, Repr

namespace Failure

/-- A character by its code point. -/
def escaped (c : Char) : String :=
  let n := c.toNat
  String.ofList (if n < 0x100 then '\\' :: 'x' :: hexDigits 2 n
    else if n < 0x10000 then '\\' :: 'u' :: hexDigits 4 n
    else '\\' :: 'U' :: hexDigits 8 n)

/-- The wording of a failure. Rejected values are told by their issues and have none. -/
def message : Failure → String
  | rejected _ => ""
  | conflict id expected found =>
    "Instance " ++ id ++ " version conflict: expected " ++ intText expected ++ ", found "
      ++ (match found with
        | some n => intText n
        | none => "None")
  | badJson fault => fault.message
  | tooManyDigits digits => (Json.Unreadable.tooManyDigits digits).message
  | badWholeText text => "invalid literal for int() with base 10: " ++ quoted text
  | notWhole kind =>
    "int() argument must be a string, a bytes-like object or a real number, not '" ++ kind ++ "'"
  | undefinedWhole => "cannot convert float NaN to integer"
  | infiniteWhole => "cannot convert float infinity to integer"
  | missingColumn name => quoted name
  | notIterable kind => "'" ++ kind ++ "' object is not iterable"
  | notCounted kind =>
    if kind = "dict" then "unsupported operand type(s) for +: 'dict' and 'int'"
    else "can only concatenate " ++ kind ++ " (not \"int\") to " ++ kind
  | noLetters kind => "'" ++ kind ++ "' object has no attribute 'lower'"
  | missingMinutes => "not enough values to unpack (expected 2, got 1)"
  | badDate text => "Invalid isoformat string: " ++ quoted text
  | yearOutOfRange year => "year " ++ natText year ++ " is out of range"
  | monthOutOfRange => "month must be in 1..12"
  | dayOutOfRange => "day is out of range for month"
  | hourOutOfRange => "hour must be in 0..23"
  | minuteOutOfRange => "minute must be in 0..59"
  | clockTooLarge => "signed integer is greater than maximum"
  | clockTooSmall => "signed integer is less than minimum"
  | clockTooWide => "Python int too large to convert to C long"
  | momentOutOfRange => "date value out of range"
  | unordered left right =>
    "'<=' not supported between instances of '" ++ left ++ "' and '" ++ right ++ "'"
  | repetitionTooLarge => "the repetition number is too large"
  | mixedAlphabets => "ASCII and UNICODE flags are incompatible"
  | nodeNotObject kind => "Node must be an object, got " ++ kind
  | unknownAction shown => shown ++ " is not a valid HistoryAction"
  | badAddress fault => fault.message
  | noPlace address => "unknown url type: " ++ quoted address
  | badHeader first position count =>
    if count = 1 then
      "'ascii' codec can't encode character '" ++ escaped first ++ "' in position "
        ++ natText position ++ ": ordinal not in range(128)"
    else
      "'ascii' codec can't encode characters in position " ++ natText position ++ "-"
        ++ natText (position + count - 1) ++ ": ordinal not in range(128)"
  | notFinite => "Out of range float values are not JSON compliant"
  | raised message => message

/-- A text that could not be read as JSON. -/
def ofUnreadable : Json.Unreadable → Failure
  | .fault f => badJson f
  | .tooManyDigits digits => tooManyDigits digits

end Failure

end Parley
