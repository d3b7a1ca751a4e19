import Parley.Failure
import Parley.Http.HostName
import Parley.Number.Whole
import Parley.Text.Case
import Parley.Text.Search

/-!
Addresses and their normal form.

An address is taken apart at its delimiters: scheme, who calls, host, port, path, query and
fragment. Every character that a part does not admit is written as its bytes, a percent sign and two
digits each; what is written so already stays. The scheme and the host are in small letters, the
usual port of a scheme is left out, and the path has no dots to go up by.
-/

namespace Parley.Http

open Text Number

/-- An address. -/
structure Address where
  scheme : String := ""
  /-- Who calls, with a password after a colon. -/
  user : String := ""
  host : String := ""
  port : Option Int := none
  path : String := ""
  query : Option String := none
  fragment : Option String := none
  deriving DecidableEq, Repr

namespace Address

/-- Letters and digits, as far as they are in ASCII. -/
def isPlain (c : Char) : Bool := c.isAlphanum

/-- Whether a character may stand in any part. -/
def isUnreserved (c : Char) : Bool := isPlain c || "-._~".toList.contains c

/-- The marks that no part admits as they are. -/
def neverSafe : List Char := " \"<>".toList

/-- Whether a visible character of ASCII is none of some marks. -/
def isVisibleBut (marks : String) (c : Char) : Bool :=
  ' ' ≤ c && c ≤ '~' && !neverSafe.contains c && !marks.toList.contains c

/-- What the name of who calls admits. -/
def userSafe : Char → Bool := isVisibleBut "#?\x60\x7b\x7d/;=@[\\]^|"

/-- What a path admits. -/
def pathSafe : Char → Bool := isVisibleBut "#?\x60\x7b\x7d"

/-- What a query admits. -/
def querySafe : Char → Bool := isVisibleBut "#"

/-- What a fragment admits. -/
def fragmentSafe : Char → Bool := isVisibleBut "\x60"

/-- What the name of a host admits. -/
def hostSafe (c : Char) : Bool := "!$&'()*+,;=\"\x60\x7b\x7d%|\\".toList.contains c

/-- A byte as a percent sign and two digits. -/
def escapeByte (n : Nat) : List Char :=
  ['%', Nat.digitChar (n / 16), Nat.digitChar (n % 16)].map Char.toUpper

/-- A character as its bytes. -/
def escapeChar (c : Char) : List Char :=
  (String.utf8EncodeChar c).flatMap fun b => escapeByte b.toNat

/-- Whether a character is a hexadecimal digit. -/
def isHexDigit (c : Char) : Bool :=
  isAsciiDigit c || ('a' ≤ c && c ≤ 'f') || ('A' ≤ c && c ≤ 'F')

/-- Characters with those written as bytes that are not safe. -/
def escapeChars (safe : Char → Bool) : List Char → List Char
  | [] => []
  | '%' :: a :: b :: rest =>
    if isHexDigit a && isHexDigit b then '%' :: a :: b :: escapeChars safe rest
    else (if safe '%' then ['%'] else escapeChar '%') ++ escapeChars safe (a :: b :: rest)
  | c :: rest => (if isUnreserved c || safe c then [c] else escapeChar c) ++ escapeChars safe rest

/-- A text with those characters written as bytes that are not safe. -/
def escape (safe : Char → Bool) (s : String) : String := String.ofList (escapeChars safe s.toList)

/-- The value of a hexadecimal digit. -/
def hexValue (c : Char) : Nat :=
  if isAsciiDigit c then c.toNat - '0'.toNat else c.toLower.toNat - 'a'.toNat + 10

/-- The bytes of characters, where a percent sign and two digits stand for one. -/
def unescapedBytes : List Char → List UInt8
  | [] => []
  | '%' :: a :: b :: rest =>
    if isHexDigit a && isHexDigit b then
      UInt8.ofNat (16 * hexValue a + hexValue b) :: unescapedBytes rest
    else String.utf8EncodeChar '%' ++ unescapedBytes (a :: b :: rest)
  | c :: rest => String.utf8EncodeChar c ++ unescapedBytes rest

/-- A text in which a percent sign and two digits stand for a byte; one that is none when read so
stays as it is. -/
def unescape (cs : List Char) : String :=
  (String.fromUTF8? ⟨(unescapedBytes cs).toArray⟩).getD (String.ofList cs)

/-- What stands before the first of some characters, and what stands from there on. -/
def cut (stops : List Char) (cs : List Char) : List Char × List Char :=
  cs.span fun c => !stops.contains c

/-- The scheme, where there is a colon behind it, and the rest. -/
def takeScheme (cs : List Char) : List Char × List Char :=
  let (name, rest) := cs.span fun c => isPlain c || c = '+' || c = '.' || c = '-'
  match rest with
  | ':' :: rest => if name.headD 'a' |>.isAlpha then (name, rest) else ([], cs)
  | _ => ([], cs)

/-- What stands between two slashes and the path, and the rest. -/
def takeAuthority : List Char → List Char × List Char
  | '/' :: '/' :: rest => cut ['/', '?', '#'] rest
  | cs => ([], cs)

/-- A part that begins with a mark, and the rest. -/
def takeMarked (mark : Char) (stops : List Char) : List Char → Option (List Char) × List Char
  | [] => (none, [])
  | c :: rest => if c = mark then
      let (part, rest) := cut stops rest
      (some part, rest)
    else (none, c :: rest)

/-- What stands before the last of a character, where there is one, and what stands behind it. -/
def cutLast (mark : Char) (cs : List Char) : List Char × List Char :=
  if cs.contains mark then
    let (after, before) := cs.reverse.span (· ≠ mark)
    (before.tail.reverse, after.reverse)
  else ([], cs)

/-- The host, which may stand in brackets, and the rest. -/
def takeHost (cs : List Char) : List Char × List Char :=
  if cs.headD ' ' = '[' && cs.contains ']' then
    let (after, before) := cs.reverse.span (· ≠ ']')
    (before.reverse, after.reverse)
  else cut [':'] cs

/-- The ports that schemes use if no other is given. -/
def usualPorts : List (String × Int) :=
  [("ftp", 21), ("http", 80), ("https", 443), ("ws", 80), ("wss", 443)]

/-- The port, where it is not the usual one. -/
def readPort (scheme : String) (cs : List Char) : Except AddressFault (Option Int) :=
  if cs.isEmpty then .ok none else
    let text := String.ofList cs
    match readWhole text with
    | .error _ => .error (.badPort text)
    | .ok n => .ok (if Dictionary.find? usualPorts scheme = some n then none else some n)

/-- How far a text has come that may be four numbers with a character between each two: the number
it is in, and whether that has a digit. -/
abbrev Quad := Nat × Bool

/-- Where a text may have come with one more character. -/
def quadSteps (c : Char) : Quad → List Quad
  | (n, started) =>
    (if isAsciiDigit c then [(n, true)] else [])
      ++ if started && n < 3 then [(n + 1, false)] else []

/-- Whether a text is four numbers with any one character between each two. -/
def isQuad (cs : List Char) : Bool :=
  let reached := cs.foldl (fun quads c => (quads.flatMap (quadSteps c)).eraseDups) [(0, false)]
  reached.contains (3, true)

/-- Whether a text is a number below 256 in its shortest form. -/
def isOctet (cs : List Char) : Bool :=
  !cs.isEmpty && cs.length ≤ 3 && cs.all isAsciiDigit && (cs.length = 1 || cs.head? ≠ some '0')
    && digitsValue cs ≤ 255

/-- Whether a text is four such numbers with points between them. -/
def isFourOctets (cs : List Char) : Bool :=
  let parts := splitAtChar '.' cs
  parts.length = 4 && parts.all isOctet

/-- Whether a text is a group of up to four hexadecimal digits. -/
def isGroup (cs : List Char) : Bool := !cs.isEmpty && cs.length ≤ 4 && cs.all isHexDigit

/-- The groups between colons; four octets at the end count as two. -/
def groupsOf (cs : List Char) : List (List Char) :=
  let parts := splitAtChar ':' cs
  match parts.getLast? with
  | some last => if isFourOctets last then parts.dropLast ++ [['0'], ['0']] else parts
  | none => parts

/-- Whether groups make up an address of eight, of which one run may be left out. -/
def isEightGroups (groups : List (List Char)) : Bool :=
  match groups with
  | [[], [], []] => true
  | [] :: [] :: rest => !rest.isEmpty && rest.length ≤ 7 && rest.all isGroup
  | _ =>
    let full := groups.all isGroup
    let (before, after) := groups.span isGroup
    (full && groups.length = 8)
      || (match after with
        | [[], []] => before.length ≤ 7 && !before.isEmpty
        | [] :: rest => !before.isEmpty && !rest.isEmpty && before.length + rest.length ≤ 7
            && rest.all isGroup
        | _ => false)

/-- Whether a text is an address of eight groups, with or without a zone. -/
def isLongAddress (cs : List Char) : Bool :=
  let (address, zone) := cut ['%'] cs
  (match zone with
    | [] => true
    | _ :: name => !name.isEmpty && !name.contains '%')
    && !cs.contains '/' && isEightGroups (groupsOf address)

/-- The name of a host. -/
def readHost (cs : List Char) : Except AddressFault String :=
  let text := String.ofList cs
  if cs.isEmpty then .ok ""
  else if isQuad cs then if isFourOctets cs then .ok text else .error (.badFourOctets text)
  else if cs.head? = some '[' && cs.getLast? = some ']' then
    let inner := (cs.drop 1).dropLast
    if isLongAddress inner then .ok (String.ofList inner) else .error (.badLongAddress text)
  else if cs.all (·.toNat < 0x80) then .ok (escape hostSafe (lower text))
  else ((hostName? (lower text).toList).map .ok).getD (.error (.badHostName text))

/-- A path without its parts that are dots: one stays where it is, two go up. -/
def withoutDots (path : String) : String :=
  let parts := (splitAtChar '/' path.toList).map String.ofList
  if parts.contains "." || parts.contains ".." then
    join "/" (parts.foldl (fun out part =>
      if part = "." then out
      else if part = ".." then if out = [""] then out else out.dropLast
      else out ++ [part]) [])
  else path

/-- What is wrong with a path in its place. -/
def pathFault? (hasScheme hasHost : Bool) (path : String) : Option AddressFault :=
  if hasHost then if path = "" || path.toList.head? = some '/' then none else some .pathWithoutSlash
  else if hasScheme then none
  else if startsWith path.toList ['/', '/'] then some .twoSlashes
  else if startsWith path.toList [':'] then some .leadingColon
  else none

/-- The first character that no address admits, and where it stands. -/
def unprintable? (cs : List Char) : Option (Char × Nat) :=
  (cs.zip (List.range cs.length)).find? fun (c, _) => c.toNat < 0x20 || c.toNat = 0x7F

/-- The longest address. -/
def maxLength : Nat := 65536

/-- The parts of an address that has no character which none admits. -/
def readParts (cs : List Char) : Except AddressFault Address := do
  let (scheme, rest) := takeScheme cs
  let (authority, rest) := takeAuthority rest
  let (path, rest) := cut ['?', '#'] rest
  let (query, rest) := takeMarked '?' ['#'] rest
  let (fragment, _) := takeMarked '#' [] rest
  let (user, place) := cutLast '@' authority
  let (host, port) := takeHost place
  let host ← readHost host
  let port ← readPort (String.ofList scheme) (if port.head? = some ':' then port.tail else port)
  let hasScheme := !scheme.isEmpty
  let hasHost := !user.isEmpty || host != "" || port.isSome
  match pathFault? hasScheme hasHost (String.ofList path) with
  | some fault => .error fault
  | none =>
    let path := String.ofList path
    .ok { scheme := lower (String.ofList scheme), user := escape userSafe (String.ofList user)
          host, port
          path := escape pathSafe (if hasScheme || hasHost then withoutDots path else path)
          query := query.map (escape querySafe ∘ String.ofList)
          fragment := fragment.map (escape fragmentSafe ∘ String.ofList) }

/-- Reads an address. -/
def read (text : String) : Except AddressFault Address :=
  let cs := text.toList
  if maxLength < cs.length then .error .tooLong else
    match unprintable? cs with
    | some (c, position) => .error (.unprintable c position)
    | none => readParts cs

/-- Whether an address says where to go. -/
def isAbsolute (a : Address) : Bool := a.scheme != "" && a.host != ""

/-- The path and query of an address that does not say where to go. -/
def target (a : Address) : Address :=
  { path := String.ofList ('/' :: a.path.toList.dropWhile (· = '/')), query := a.query }

/-- The host and port. -/
def place (a : Address) : String :=
  (if a.host.toList.contains ':' then "[" ++ a.host ++ "]" else a.host)
    ++ (match a.port with
      | some n => ":" ++ intText n
      | none => "")

/-- An address in its normal form. -/
def text (a : Address) : String :=
  let authority := (if a.user = "" then "" else a.user ++ "@") ++ a.place
  (if a.scheme = "" then "" else a.scheme ++ ":")
    ++ (if authority = "" then "" else "//" ++ authority)
    ++ a.path
    ++ (a.query.elim "" ("?" ++ ·)) ++ (a.fragment.elim "" ("#" ++ ·))

end Address

end Parley.Http
