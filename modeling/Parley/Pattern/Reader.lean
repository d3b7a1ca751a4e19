import Parley.Number.Whole
import Parley.Pattern.Match
import Parley.Pattern.Width
import Parley.Text.Letter

/-!
Reading a pattern from its written form.

The written form is the usual one of backtracking matchers: classes in brackets, groups (numbered,
named, final, without a number), look-around, repeated parts of three kinds, references to groups,
parts that hang on a group, settings in brackets and comments. A pattern that is not well formed is
`Fault.malformed`; a repetition count out of range and settings for two alphabets at once are faults
of their own.
-/

namespace Parley.Pattern

open Number Text

/-- Why a written pattern is refused. -/
inductive Fault where
  | malformed
  /-- A repetition count is out of range. -/
  | countTooLarge
  /-- A repetition count has more digits than a whole number may have. -/
  | tooManyDigits (digits : Nat)
  /-- Both alphabets are asked for. -/
  | mixedAlphabets
  deriving DecidableEq, Repr

/-- A character of the written form, taken together with the backslash before it. -/
inductive Token where
  | plain (c : Char)
  | escaped (c : Char)
  /-- A backslash with nothing behind it. -/
  | dangling
  deriving DecidableEq, Repr

/-- The tokens of a written pattern. -/
def tokens : List Char → List Token
  | [] => []
  | ['\\'] => [.dangling]
  | '\\' :: c :: cs => .escaped c :: tokens cs
  | c :: cs => .plain c :: tokens cs

/-- What is known while a pattern is read. -/
structure Reading where
  /-- The number of the next group. -/
  next : Nat := 1
  /-- The named groups. -/
  names : List (String × Nat) := []
  /-- The widths of the groups that are closed. -/
  widths : List (Nat × Width) := []
  /-- Inside of a look back: the first group that is part of it. -/
  barrier : Option Nat := none
  /-- The letters of the settings for the whole pattern. -/
  settings : List Char := []
  /-- Groups by number that a part hangs on. -/
  wanted : List Nat := []

/-- Whether a group is known and closed. -/
def Reading.isClosed (r : Reading) (number : Nat) : Bool := (r.widths.lookup number).isSome

/-- Inside of a look back only closed groups from outside may be referred to. -/
def Reading.mayRefer (r : Reading) (number : Nat) : Bool :=
  match r.barrier with
  | none => true
  | some first => r.isClosed number && number < first

/-- The counts from which on a repetition is out of range. -/
def maxCount : Nat := 4294967295

/-- The value of a hexadecimal digit. -/
def hexDigit? (c : Char) : Option Nat :=
  if '0' ≤ c ∧ c ≤ '9' then some (c.toNat - 48)
  else if 'a' ≤ c ∧ c ≤ 'f' then some (c.toNat - 87)
  else if 'A' ≤ c ∧ c ≤ 'F' then some (c.toNat - 55)
  else none

/-- The value of an octal digit. -/
def octalDigit? (c : Char) : Option Nat :=
  if '0' ≤ c ∧ c ≤ '7' then some (c.toNat - 48) else none

/-- Up to `n` digits at the front in the given base, the value going on from `acc`; how many were
read, the value and the rest. -/
def readDigits (digit? : Char → Option Nat) (base : Nat) :
    (n acc : Nat) → List Token → Nat × Nat × List Token
  | n + 1, acc, .plain c :: ts => match digit? c with
    | some d =>
      let (count, value, rest) := readDigits digit? base n (acc * base + d) ts
      (count + 1, value, rest)
    | none => (0, acc, .plain c :: ts)
  | _, acc, ts => (0, acc, ts)

/-- Exactly `n` hexadecimal digits. -/
def readHex (n : Nat) (ts : List Token) : Except Fault (Nat × List Token) :=
  let (count, value, rest) := readDigits hexDigit? 16 n 0 ts
  if count = n then .ok (value, rest) else .error .malformed

/-- Control characters with a letter of their own. -/
def control? : Char → Option Nat
  | 'a' => some 7
  | 'b' => some 8
  | 'f' => some 12
  | 'n' => some 10
  | 'r' => some 13
  | 't' => some 9
  | 'v' => some 11
  | '\\' => some 92
  | _ => none

/-- Classes with a letter of their own. -/
def kind? : Char → Option (Bool × Kind)
  | 'd' => some (false, .digit)
  | 'D' => some (true, .digit)
  | 's' => some (false, .blank)
  | 'S' => some (true, .blank)
  | 'w' => some (false, .word)
  | 'W' => some (true, .word)
  | _ => none

/-- Whether a character is one of the 26 letters, small or capital. -/
def isLetter (c : Char) : Bool := ('a' ≤ c && c ≤ 'z') || ('A' ≤ c && c ≤ 'Z')

/-- A character by its number in hexadecimal digits, behind `x`, `u` or `U`. -/
def readCode? (c : Char) (ts : List Token) : Option (Except Fault (Nat × List Token)) :=
  match c with
  | 'x' => some (readHex 2 ts)
  | 'u' => some (readHex 4 ts)
  | 'U' => some (do
    let (n, rest) ← readHex 8 ts
    if n ≤ 0x10FFFF then .ok (n, rest) else .error .malformed)
  | _ => none

/-- A member of a class behind a backslash. -/
def readClassEscape (c : Char) (ts : List Token) : Except Fault (Member × List Token) :=
  match control? c, kind? c, readCode? c ts, octalDigit? c with
  | some n, _, _, _ => .ok (.char n, ts)
  | _, some (negated, k), _, _ => .ok (.kind negated k, ts)
  | _, _, some code, _ => code.map fun (n, rest) => (.char n, rest)
  | _, _, _, some d =>
    let (_, n, rest) := readDigits octalDigit? 8 2 d ts
    if 0xFF < n then .error .malformed else .ok (.char n, rest)
  | none, none, none, none =>
    if isLetter c || isAsciiDigit c then .error .malformed else .ok (.char c.toNat, ts)

/-- A member of a class that is one token or more, and the rest. -/
def readMember : List Token → Except Fault (Member × List Token)
  | .plain c :: ts => .ok (.char c.toNat, ts)
  | .escaped c :: ts => readClassEscape c ts
  | _ => .error .malformed

/-- The members of a class up to its closing bracket; `acc` holds those read, last one first. -/
def readMembers : (fuel : Nat) → List Member → List Token →
    Except Fault (List Member × List Token)
  | 0, _, _ => .error .malformed
  | fuel + 1, acc, ts =>
    match ts with
    | .plain ']' :: rest =>
      if acc.isEmpty then readFrom fuel acc ts else .ok (acc.reverse, rest)
    | ts => readFrom fuel acc ts
where
  /-- A member or a range, and the members behind it. -/
  readFrom (fuel : Nat) (acc : List Member) (ts : List Token) :
      Except Fault (List Member × List Token) := do
    let (first, rest) ← readMember ts
    match rest with
    | .plain '-' :: .plain ']' :: rest => .ok ((.char '-'.toNat :: first :: acc).reverse, rest)
    | .plain '-' :: rest =>
      let (last, rest) ← readMember rest
      match first, last with
      | .char lo, .char hi =>
        if hi < lo then .error .malformed else readMembers fuel (.range lo hi :: acc) rest
      | _, _ => .error .malformed
    | rest => readMembers fuel (first :: acc) rest

/-- A class behind its opening bracket. -/
def readClass (ts : List Token) : Except Fault (Pattern × List Token) := do
  let (negated, ts) := match ts with
    | .plain '^' :: ts => (true, ts)
    | ts => (false, ts)
  let (members, rest) ← readMembers (ts.length + 1) [] ts
  match members.eraseDups with
  | [.char n] => .ok (if negated then .otherThan n else .char n, rest)
  | members => .ok (.oneOf negated members, rest)

/-- A reference to a group. -/
def readReference (r : Reading) (number : Nat) (ts : List Token) :
    Except Fault (Pattern × List Token) :=
  if r.isClosed number && r.mayRefer number then .ok (.again number, ts) else .error .malformed

/-- What a backslash stands for outside of a class. -/
def readEscape (r : Reading) (c : Char) (ts : List Token) : Except Fault (Pattern × List Token) :=
  match c with
  | 'A' => .ok (.anchor .textStart, ts)
  | 'Z' => .ok (.anchor .textEnd, ts)
  | 'b' => .ok (.anchor .wordEdge, ts)
  | 'B' => .ok (.anchor .noWordEdge, ts)
  | '0' =>
    let (_, n, rest) := readDigits octalDigit? 8 2 0 ts
    .ok (.char n, rest)
  | c =>
    match kind? c, control? c, readCode? c ts with
    | some (negated, k), _, _ => .ok (.oneOf false [.kind negated k], ts)
    | _, some n, _ => .ok (.char n, ts)
    | _, _, some code => code.map fun (n, rest) => (.char n, rest)
    | none, none, none =>
      if isAsciiDigit c then
        -- three octal digits are a character, otherwise it is the number of a group
        match ts with
        | .plain d :: rest =>
          if isAsciiDigit d then
            match octalDigit? c, octalDigit? d, rest with
            | some x, some y, .plain e :: rest' => match octalDigit? e with
              | some z =>
                let n := (x * 8 + y) * 8 + z
                if 0xFF < n then .error .malformed else .ok (.char n, rest')
              | none => readReference r (digitValue c * 10 + digitValue d) rest
            | _, _, _ => readReference r (digitValue c * 10 + digitValue d) rest
          else readReference r (digitValue c) ts
        | ts => readReference r (digitValue c) ts
      else if isLetter c then .error .malformed
      else .ok (.char c.toNat, ts)

/-- The name in front of a closing character, which has to come. -/
def readName (closing : Char) : (acc : List Char) → List Token →
    Except Fault (List Char × List Token)
  | acc, .plain c :: ts =>
    if c = closing then
      if acc.isEmpty then .error .malformed else .ok (acc.reverse, ts)
    else readName closing (c :: acc) ts
  | acc, .escaped c :: ts => readName closing (c :: '\\' :: acc) ts
  | _, _ => .error .malformed

/-- Whether a text is a name: a letter or the underscore, then letters, numerals and underscores. -/
def isName : List Char → Bool
  | [] => false
  | c :: cs => isWord c && !isDigit c && cs.all isWord

/-- The letters of settings. -/
def settingLetters : List Char := ['i', 'L', 'm', 's', 'x', 'a', 't', 'u']

/-- The settings that choose an alphabet. -/
def isAlphabet (c : Char) : Bool := c == 'a' || c == 'L' || c == 'u'

/-- Settings that are switched on, up to the character that ends them; `acc` holds those read. -/
def readOn : (acc : List Char) → (letter : Char) → List Token →
    Except Fault (List Char × Char × List Token)
  | acc, letter, ts =>
    if letter = 'L' || (isAlphabet letter && acc.any fun c => isAlphabet c && c != letter) then
      .error .malformed
    else match ts with
      | .plain c :: rest =>
        if c = ')' || c = '-' || c = ':' then .ok (letter :: acc, c, rest)
        else if settingLetters.contains c then readOn (letter :: acc) c rest
        else .error .malformed
      | _ => .error .malformed

/-- Settings that are switched off, up to the colon that ends them; `acc` holds those read. -/
def readOff : (acc : List Char) → List Token → Except Fault (List Char × List Token)
  | acc, .plain c :: ts =>
    if c = ':' then if acc.isEmpty then .error .malformed else .ok (acc, ts)
    else if settingLetters.contains c && !isAlphabet c then readOff (c :: acc) ts
    else .error .malformed
  | _, _ => .error .malformed

/-- What an opening bracket with settings in it does. -/
inductive Settings where
  | forAll (on : List Char)
  | forPart (on off : List Char)

/-- Settings behind the question mark; `letter` is their first character. -/
def readSettings (letter : Char) (ts : List Token) : Except Fault (Settings × List Token) := do
  let (on, ending, ts) ← if letter = '-' then .ok ([], '-', ts) else readOn [] letter ts
  if ending = ')' then .ok (.forAll on, ts)
  else if on.contains 't' then .error .malformed
  else
    let (off, ts) ← if ending = '-' then readOff [] ts else .ok ([], ts)
    if off.contains 't' || on.any off.contains then .error .malformed
    else .ok (.forPart on off, ts)

/-- The change of mode that settings make. -/
def changeOf (on off : List Char) : ModeChange :=
  let setting := fun c =>
    if off.contains c then some false else if on.contains c then some true else none
  { ignoreCase := setting 'i', perLine := setting 'm', dotAll := setting 's'
    ascii := if on.contains 'a' then some true else if on.contains 'u' then some false else none }

/-- Digits at the front. -/
def spanDigits : List Token → List Char × List Token
  | .plain c :: ts =>
    if isAsciiDigit c then
      let (ds, rest) := spanDigits ts
      (c :: ds, rest)
    else ([], .plain c :: ts)
  | ts => ([], ts)

/-- A count of a repetition; `ahead` is what follows the closing brace. -/
def readCount (ds : List Char) (ahead : List Token) : Except Fault (Option Nat) :=
  if ds.isEmpty then .ok none
  else if ahead.head? = some .dangling then .error .malformed
  else if maxWholeDigits < ds.length then .error (.tooManyDigits ds.length)
  else if maxCount ≤ digitsValue ds then .error .countTooLarge
  else .ok (some (digitsValue ds))

/-- The counts of a repetition behind its opening brace, where it is one. -/
def readCounts (ts : List Token) : Except Fault (Option (Nat × Option Nat × List Token)) :=
  if ts.head? = some (.plain '\x7d') then .ok none
  else
    let (lo, rest) := spanDigits ts
    let (hi, rest) := match rest with
      | .plain ',' :: rest => spanDigits rest
      | rest => (lo, rest)
    match rest with
    | .plain '\x7d' :: rest => do
      let least := (← readCount lo rest).getD 0
      let most ← readCount hi rest
      if most.any (· < least) then .error .malformed else .ok (some (least, most, rest))
    | _ => .ok none

/-- How a repetition is to be tried, told by the character behind it. -/
def readGreed : List Token → Greed × List Token
  | .plain '?' :: ts => (.lazy, ts)
  | .plain '+' :: ts => (.possessive, ts)
  | ts => (.greedy, ts)

/-- Whether a part may be repeated: there is one, it is no place and not repeated already. -/
def mayRepeat : List Pattern → Bool
  | [] => false
  | .anchor _ :: _ => false
  | .times _ _ _ _ :: _ => false
  | _ :: _ => true

/-- The part read last, repeated; `acc` holds the parts read, last one first. -/
def repeatLast (least : Nat) (most : Option Nat) (acc : List Pattern) (ts : List Token) :
    Except Fault (List Pattern × List Token) :=
  match acc with
  | part :: before =>
    if mayRepeat acc then
      let (greed, rest) := readGreed ts
      .ok (.times least most greed part :: before, rest)
    else .error .malformed
  | [] => .error .malformed

/-- Drops a comment up to the end of its line. -/
def skipLine : List Token → List Token
  | [] => []
  | .plain '\n' :: ts => ts
  | .dangling :: _ => [.dangling]
  | _ :: ts => skipLine ts

/-- Drops a comment up to its closing bracket. -/
def skipComment : List Token → Except Fault (List Token)
  | .plain ')' :: ts => .ok ts
  | .plain _ :: ts => skipComment ts
  | .escaped _ :: ts => skipComment ts
  | _ => .error .malformed

/-- Whether the settings for the whole pattern allow blanks and comments in it. -/
def Reading.isSpaced (r : Reading) : Bool := r.settings.contains 'x'

/-- Steps over a closing bracket, which has to come. -/
def closing : List Token → Except Fault (List Token)
  | .plain ')' :: ts => .ok ts
  | _ => .error .malformed

/-- The group that a part hangs on, by name or number. -/
def readCondition (r : Reading) (name : List Char) : Except Fault (Nat × Reading) :=
  if isName name then
    match r.names.lookup (String.ofList name) with
    | some number => if r.mayRefer number then .ok (number, r) else .error .malformed
    | none => .error .malformed
  else match readWhole (String.ofList name) with
    | .ok (.ofNat (n + 1)) =>
      let r := { r with wanted := (n + 1) :: r.wanted }
      if n < Nat.pow 2 30 && r.mayRefer (n + 1) then .ok (n + 1, r) else .error .malformed
    | _ => .error .malformed

/-- Opens a group under a name, where it has one. -/
def Reading.openGroup (r : Reading) (name : Option (List Char)) : Except Fault (Nat × Reading) :=
  let number := r.next
  match name with
  | none => .ok (number, { r with next := number + 1 })
  | some name =>
    let name := String.ofList name
    if (r.names.lookup name).isSome then .error .malformed
    else .ok (number, { r with next := number + 1, names := (name, number) :: r.names })

/-- Closes a group and notes its width. -/
def Reading.closeGroup (r : Reading) (number : Nat) (part : Pattern) : Reading :=
  { r with widths := (number, width r.widths part) :: r.widths }

mutual

/-- Alternatives up to a closing bracket or the end. -/
def readChoice : (fuel : Nat) → (spaced top : Bool) → Reading → List Token →
    Except Fault (Pattern × Reading × List Token)
  | 0, _, _, _, _ => .error .malformed
  | fuel + 1, spaced, top, r, ts => do
    let (first, r, ts) ← readRow fuel spaced top [] r ts
    let (rest, r, ts) ← readAlternatives fuel spaced top r ts
    match rest with
    | [] => .ok (first, r, ts)
    | rest => .ok (.choice (first :: rest), r, ts)

/-- The alternatives behind the first one. -/
def readAlternatives : (fuel : Nat) → (spaced top : Bool) → Reading → List Token →
    Except Fault (List Pattern × Reading × List Token)
  | 0, _, _, _, _ => .error .malformed
  | fuel + 1, spaced, top, r, ts =>
    match ts with
    | .plain '|' :: ts => do
      let spaced := if top then r.isSpaced else spaced
      let (part, r, ts) ← readRow fuel spaced false [] r ts
      let (rest, r, ts) ← readAlternatives fuel spaced top r ts
      .ok (part :: rest, r, ts)
    | ts => .ok ([], r, ts)

/-- Parts one after the other, up to a bar, a closing bracket or the end; `acc` holds those read,
last one first. `leading` tells whether settings for the whole pattern may come. -/
def readRow : (fuel : Nat) → (spaced leading : Bool) → List Pattern → Reading → List Token →
    Except Fault (Pattern × Reading × List Token)
  | 0, _, _, _, _, _ => .error .malformed
  | fuel + 1, spaced, leading, acc, r, ts =>
    match ts with
    | [] => .ok (.row acc.reverse, r, [])
    | .dangling :: _ => .error .malformed
    | .escaped c :: ts => do
      let (part, ts) ← readEscape r c ts
      readRow fuel spaced leading (part :: acc) r ts
    | .plain c :: rest =>
      if c = '|' || c = ')' then .ok (.row acc.reverse, r, ts)
      else if spaced && (c = ' ' || (9 ≤ c.toNat && c.toNat ≤ 13)) then
        readRow fuel spaced leading acc r rest
      else if spaced && c = '#' then readRow fuel spaced leading acc r (skipLine rest)
      else match c with
        | '[' => do
          let (part, ts) ← readClass rest
          readRow fuel spaced leading (part :: acc) r ts
        | '.' => readRow fuel spaced leading (.any :: acc) r rest
        | '^' => readRow fuel spaced leading (.anchor .lineStart :: acc) r rest
        | '$' => readRow fuel spaced leading (.anchor .lineEnd :: acc) r rest
        | '?' => do
          let (acc, ts) ← repeatLast 0 (some 1) acc rest
          readRow fuel spaced leading acc r ts
        | '*' => do
          let (acc, ts) ← repeatLast 0 none acc rest
          readRow fuel spaced leading acc r ts
        | '+' => do
          let (acc, ts) ← repeatLast 1 none acc rest
          readRow fuel spaced leading acc r ts
        | '\x7b' => do
          match ← readCounts rest with
          | some (least, most, ts) =>
            let (acc, ts) ← repeatLast least most acc ts
            readRow fuel spaced leading acc r ts
          | none => readRow fuel spaced leading (.char c.toNat :: acc) r rest
        | '(' =>
          match rest with
          | .plain '?' :: .plain '#' :: ts => do
            let ts ← skipComment ts
            readRow fuel spaced leading acc r ts
          | .plain '?' :: .plain letter :: ts =>
            if settingLetters.contains letter || letter = '-' then do
              match ← readSettings letter ts with
              | (.forAll on, ts) =>
                let r := { r with settings := on ++ r.settings }
                if leading && acc.isEmpty then readRow fuel r.isSpaced leading acc r ts
                else .error .malformed
              | (.forPart on off, ts) =>
                let spaced' := (spaced || on.contains 'x') && !off.contains 'x'
                let (part, r, ts) ← readChoice fuel spaced' false r ts
                let ts ← closing ts
                readRow fuel spaced leading (.scoped (changeOf on off) part :: acc) r ts
            else do
              let (part, r, ts) ← readBracket fuel spaced letter r ts
              readRow fuel spaced leading (part :: acc) r ts
          | .plain '?' :: _ => .error .malformed
          | ts => do
            let (number, r) ← r.openGroup none
            let (part, r, ts) ← readChoice fuel spaced false r ts
            let ts ← closing ts
            readRow fuel spaced leading (.group number part :: acc) (r.closeGroup number part) ts
        | c => readRow fuel spaced leading (.char c.toNat :: acc) r rest

/-- What stands in a bracket behind the question mark and the given character, settings and comments
apart. -/
def readBracket : (fuel : Nat) → (spaced : Bool) → (letter : Char) → Reading → List Token →
    Except Fault (Pattern × Reading × List Token)
  | 0, _, _, _, _ => .error .malformed
  | fuel + 1, spaced, letter, r, ts =>
    match letter with
    | ':' => do
      let (part, r, ts) ← readChoice fuel spaced false r ts
      .ok (.scoped {} part, r, ← closing ts)
    | '>' => do
      let (part, r, ts) ← readChoice fuel spaced false r ts
      .ok (.atomic part, r, ← closing ts)
    | '=' => do
      let (part, r, ts) ← readChoice fuel spaced false r ts
      .ok (.ahead true part, r, ← closing ts)
    | '!' => do
      let (part, r, ts) ← readChoice fuel spaced false r ts
      .ok (.ahead false part, r, ← closing ts)
    | '<' =>
      match ts with
      | .plain sign :: ts =>
        if sign = '=' || sign = '!' then do
          let outer := r.barrier
          let (part, r, ts) ←
            readChoice fuel spaced false { r with barrier := some (outer.getD r.next) } ts
          .ok (.behind (sign == '=') part, { r with barrier := outer }, ← closing ts)
        else .error .malformed
      | _ => .error .malformed
    | 'P' =>
      match ts with
      | .plain '<' :: ts => do
        let (name, ts) ← readName '>' [] ts
        if isName name then
          let (number, r) ← r.openGroup (some name)
          let (part, r, ts) ← readChoice fuel spaced false r ts
          .ok (.group number part, r.closeGroup number part, ← closing ts)
        else .error .malformed
      | .plain '=' :: ts => do
        let (name, ts) ← readName ')' [] ts
        match r.names.lookup (String.ofList name) with
        | some number => do
          let (part, ts) ← readReference r number ts
          .ok (part, r, ts)
        | none => .error .malformed
      | _ => .error .malformed
    | '(' => do
      let (name, ts) ← readName ')' [] ts
      let (number, r) ← readCondition r name
      let (yes, r, ts) ← readRow fuel spaced false [] r ts
      match ts with
      | .plain '|' :: ts => do
        let (no, r, ts) ← readRow fuel spaced false [] r ts
        .ok (.ifGroup number yes (some no), r, ← closing ts)
      | ts => .ok (.ifGroup number yes none, r, ← closing ts)
    | _ => .error .malformed

end

/-- A pattern that has been read, ready to be sought. -/
structure Search where
  pattern : Pattern
  mode : Mode
  widths : List (Nat × Width)

/-- Reads a pattern; case is ignored unless the pattern says otherwise. -/
def read (written : String) : Except Fault Search := do
  let ts := tokens written.toList
  let (p, r, rest) ← readChoice (2 * ts.length + 4) false true {} ts
  if r.settings.contains 'a' && r.settings.contains 'u' then .error .mixedAlphabets
  else if !rest.isEmpty || r.wanted.any (r.next ≤ ·) || !looksBackFixed r.widths p
      || (r.settings.contains 't' && repeats p) then .error .malformed
  else
    let mode : Mode := {
      ignoreCase := true, perLine := r.settings.contains 'm', dotAll := r.settings.contains 's'
      ascii := r.settings.contains 'a' }
    .ok ⟨p, mode, r.widths⟩

/-- Whether the pattern is found somewhere in the text. -/
def Search.foundIn (s : Search) (text : String) : Bool :=
  s.pattern.occursIn (fixedWidth? s.widths) s.mode text

end Parley.Pattern
