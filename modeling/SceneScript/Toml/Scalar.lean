import SceneScript.Toml.Basic

set_option autoImplicit false

namespace SceneScript

namespace Toml

abbrev Reader := StateT Text (Except Fault)

namespace Reader

def fail {α : Type} : Reader α := throw .malformed

def skip (member : Char → Bool) : Reader Unit := modify (·.dropWhile member)

def peek : Reader (Option Char) := return (← get).head?

def take? (word : Text) : Reader Bool := do
  let ahead ← get
  if word.isPrefixOf ahead then
    set (ahead.drop word.length)
    return true
  else return false

def orElse {α : Type} (first : Reader (Option α)) (second : Reader α) : Reader α := do
  match ← first with
  | some value => return value
  | none => second

end Reader

def isSpace (c : Char) : Bool := c = ' ' || c = '\t'

def isSpaceOrNewline (c : Char) : Bool := isSpace c || c = '\n'

def isControl (c : Char) : Bool := c.toNat < 0x20 || c = '\x7f'

def isIllegal (multiline : Bool) (c : Char) : Bool :=
  isControl c && c ≠ '\t' && !(multiline && c = '\n')

def isDecimal (c : Char) : Bool := '0' ≤ c && c ≤ '9'

def isHexadecimal (c : Char) : Bool :=
  isDecimal c || ('a' ≤ c && c ≤ 'f') || ('A' ≤ c && c ≤ 'F')

def hexadecimalValue (digits : Text) : Nat :=
  let value (c : Char) : Nat :=
    if isDecimal c then c.toNat - '0'.toNat
    else if 'a' ≤ c then c.toNat - 'a'.toNat + 10
    else c.toNat - 'A'.toNat + 10
  digits.foldl (fun sum digit => 16 * sum + value digit) 0

-- Strings

def scalarOf (digits : Text) : Except Fault Char :=
  let code := hexadecimalValue digits
  if digits.all isHexadecimal && code.isValidChar then .ok (Char.ofNat code)
  else .error .malformed

/--
White space after a backslash at the end of a line is left out: first up to the newline, then on.
-/
inductive Gap where
  | closed
  | upToNewline
  | afterNewline
deriving DecidableEq

def simpleEscapes : List (Char × Char) :=
  [('b', '\x08'), ('t', '\t'), ('n', '\n'), ('f', '\x0c'), ('r', '\r'), ('"', '"'), ('\\', '\\')]

def startWith (c : Char) : Except Fault (Text × Text) → Except Fault (Text × Text)
  | .ok (inner, after) => .ok (c :: inner, after)
  | .error fault => .error fault

def readBasic (multiline : Bool) (gap : Gap) : Reader Text
  | [] => .error .malformed
  | c :: rest =>
      if gap = .upToNewline then
        if isSpace c then readBasic multiline .upToNewline rest
        else if c = '\n' then readBasic multiline .afterNewline rest
        else .error .malformed
      else if gap = .afterNewline && isSpaceOrNewline c then readBasic multiline .afterNewline rest
      else if c = '"' then
        if !multiline then .ok ([], rest)
        else
          match rest with
          | '"' :: '"' :: after => .ok ([], after)
          | _ => startWith c (readBasic multiline .closed rest)
      else if c = '\\' then
        match rest with
        | 'u' :: d1 :: d2 :: d3 :: d4 :: after =>
            match scalarOf [d1, d2, d3, d4] with
            | .ok character => startWith character (readBasic multiline .closed after)
            | .error fault => .error fault
        | 'U' :: d1 :: d2 :: d3 :: d4 :: d5 :: d6 :: d7 :: d8 :: after =>
            match scalarOf [d1, d2, d3, d4, d5, d6, d7, d8] with
            | .ok character => startWith character (readBasic multiline .closed after)
            | .error fault => .error fault
        | mark :: after =>
            if multiline && isSpace mark then readBasic multiline .upToNewline after
            else if multiline && mark = '\n' then readBasic multiline .afterNewline after
            else
              match simpleEscapes.lookup mark with
              | some character => startWith character (readBasic multiline .closed after)
              | none => .error .malformed
        | [] => .error .malformed
      else if isIllegal multiline c then .error .malformed
      else startWith c (readBasic multiline .closed rest)

def readLiteral : Reader Text
  | text =>
      let inner := text.takeWhile (· ≠ '\'')
      match text.dropWhile (· ≠ '\'') with
      | [] => .error .malformed
      | _ :: after =>
          if inner.any (isIllegal false) then .error .malformed else .ok (inner, after)

def upToThreeApostrophes : Text → Option (Text × Text)
  | '\'' :: '\'' :: '\'' :: after => some ([], after)
  | [] => none
  | c :: rest => (upToThreeApostrophes rest).map fun (inner, after) => (c :: inner, after)

def readLongLiteral : Reader Text
  | text =>
      match upToThreeApostrophes text with
      | none => .error .malformed
      | some (inner, after) =>
          if inner.any (isIllegal true) then .error .malformed else .ok (inner, after)

/-- One or two further marks right after the closing ones still belong to the string. -/
def furtherMarks (mark : Char) : Reader Text := do
  if ← Reader.take? [mark, mark] then return [mark, mark]
  else if ← Reader.take? [mark] then return [mark]
  else return []

def readLong (mark : Char) (body : Reader Text) : Reader Text := do
  discard <| Reader.take? ['\n']
  let inner ← body
  return inner ++ (← furtherMarks mark)

def readString? : Reader (Option Text) := do
  if ← Reader.take? ['"', '"', '"'] then
    some <$> readLong '"' (readBasic true .closed)
  else if ← Reader.take? ['"'] then some <$> readBasic false .closed
  else if ← Reader.take? ['\'', '\'', '\''] then some <$> readLong '\'' readLongLiteral
  else if ← Reader.take? ['\''] then some <$> readLiteral
  else return none

-- Numbers

def moreDigits (member : Char → Bool) : Text → Text × Text
  | '_' :: c :: rest =>
      if member c then
        let (digits, after) := moreDigits member rest
        (c :: digits, after)
      else ([], '_' :: c :: rest)
  | c :: rest =>
      if member c then
        let (digits, after) := moreDigits member rest
        (c :: digits, after)
      else ([], c :: rest)
  | [] => ([], [])

def digitRun? (member : Char → Bool) : Text → Option (Text × Text)
  | [] => none
  | c :: rest =>
      if member c then
        let (digits, after) := moreDigits member rest
        some (c :: digits, after)
      else none

def radixes : List (Text × Nat × (Char → Bool)) :=
  [("0x", 16, isHexadecimal), ("0o", 8, fun c => '0' ≤ c && c ≤ '7'),
    ("0b", 2, fun c => c = '0' || c = '1')]

def readRadix? (text : Text) : Option (Toml × Text) :=
  radixes.findSome? fun (mark, base, member) =>
    if mark.isPrefixOf text then
      (digitRun? member (text.drop mark.length)).map fun (digits, after) =>
        let value := digits.foldl (fun sum digit => base * sum + hexadecimalValue [digit]) 0
        (.integer value, after)
    else none

def readFraction (text : Text) : Text × Text :=
  match text with
  | '.' :: rest =>
      match digitRun? isDecimal rest with
      | some (digits, after) => ('.' :: digits, after)
      | none => ([], text)
  | _ => ([], text)

def splitMark : Text → Text × Text
  | '+' :: rest => (['+'], rest)
  | '-' :: rest => (['-'], rest)
  | rest => ([], rest)

def readExponent (text : Text) : Text × Text :=
  match text with
  | c :: rest =>
      if c = 'e' || c = 'E' then
        let (mark, rest) := splitMark rest
        match digitRun? isDecimal rest with
        | some (digits, after) => (c :: mark ++ digits, after)
        | none => ([], text)
      else ([], text)
  | [] => ([], [])

def wholeDigits? (text : Text) : Option (Text × Text) :=
  match text with
  | '0' :: rest => some (['0'], rest)
  | _ => digitRun? isDecimal text

def readDecimal? (text : Text) : Except Fault (Option (Toml × Text)) :=
  let (mark, rest) := splitMark text
  match wholeDigits? rest with
  | none => .ok none
  | some (whole, rest) =>
      let (fraction, rest) := readFraction rest
      let (exponent, rest) := readExponent rest
      if fraction ++ exponent ≠ [] then
        .ok (some (.float (mark ++ whole ++ fraction ++ exponent), rest))
      else
        match Text.readNumeral (mark ++ whole) with
        | .ok value => .ok (some (.integer value, rest))
        | .error error => .error (.numeral error)

def readNumber? : Reader (Option Toml)
  | text =>
      match readRadix? text with
      | some (value, after) => .ok (some value, after)
      | none =>
          match readDecimal? text with
          | .ok (some (value, after)) => .ok (some value, after)
          | .ok none => .ok (none, text)
          | .error fault => .error fault

def specialFloats : List Text := ["inf", "nan", "-inf", "+inf", "-nan", "+nan"]

def readSpecialFloat? : Reader (Option Toml)
  | text =>
      match specialFloats.find? (·.isPrefixOf text) with
      | some word => .ok (some (.float word), text.drop word.length)
      | none => .ok (none, text)

-- Dates

def digitsOf? (count : Nat) (text : Text) : Option (Nat × Text) :=
  let digits := text.take count
  if digits.length = count && digits.all isDecimal then
    some (Text.positional digits, text.drop count)
  else none

def within? (low high count : Nat) (text : Text) : Option (Nat × Text) :=
  (digitsOf? count text).filter fun (value, _) => low ≤ value && value ≤ high

def mark? (c : Char) : Text → Option Text
  | other :: rest => if other = c then some rest else none
  | [] => none

def timeOfDay? (text : Text) : Option Text := do
  let (_, text) ← within? 0 23 2 text
  let (_, text) ← within? 0 59 2 (← mark? ':' text)
  let (_, text) ← within? 0 59 2 (← mark? ':' text)
  match text with
  | '.' :: rest =>
      if rest.head?.any isDecimal then some (rest.dropWhile isDecimal) else some text
  | _ => some text

def offset? (text : Text) : Option Text :=
  match text with
  | c :: rest =>
      if c = 'Z' || c = 'z' then some rest
      else if c = '+' || c = '-' then do
        let (_, rest) ← within? 0 23 2 rest
        let (_, rest) ← within? 0 59 2 (← mark? ':' rest)
        return rest
      else none
  | [] => none

def isLeapYear (year : Nat) : Bool := year % 4 = 0 && (year % 100 ≠ 0 || year % 400 = 0)

def daysIn (year month : Nat) : Nat :=
  if month = 2 then (if isLeapYear year then 29 else 28)
  else if month ∈ [4, 6, 9, 11] then 30
  else 31

def calendarDate? (text : Text) : Option ((Nat × Nat × Nat) × Text) := do
  let (year, text) ← digitsOf? 4 text
  let (month, text) ← within? 1 12 2 (← mark? '-' text)
  let (day, text) ← within? 1 31 2 (← mark? '-' text)
  return ((year, month, day), text)

def afterDate (text : Text) : Text :=
  match text with
  | c :: rest =>
      if c = 'T' || c = 't' || c = ' ' then
        match timeOfDay? rest with
        | some after => (offset? after).getD after
        | none => text
      else text
  | [] => []

def readDate? : Reader (Option Toml)
  | text =>
      let written (after : Text) : Text := text.take (text.length - after.length)
      match calendarDate? text with
      | some ((year, month, day), rest) =>
          if 1 ≤ year && day ≤ daysIn year month then
            let after := afterDate rest
            .ok (some (.date (written after)), after)
          else .error .malformed
      | none =>
          match timeOfDay? text with
          | some after => .ok (some (.date (written after)), after)
          | none => .ok (none, text)

end Toml

end SceneScript
