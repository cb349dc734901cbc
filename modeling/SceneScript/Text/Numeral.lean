import SceneScript.Text.Blank
import SceneScript.Text.Digit
import SceneScript.Text.Quoted

set_option autoImplicit false

namespace SceneScript.Text

inductive NumeralError where
  | malformed (text : Text)
  | tooLong (digits : Nat)
deriving DecidableEq

def numeralDigitLimit : Nat := 4300

def numeralShownLength : Nat := 200

def NumeralError.message : NumeralError → Text
  | .malformed text =>
      "invalid literal for int() with base 10: " ++ (quoted text).take numeralShownLength
  | .tooLong digits =>
      "Exceeds the limit (" ++ ofNat numeralDigitLimit
        ++ " digits) for integer string conversion: value has " ++ ofNat digits
        ++ " digits; use sys.set_int_max_str_digits() to increase the limit"

/-- The four information separators are blank, but no numeral may stand between them. -/
def surroundsNumeral (c : Char) : Bool := isBlank c && !inRanges [(0x1c, 0x1f)] c

def positional (digits : Text) : Nat :=
  digits.foldl (fun value digit => 10 * value + digitValue digit) 0

def wellSpaced : Text → Bool
  | [] => false
  | '_' :: _ => false
  | [_] => true
  | _ :: '_' :: rest => wellSpaced rest
  | _ :: rest => wellSpaced rest

def splitSign : Text → Bool × Text
  | '-' :: rest => (true, rest)
  | '+' :: rest => (false, rest)
  | rest => (false, rest)

theorem length_splitSign (text : Text) : (splitSign text).2.length ≤ text.length := by
  unfold splitSign
  split <;> simp

def readNumeral (text : Text) : Except NumeralError Int :=
  let (negative, body) := splitSign (text.dropWhile surroundsNumeral)
  let spaced (c : Char) : Bool := isDigit c || c = '_'
  let run := body.takeWhile spaced
  let digits := run.filter (· ≠ '_')
  if !wellSpaced run then .error (.malformed text)
  else if numeralDigitLimit < digits.length then .error (.tooLong digits.length)
  else if !(body.dropWhile spaced).all surroundsNumeral then .error (.malformed text)
  else .ok (if negative then -(positional digits : Int) else positional digits)

end SceneScript.Text
