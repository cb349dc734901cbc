import SceneScript.Text.Basic

set_option autoImplicit false

namespace SceneScript

inductive Utf8Fault where
  | invalidStart
  | invalidContinuation
  | unexpectedEnd
deriving DecidableEq

structure Utf8Error where
  fault : Utf8Fault
  position : Nat
  -- The bytes that were followed, the first one included.
  bytes : List UInt8
deriving DecidableEq

def Utf8Fault.reason : Utf8Fault → Text
  | .invalidStart => "invalid start byte"
  | .invalidContinuation => "invalid continuation byte"
  | .unexpectedEnd => "unexpected end of data"

namespace Utf8Error

def hexByte (byte : UInt8) : Text :=
  let digits := Nat.toDigits 16 byte.toNat
  "0x" ++ List.replicate (2 - digits.length) '0' ++ digits

def message (error : Utf8Error) : Text :=
  let place : Text :=
    match error.bytes with
    | [byte] => "byte " ++ hexByte byte ++ " in position " ++ Text.ofNat error.position
    | bytes =>
        "bytes in position " ++ Text.ofNat error.position ++ "-"
          ++ Text.ofNat (error.position + bytes.length - 1)
  "'utf-8' codec can't decode " ++ place ++ ": " ++ error.fault.reason

end Utf8Error

namespace Text

def isContinuation (byte : UInt8) : Bool := 0x80 ≤ byte && byte < 0xc0

/-- Excludes overlong forms, surrogates and code points past the last plane. -/
def followsFirst (first second : UInt8) : Bool :=
  isContinuation second
    && !(first = 0xe0 && second < 0xa0)
    && !(first = 0xed && 0xa0 ≤ second)
    && !(first = 0xf0 && second < 0x90)
    && !(first = 0xf4 && 0x90 ≤ second)

def lowBits (byte : UInt8) : Nat := byte.toNat % 64

def fromUtf8 (position : Nat) : List UInt8 → Except Utf8Error Text
  | [] => .ok []
  | first :: rest =>
      let stop (fault : Utf8Fault) (bytes : List UInt8) : Except Utf8Error Text :=
        .error ⟨fault, position, bytes⟩
      if first < 0x80 then (Char.ofNat first.toNat :: ·) <$> fromUtf8 (position + 1) rest
      else if first < 0xc2 then stop .invalidStart [first]
      else if first < 0xe0 then
        match rest with
        | [] => stop .unexpectedEnd [first]
        | second :: rest =>
            if followsFirst first second then
              (Char.ofNat (first.toNat % 32 * 64 + lowBits second) :: ·)
                <$> fromUtf8 (position + 2) rest
            else stop .invalidContinuation [first]
      else if first < 0xf0 then
        match rest with
        | [] => stop .unexpectedEnd [first]
        | [second] =>
            if followsFirst first second then stop .unexpectedEnd [first, second]
            else stop .invalidContinuation [first]
        | second :: third :: rest =>
            if !followsFirst first second then stop .invalidContinuation [first]
            else if !isContinuation third then stop .invalidContinuation [first, second]
            else
              (Char.ofNat (first.toNat % 16 * 4096 + lowBits second * 64 + lowBits third) :: ·)
                <$> fromUtf8 (position + 3) rest
      else if first < 0xf5 then
        match rest with
        | [] => stop .unexpectedEnd [first]
        | [second] =>
            if followsFirst first second then stop .unexpectedEnd [first, second]
            else stop .invalidContinuation [first]
        | [second, third] =>
            if !followsFirst first second then stop .invalidContinuation [first]
            else if !isContinuation third then stop .invalidContinuation [first, second]
            else stop .unexpectedEnd [first, second, third]
        | second :: third :: fourth :: rest =>
            if !followsFirst first second then stop .invalidContinuation [first]
            else if !isContinuation third then stop .invalidContinuation [first, second]
            else if !isContinuation fourth then stop .invalidContinuation [first, second, third]
            else
              (Char.ofNat (first.toNat % 8 * 262144 + lowBits second * 4096 + lowBits third * 64
                  + lowBits fourth) :: ·)
                <$> fromUtf8 (position + 4) rest
      else stop .invalidStart [first]

def uniformNewlines : Text → Text
  | '\r' :: '\n' :: rest => '\n' :: uniformNewlines rest
  | '\r' :: rest => '\n' :: uniformNewlines rest
  | c :: rest => c :: uniformNewlines rest
  | [] => []

def ofFile (bytes : List UInt8) : Except Utf8Error Text :=
  uniformNewlines <$> fromUtf8 0 bytes

end Text

end SceneScript
