import SceneScript.Text.Printable

set_option autoImplicit false

namespace SceneScript.Text

def hexadecimal (width code : Nat) : Text :=
  let digits := Nat.toDigits 16 code
  List.replicate (width - digits.length) '0' ++ digits

def escapeCode (code : Nat) : Text :=
  if code < 0x100 then '\\' :: 'x' :: hexadecimal 2 code
  else if code < 0x10000 then '\\' :: 'u' :: hexadecimal 4 code
  else '\\' :: 'U' :: hexadecimal 8 code

def quoteMark (text : Text) : Char :=
  if '\'' ∈ text ∧ '"' ∉ text then '"' else '\''

def quoteChar (mark c : Char) : Text :=
  if c = '\\' ∨ c = mark then ['\\', c]
  else if c = '\n' then ['\\', 'n']
  else if c = '\r' then ['\\', 'r']
  else if c = '\t' then ['\\', 't']
  else if isPrintable c then [c]
  else escapeCode c.toNat

def quoted (text : Text) : Text :=
  let mark := quoteMark text
  mark :: text.flatMap (quoteChar mark) ++ [mark]

end SceneScript.Text
