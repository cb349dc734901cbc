import SceneScript.Path
import SceneScript.Position
import SceneScript.Text.Numeral

set_option autoImplicit false

namespace SceneScript

-- A negative end counts from the back.
def sliceRows (rows : List Text) (first last : Int) : List Text :=
  let last := if last < 0 then last + rows.length else last
  (rows.take last.toNat).drop first.toNat

def defaultRadius : Int := 2

def excerpt (text : Text) (line radius : Int) : Text :=
  let rows := Text.lines text
  let first := max 1 (line - radius)
  let last := min (rows.length : Int) (line + radius)
  Text.unlines (sliceRows rows (first - 1) last)

inductive MarkFault where
  | beyondLengths
  | beyondMemory
deriving DecidableEq

namespace MarkFault

def message : MarkFault → Text
  | beyondLengths => "cannot fit 'int' into an index-sized integer"
  | beyondMemory => []

-- Lengths of texts are signed numbers of 64 bits; memory has room for far less.
def ofIndent? (indent : Nat) : Option MarkFault :=
  if 0x7fffffffffffffff < indent then some .beyondLengths
  else if 0xfffffffff < indent then some .beyondMemory
  else none

end MarkFault

/-- Why a context cannot be written: a number in it is too long, or the mark is too far off. -/
inductive RenderFault where
  | tooManyDigits
  | mark (fault : MarkFault)
deriving DecidableEq

def RenderFault.message : RenderFault → Text
  | tooManyDigits =>
      "Exceeds the limit (" ++ Text.ofNat Text.numeralDigitLimit
        ++ " digits) for integer string conversion; "
        ++ "use sys.set_int_max_str_digits() to increase the limit"
  | mark fault => fault.message

structure Context where
  file : Option Path
  position : Position
  excerpt : Option Text
deriving DecidableEq

namespace Context

def scriptName (file : Option Path) : Text :=
  match file with
  | some path => path.toText
  | none => "<script>"

def place (file : Option Path) (position : Position) : Text :=
  scriptName file ++ ":" ++ Text.ofInt position.line ++ ":" ++ Text.ofInt position.column

def gutter (number : Int) : Text := Text.padLeft 4 (Text.ofInt number) ++ " | "

def markIndent (number column : Int) : Nat := (gutter number).length + (column - 1).toNat

def marker (number column : Int) : Text :=
  List.replicate (markIndent number column) ' ' ++ "^^^"

def numberedRows (position : Position) : Int → List Text → List Text
  | _, [] => []
  | number, row :: rest =>
      let shown := gutter number ++ row
      let below := numberedRows position (number + 1) rest
      if number = position.line then shown :: marker number position.column :: below
      else shown :: below

def firstNumber (position : Position) : Int := max 1 (position.line - defaultRadius)

def render (context : Context) : Text :=
  let here := place context.file context.position
  match context.excerpt with
  | none | some [] => here
  | some text =>
      here ++ "\n"
        ++ Text.unlines
          (numberedRows context.position (firstNumber context.position) (Text.lines text))

def markFault? (context : Context) : Option MarkFault :=
  match context.excerpt with
  | none | some [] => none
  | some text =>
      let number := context.position.line
      let first := firstNumber context.position
      if number < first ∨ first + (Text.lines text).length ≤ number then none
      else MarkFault.ofIndent? (markIndent number context.position.column)

def isTooLong (number : Int) : Bool :=
  Text.numeralDigitLimit < (Text.ofNat number.natAbs).length

def rowNumbers (context : Context) : List Int :=
  match context.excerpt with
  | none | some [] => []
  | some text =>
      (List.range (Text.lines text).length).map fun (index : Nat) =>
        firstNumber context.position + index

-- The place is written first and then row by row; above the mark, numbers are shorter than the
-- line's own.
def renderFault? (context : Context) : Option RenderFault :=
  if isTooLong context.position.line || isTooLong context.position.column then
    some .tooManyDigits
  else
    match context.markFault? with
    | some fault => some (.mark fault)
    | none => if context.rowNumbers.any isTooLong then some .tooManyDigits else none

def format (context : Context) : Except RenderFault Text :=
  match context.renderFault? with
  | some fault => .error fault
  | none => .ok context.render

end Context

end SceneScript
