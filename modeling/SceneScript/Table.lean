import SceneScript.Text.Blank
import SceneScript.Text.Cells

set_option autoImplicit false

namespace SceneScript

inductive Alignment where
  | left
  | right
deriving DecidableEq

structure Column where
  heading : Text
  alignment : Alignment
deriving DecidableEq

structure Table where
  title : Text
  columns : List Column
  rows : List (List Text)
deriving DecidableEq

namespace Table

def widthOf (heading : Text) (entries : List Text) : Nat :=
  entries.foldl (fun width entry => max width (Text.cells entry)) (Text.cells heading)

def widths (table : Table) : List Nat :=
  table.columns.zipIdx.map fun (column, index) =>
    widthOf column.heading (table.rows.filterMap (·[index]?))

def totalWidth (table : Table) : Nat :=
  table.widths.foldl (fun total width => total + width + 3) 1

def align (alignment : Alignment) (width : Nat) (entry : Text) : Text :=
  match alignment with
  | .left => Text.alignLeft width entry
  | .right => Text.alignRight width entry

def isMotion (c : Char) : Bool :=
  c = '\x07' || c = '\x08' || c = '\x0b' || c = '\x0c' || c = '\x0d'

def tabWidth : Nat := 8

def expandTabs (column : Nat) : Text → Text
  | [] => []
  | c :: rest =>
      if c = '\t' then
        let gap := tabWidth - column % tabWidth
        Text.blanks gap ++ expandTabs (column + gap) rest
      else c :: expandTabs (column + Text.charCells c) rest

def withoutTrailingBlanks (line : Text) : Text :=
  (line.reverse.dropWhile Text.isBlank).reverse

def titleLines (table : Table) : List Text :=
  (Text.lines (table.title.filter (!isMotion ·))).map fun line =>
    Text.centre table.totalWidth (withoutTrailingBlanks (expandTabs 0 line))

def rule (first line between last : Char) (table : Table) : Text :=
  first :: List.intercalate [between] (table.widths.map fun width =>
    List.replicate (width + 2) line) ++ [last]

def row (edge : Char) (table : Table) (entries : List Text) : Text :=
  let aligned := ((table.columns.zip table.widths).zip entries).map fun ((column, width), entry) =>
    ' ' :: align column.alignment width entry ++ [' ']
  edge :: List.intercalate [edge] aligned ++ [edge]

def lines (table : Table) : List Text :=
  table.titleLines
    ++ [rule '┏' '━' '┳' '┓' table, row '┃' table (table.columns.map Column.heading),
      rule '┡' '━' '╇' '┩' table]
    ++ table.rows.map (row '│' table) ++ [rule '└' '─' '┴' '┘' table]

end Table

end SceneScript
