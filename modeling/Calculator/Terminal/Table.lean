/-
**Tables in a terminal.**

* `Column`: a heading and the side on which its cells stand.
* `boxed`: a titled table in frames, each column as wide as its widest cell.
* `tokenTable`: the tokens of a text with their positions.

Widths count characters, each of which fills one place of the terminal.
-/

import Calculator.Token.Record

namespace Calculator

/-! ### Layout -/

/-- A heading, and whether the cells below it stand on the right. -/
structure Column where
  heading : String
  onRight : Bool

/-- So many characters of one kind. -/
def repeated (count : Nat) (c : Char) : String := String.ofList (List.replicate count c)

/-- A cell filled up to a width. -/
def Column.cell (column : Column) (width : Nat) (content : String) : String :=
  let fill := repeated (width - content.length) ' '
  if column.onRight then fill ++ content else content ++ fill

/-- Four characters that draw a line: its start, its fill, its crossings and its end. -/
structure Rule where
  start : String
  fill : Char
  crossing : String
  stop : String

/-- A horizontal line over columns of these widths. -/
def Rule.draw (rule : Rule) (widths : List Nat) : String :=
  let fills := widths.map fun width => repeated (width + 2) rule.fill
  rule.start ++ rule.crossing.intercalate fills ++ rule.stop

/-- A line of cells between bars. -/
def cellLine (bar : String) (cells : List String) : String :=
  bar ++ " " ++ (" " ++ bar ++ " ").intercalate cells ++ " " ++ bar

/-- A title in the middle of a width, rather to the left. -/
def centred (width : Nat) (title : String) : String :=
  let space := width - title.length
  repeated (space / 2) ' ' ++ title ++ repeated (space - space / 2) ' '

/-- The widths of columns with these rows. -/
def columnWidths : List Column → List (List String) → List Nat
  | [], _ => []
  | column :: rest, rows =>
    let cells := rows.filterMap List.head?
    (cells.map String.length).foldl max column.heading.length ::
      columnWidths rest (rows.map List.tail)

/-- The cells of a row, filled up. -/
def fillCells (columns : List Column) (widths : List Nat) (row : List String) : List String :=
  List.zipWith (fun (column, width) content => column.cell width content)
    (columns.zip widths) row

/-- The lines of a table. -/
def boxed (title : String) (columns : List Column) (rows : List (List String)) : List String :=
  let widths := columnWidths columns rows
  let total := widths.foldl (fun sum width => sum + width + 3) 1
  let headings := fillCells columns widths (columns.map Column.heading)
  [centred total title, Rule.draw ⟨"┏", '━', "┳", "┓"⟩ widths, cellLine "┃" headings,
    Rule.draw ⟨"┡", '━', "╇", "┩"⟩ widths] ++
  rows.map (fun row => cellLine "│" (fillCells columns widths row)) ++
  [Rule.draw ⟨"└", '─', "┴", "┘"⟩ widths]

/-! ### Tokens -/

/-- The columns of a table of tokens. -/
def tokenColumns : List Column := [⟨"Pos", true⟩, ⟨"Kind", false⟩, ⟨"Value", false⟩]

/-- The cells of a token. -/
def Token.row (token : Token) : List String :=
  [toString token.position, token.kind.label,
    match token.lexeme with
    | .number value => Binary64.text value
    | .identifier name => name
    | .symbol which => String.singleton which.char
    | .endOfInput => ""]

/-- The lines of a table of tokens. -/
def tokenTable (tokens : List Token) : List String :=
  boxed "Tokens" tokenColumns (tokens.map Token.row)

end Calculator
