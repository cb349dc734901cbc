import SceneScript.Proofs.Rows

set_option autoImplicit false

namespace SceneScript

inductive Row where
  | numbered (number : Int) (shown : Text)
  | marker (indent : Nat)
deriving DecidableEq

def locationText (file : Option Path) (line column : Int) : Text :=
  (match file with
    | some path => path.toText
    | none => "<script>") ++ ":" ++ Text.ofInt line ++ ":" ++ Text.ofInt column

namespace Row

-- Numbers take four places, or more if they have to.
def label (number : Int) : Text :=
  List.replicate (4 - (Text.ofInt number).length) ' ' ++ Text.ofInt number ++ " | "

def width (number : Int) : Nat := max 4 (Text.ofInt number).length + 3

def toText : Row → Text
  | numbered number shown => label number ++ shown
  | marker indent => List.replicate indent ' ' ++ "^^^"

def numbered? : Row → Option (Int × Text)
  | numbered number shown => some (number, shown)
  | marker _ => none

end Row

/-- The rows number the lines of the text from two above the line, and mark the line. -/
structure NumbersLines (text : Text) (line column : Int) (rows : List Row) : Prop where
  numbered : ∀ (index : Nat) number shown,
    (rows.filterMap Row.numbered?)[index]? = some (number, shown) →
    number = max 1 (line - 2) + index ∧ (Text.lines text)[(number - 1).toNat]? = some shown
  window : 1 ≤ line → line ≤ (Text.lines text).length → ∀ number,
    (∃ shown, .numbered number shown ∈ rows) ↔
      max 1 (line - 2) ≤ number ∧ number ≤ min ((Text.lines text).length : Int) (line + 2)
  marked : 1 ≤ line → line ≤ (Text.lines text).length → ∃ above shown below,
    rows = above ++ .numbered line shown ::
      .marker (Row.width line + (max (column - 1) 0).toNat) :: below ∧
    ∀ indent, .marker indent ∉ above ++ below
  unmarked : line < 1 ∨ (Text.lines text).length < line → ∀ indent, .marker indent ∉ rows

namespace Context

def rowsFrom (position : Position) : Int → List Text → List Row
  | _, [] => []
  | number, row :: rest =>
      let below := rowsFrom position (number + 1) rest
      if number = position.line then
        .numbered number row :: .marker (markIndent number position.column) :: below
      else .numbered number row :: below

def shownRows (context : Context) : List Row :=
  match context.excerpt with
  | none | some [] => []
  | some text => rowsFrom context.position (firstNumber context.position) (Text.lines text)

variable {position : Position} {number : Int} {rows : List Text}

theorem gutter_eq (number : Int) : gutter number = Row.label number := rfl

theorem length_gutter (number : Int) : (gutter number).length = Row.width number := by
  simp only [gutter, Text.padLeft, Row.width, List.length_append, List.length_replicate]
  change _ + 3 = _
  omega

theorem numberedRows_eq (position : Position) (number : Int) (rows : List Text) :
    numberedRows position number rows = (rowsFrom position number rows).map Row.toText := by
  induction rows generalizing number with
  | nil => rfl
  | cons row rest ih =>
      by_cases here : number = position.line
      · simp [numberedRows, rowsFrom, here, ih, Row.toText, marker, gutter_eq]
      · simp [numberedRows, rowsFrom, here, ih, Row.toText, gutter_eq]

theorem getElem?_numbered (position : Position) (number : Int) (rows : List Text) (index : Nat) :
    ((rowsFrom position number rows).filterMap Row.numbered?)[index]? =
      rows[index]?.map (number + index, ·) := by
  induction rows generalizing number index with
  | nil => rfl
  | cons row rest ih =>
      have same : (rowsFrom position number (row :: rest)).filterMap Row.numbered? =
          (number, row) :: (rowsFrom position (number + 1) rest).filterMap Row.numbered? := by
        by_cases here : number = position.line <;>
          simp [rowsFrom, here, List.filterMap_cons, Row.numbered?]
      rw [same]
      cases index with
      | zero => simp
      | succ index => simp [ih, Int.add_assoc, Int.add_comm 1]

theorem numbered_mem_rowsFrom {other : Int} {shown : Text} :
    .numbered other shown ∈ rowsFrom position number rows ↔
      ∃ index : Nat, rows[index]? = some shown ∧ other = number + index := by
  have listed : .numbered other shown ∈ rowsFrom position number rows ↔
      (other, shown) ∈ (rowsFrom position number rows).filterMap Row.numbered? := by
    rw [List.mem_filterMap]
    constructor
    · exact fun held => ⟨_, held, rfl⟩
    · rintro ⟨row, held, same⟩
      cases row with
      | numbered => cases same; exact held
      | marker => cases same
  rw [listed, List.mem_iff_getElem?]
  simp only [getElem?_numbered, Option.map_eq_some_iff, Prod.mk.injEq]
  constructor
  · rintro ⟨index, text, found, rfl, rfl⟩
    exact ⟨index, found, rfl⟩
  · rintro ⟨index, found, rfl⟩
    exact ⟨index, shown, found, rfl, rfl⟩

theorem rowsFrom_append (position : Position) (number : Int) (first second : List Text) :
    rowsFrom position number (first ++ second) =
      rowsFrom position number first ++ rowsFrom position (number + first.length) second := by
  induction first generalizing number with
  | nil => simp [rowsFrom]
  | cons row rest ih =>
      by_cases here : number = position.line <;>
        simp [rowsFrom, here, ih, Int.add_assoc, Int.add_comm 1]

theorem marker_notMem_rowsFrom
    (apart : position.line < number ∨ number + rows.length ≤ position.line) (indent : Nat) :
    .marker indent ∉ rowsFrom position number rows := by
  induction rows generalizing number with
  | nil => simp [rowsFrom]
  | cons row rest ih =>
      have other : number ≠ position.line := by
        simp only [List.length_cons] at apart
        omega
      have later : .marker indent ∉ rowsFrom position (number + 1) rest := by
        apply ih
        simp only [List.length_cons] at apart
        omega
      simpa [rowsFrom, other] using later

theorem newline_unlines {rows : List Row} (filled : rows ≠ []) :
    '\n' :: Text.unlines (rows.map Row.toText) = rows.flatMap fun row => '\n' :: row.toText := by
  induction rows with
  | nil => exact absurd rfl filled
  | cons row rest ih =>
      cases rest with
      | nil => simp [Text.unlines]
      | cons next others =>
          rw [List.flatMap_cons, ← ih (by simp)]
          simp [Text.unlines, List.intercalate_cons_cons]

theorem rowsFrom_ne_nil (filled : rows ≠ []) : rowsFrom position number rows ≠ [] := by
  obtain ⟨row, rest, rfl⟩ := List.exists_cons_of_ne_nil filled
  by_cases here : number = position.line <;> simp [rowsFrom, here]

theorem place_eq (file : Option Path) (position : Position) :
    place file position = locationText file position.line position.column := by
  cases file <;> rfl

theorem render_eq (context : Context) :
    context.render = locationText context.file context.position.line context.position.column ++
      context.shownRows.flatMap fun row => '\n' :: row.toText := by
  obtain ⟨file, position, snippet⟩ := context
  rw [← place_eq]
  match snippet with
  | none => simp [render, shownRows]
  | some [] => simp [render, shownRows]
  | some (c :: rest) =>
      have lines : Text.lines (c :: rest) ≠ [] := Text.split_ne_nil '\n' _
      have shown : rowsFrom position (firstNumber position) (Text.lines (c :: rest)) ≠ [] :=
        rowsFrom_ne_nil lines
      simp only [render, shownRows, numberedRows_eq, ← newline_unlines shown]
      exact List.append_assoc ..

end Context

theorem getElem?_sliceRows {rows : List Text} {first last : Int} {index : Nat} {row : Text}
    (found : (sliceRows rows first last)[index]? = some row) :
    rows[first.toNat + index]? = some row := by
  rw [sliceRows, List.getElem?_drop, List.getElem?_take] at found
  exact (Option.ite_none_right_eq_some.mp found).2

theorem length_sliceRows_le (rows : List Text) (first last : Int) :
    (sliceRows rows first last).length ≤ rows.length - first.toNat := by
  simp only [sliceRows, List.length_drop, List.length_take]
  omega

theorem length_sliceRows {rows : List Text} {first last : Int} (low : 0 ≤ last)
    (high : last ≤ rows.length) :
    (sliceRows rows first last).length = last.toNat - first.toNat := by
  have inside : ¬ last < 0 := by omega
  simp only [sliceRows, inside, ↓reduceIte, List.length_drop, List.length_take]
  omega

theorem lines_excerpt_of_ne_nil {text : Text} {line radius : Int}
    (filled : excerpt text line radius ≠ []) :
    Text.lines (excerpt text line radius) = sliceRows (Text.lines text)
      (max 1 (line - radius) - 1) (min ((Text.lines text).length : Int) (line + radius)) := by
  apply Text.lines_unlines
  · intro empty
    exact filled (by rw [excerpt, empty]; rfl)
  · intro row held
    exact Text.newline_notMem_of_mem_lines (List.mem_of_mem_take (List.mem_of_mem_drop held))

namespace Context

variable {position : Position} {number : Int} {rows : List Text}

theorem newline_notMem_label (number : Int) : '\n' ∉ Row.label number := by
  have written : '\n' ∉ Text.ofInt number := by
    cases number with
    | ofNat n => exact Text.notMem_ofNat rfl n
    | negSucc n => simpa [Text.ofInt] using Text.notMem_ofNat rfl (n + 1)
  simp [Row.label, written]

theorem newline_notMem_toText (whole : ∀ row ∈ rows, '\n' ∉ row) {row : Row}
    (held : row ∈ rowsFrom position number rows) : '\n' ∉ row.toText := by
  cases row with
  | marker indent => simp [Row.toText]
  | numbered other shown =>
      obtain ⟨index, found, _⟩ := numbered_mem_rowsFrom.mp held
      simp [Row.toText, newline_notMem_label, whole shown (List.mem_of_getElem? found)]

end Context

section

variable {text : Text} {line column : Int}

theorem exists_row_at {rows : List Text} {index : Nat} (inside : index < rows.length) :
    ∃ above row below, rows = above ++ row :: below ∧ above.length = index := by
  refine ⟨rows.take index, rows[index], rows.drop (index + 1), ?_, ?_⟩
  · rw [← List.drop_eq_getElem_cons inside, List.take_append_drop]
  · rw [List.length_take, Nat.min_eq_left (Nat.le_of_lt inside)]

theorem excerpt_ne_nil_of_inside (filled : text ≠ []) (low : 1 ≤ line)
    (high : line ≤ (Text.lines text).length) : excerpt text line defaultRadius ≠ [] := by
  have inside : (line - 1).toNat < (Text.lines text).length := by omega
  obtain ⟨above, row, below, rows, length⟩ := exists_row_at inside
  have same : (above.length : Int) + 1 = line := by omega
  rw [← same]
  exact excerpt_ne_nil rows filled

def window (text : Text) (line : Int) : List Text :=
  sliceRows (Text.lines text) (max 1 (line - 2) - 1)
    (min ((Text.lines text).length : Int) (line + 2))

theorem getElem?_window {index : Nat} {shown : Text}
    (found : (window text line)[index]? = some shown) :
    (Text.lines text)[(max 1 (line - 2) + index - 1).toNat]? = some shown := by
  rw [← getElem?_sliceRows found]
  congr 1
  omega

theorem length_window (low : 1 ≤ line) (high : line ≤ (Text.lines text).length) :
    ((window text line).length : Int) =
      min ((Text.lines text).length : Int) (line + 2) - max 1 (line - 2) + 1 := by
  rw [window, length_sliceRows (by omega) (by omega)]
  omega

theorem window_apart (shown : window text line ≠ [])
    (outside : line < 1 ∨ (Text.lines text).length < line) :
    line < max 1 (line - 2) ∨ max 1 (line - 2) + (window text line).length ≤ line := by
  have short := length_sliceRows_le (Text.lines text) (max 1 (line - 2) - 1)
    (min ((Text.lines text).length : Int) (line + 2))
  have filled := List.length_pos_iff.mpr shown
  rw [← window] at short
  omega

theorem numbersLines_nil (outside : line < 1 ∨ (Text.lines text).length < line) :
    NumbersLines text line column [] where
  numbered := by simp
  window := by omega
  marked := by omega
  unmarked := by simp

theorem numbersLines_rowsFrom (shown : window text line ≠ []) :
    NumbersLines text line column
      (Context.rowsFrom ⟨line, column⟩ (max 1 (line - 2)) (window text line)) := by
  constructor
  case numbered =>
    intro index number shown found
    rw [Context.getElem?_numbered, Option.map_eq_some_iff] at found
    obtain ⟨row, found, same⟩ := found
    cases same
    exact ⟨rfl, getElem?_window found⟩
  case window =>
    intro low high number
    have length := length_window low high
    simp only [Context.numbered_mem_rowsFrom]
    constructor
    · rintro ⟨shown, index, found, rfl⟩
      have inside := (List.getElem?_eq_some_iff.mp found).1
      omega
    · rintro ⟨first, last⟩
      have inside : (number - max 1 (line - 2)).toNat < (window text line).length := by omega
      exact ⟨_, _, List.getElem?_eq_getElem inside, by omega⟩
  case marked =>
    intro low high
    have length := length_window low high
    have inside : (line - max 1 (line - 2)).toNat < (window text line).length := by omega
    obtain ⟨above, row, below, rows, place⟩ := exists_row_at inside
    have here : max 1 (line - 2) + (above.length : Int) = line := by omega
    rw [rows, Context.rowsFrom_append, here]
    refine ⟨Context.rowsFrom ⟨line, column⟩ (max 1 (line - 2)) above, row,
      Context.rowsFrom ⟨line, column⟩ (line + 1) below, ?_, fun indent held => ?_⟩
    · have clipped : (max (column - 1) 0).toNat = (column - 1).toNat := by omega
      simp [Context.rowsFrom, Context.markIndent, Context.length_gutter, clipped]
    · rcases List.mem_append.mp held with held | held
      · exact Context.marker_notMem_rowsFrom (.inr (Int.le_of_eq here)) indent held
      · exact Context.marker_notMem_rowsFrom (.inl (Int.lt_succ line)) indent held
  case unmarked =>
    intro outside indent
    exact Context.marker_notMem_rowsFrom (window_apart shown outside) indent

def Context.around (file : Option Path) (text : Text) (position : Position) : Context :=
  ⟨file, position, some (SceneScript.excerpt text position.line defaultRadius)⟩

theorem around_ne_nil (file : Option Path) (column : Int)
    (cut : excerpt text line defaultRadius ≠ []) :
    window text line ≠ [] ∧ (Context.around file text ⟨line, column⟩).shownRows =
        Context.rowsFrom ⟨line, column⟩ (max 1 (line - 2)) (window text line) := by
  have lines : Text.lines (excerpt text line defaultRadius) = window text line :=
    lines_excerpt_of_ne_nil cut
  obtain ⟨c, rest, same⟩ := List.exists_cons_of_ne_nil cut
  rw [same] at lines
  simp only [Context.around, Context.shownRows, same, lines]
  exact ⟨lines ▸ Text.split_ne_nil '\n' _, rfl⟩

theorem outside_of_excerpt_nil (filled : text ≠ []) (empty : excerpt text line defaultRadius = []) :
    line < 1 ∨ (Text.lines text).length < line := by
  by_cases inside : 1 ≤ line ∧ line ≤ (Text.lines text).length
  · exact absurd empty (excerpt_ne_nil_of_inside filled inside.1 inside.2)
  · omega

theorem render_around (file : Option Path) (filled : text ≠ []) (line column : Int) :
    ∃ rows, (Context.around file text ⟨line, column⟩).render =
        locationText file line column ++ rows.flatMap (fun row => '\n' :: row.toText) ∧
      (∀ row ∈ rows, '\n' ∉ row.toText) ∧ NumbersLines text line column rows := by
  refine ⟨_, Context.render_eq _, ?_⟩
  by_cases empty : excerpt text line defaultRadius = []
  next =>
    have outside := outside_of_excerpt_nil filled empty
    have none : (Context.around file text ⟨line, column⟩).shownRows = [] := by
      simp [Context.around, Context.shownRows, empty]
    rw [none]
    exact ⟨by simp, numbersLines_nil outside⟩
  next =>
    obtain ⟨rows, shown⟩ := around_ne_nil file column empty
    rw [shown]
    refine ⟨fun row => Context.newline_notMem_toText fun line held => ?_,
      numbersLines_rowsFrom rows⟩
    exact Text.newline_notMem_of_mem_lines (List.mem_of_mem_take (List.mem_of_mem_drop held))

end

end SceneScript
