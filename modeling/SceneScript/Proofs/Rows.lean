import SceneScript.Excerpt

set_option autoImplicit false

namespace SceneScript

namespace Text

theorem split_eq_splitOn (separator : Char) (text : Text) :
    split separator text = text.splitOn separator := by
  induction text with
  | nil => rfl
  | cons c text ih =>
      rw [List.splitOn_cons_eq_if_modifyHead, ← ih]
      by_cases found : c = separator
      next => simp [split, found]
      next =>
        cases pieces : split separator text with
        | nil => exact absurd pieces (split_ne_nil separator text)
        | cons piece others => simp [split, found, pieces]

theorem notMem_of_mem_split {separator : Char} {text piece : Text}
    (held : piece ∈ split separator text) : separator ∉ piece := by
  induction text generalizing piece with
  | nil =>
      obtain rfl : piece = [] := by simpa [split] using held
      simp
  | cons c rest ih =>
      by_cases ends : c = separator
      next =>
        rw [split, if_pos ends] at held
        rcases List.mem_cons.mp held with rfl | held
        · simp
        · exact ih held
      next =>
        cases pieces : split separator rest with
        | nil => exact absurd pieces (split_ne_nil separator rest)
        | cons first others =>
            rw [pieces] at ih
            simp only [split, ends, pieces, ↓reduceIte] at held
            rcases List.mem_cons.mp held with rfl | held
            · simpa [Ne.symm ends] using ih List.mem_cons_self
            · exact ih (List.mem_cons_of_mem _ held)

theorem lines_newline (text : Text) : lines ('\n' :: text) = [] :: lines text := rfl

theorem lines_cons {c : Char} (inside : c ≠ '\n') (text : Text) :
    lines (c :: text) = (lines text).modifyHead (c :: ·) := by
  simp [lines, split_eq_splitOn, List.splitOn_cons_eq_if_modifyHead, inside]

theorem lines_unlines {rows : List Text} (filled : rows ≠ []) (whole : ∀ row ∈ rows, '\n' ∉ row) :
    lines (unlines rows) = rows := by
  rw [lines, split_eq_splitOn]
  exact List.splitOn_intercalate '\n' whole filled

theorem newline_notMem_of_mem_lines {text row : Text} (held : row ∈ lines text) : '\n' ∉ row :=
  notMem_of_mem_split held

end Text

namespace Position

structure InRow (position : Position) (above : List Text) (row : Text) : Prop where
  line : position.line = above.length + 1
  left : 1 ≤ position.column
  right : position.column ≤ row.length + 1

theorem exists_row (position : Position) (passed ahead : Text) :
    ∃ above row below, Text.lines (passed ++ ahead) = above ++ row :: below ∧
      (position.after passed).line = position.line + above.length ∧
      (above = [] → (position.after passed).column = position.column + passed.length ∧
        passed.length ≤ row.length) ∧
      (above ≠ [] → 1 ≤ (position.after passed).column ∧
        (position.after passed).column ≤ row.length + 1) := by
  induction passed generalizing position with
  | nil =>
      obtain ⟨row, below, rows⟩ := List.exists_cons_of_ne_nil (Text.split_ne_nil '\n' ahead)
      exact ⟨[], row, below, rows, by simp, by simp, by simp⟩
  | cons c passed ih =>
      obtain ⟨above, row, below, rows, line, first, later⟩ := ih (position.step c)
      rw [List.cons_append, after_cons, line]
      by_cases ends : c = '\n'
      next =>
        -- The row so far ends here, and the columns of the next one start over.
        subst ends
        refine ⟨[] :: above, row, below, ?_, ?_, by simp, fun _ => ?_⟩
        · rw [Text.lines_newline, rows, List.cons_append]
        · simp [step]
          omega
        · by_cases same : above = []
          next =>
            obtain ⟨column, short⟩ := first same
            rw [column]
            simp [step]
            omega
          next => exact later same
      next =>
        rw [Text.lines_cons ends, rows]
        cases above with
        | nil =>
            obtain ⟨column, short⟩ := first rfl
            refine ⟨[], c :: row, below, rfl, ?_, fun _ => ?_, by simp⟩
            · simp [step, ends]
            · rw [column]
              simp [step, ends]
              omega
        | cons top above =>
            refine ⟨(c :: top) :: above, row, below, rfl, ?_, by simp, fun _ => later (by simp)⟩
            simp [step, ends]

theorem exists_inRow (passed ahead : Text) :
    ∃ above row below, Text.lines (passed ++ ahead) = above ++ row :: below ∧
      (start.after passed).InRow above row := by
  obtain ⟨above, row, below, rows, line, first, later⟩ := start.exists_row passed ahead
  have column : 1 ≤ (start.after passed).column ∧
      (start.after passed).column ≤ row.length + 1 := by
    by_cases same : above = []
    next =>
      obtain ⟨column, short⟩ := first same
      rw [column, show start.column = 1 from rfl]
      omega
    next => exact later same
  exact ⟨above, row, below, rows, line.trans (Int.add_comm 1 _), column.1, column.2⟩

end Position

theorem excerpt_of_rows {text row : Text} {above below : List Text}
    (rows : Text.lines text = above ++ row :: below) :
    excerpt text (above.length + 1) defaultRadius =
      Text.unlines (above.drop (above.length - 2) ++ row :: below.take 2) := by
  have first : (max 1 ((above.length : Int) + 1 - defaultRadius) - 1).toNat = above.length - 2 := by
    simp only [defaultRadius]
    omega
  have last : min ((above ++ row :: below).length : Int) (above.length + 1 + defaultRadius) =
      (above.length + (1 + min 2 below.length) : Nat) := by
    simp only [defaultRadius, List.length_append, List.length_cons]
    omega
  have kept : (above ++ row :: below).take (above.length + (1 + min 2 below.length)) =
      above ++ row :: below.take 2 := by
    rw [List.take_length_add_append, Nat.add_comm 1, List.take_succ_cons, ← List.take_eq_take_min]
  have short : above.length - 2 ≤ above.length := Nat.sub_le ..
  have notBehind : ¬ ((above.length + (1 + min 2 below.length) : Nat) : Int) < 0 := by omega
  simp only [excerpt, sliceRows, rows, first, last, notBehind, ↓reduceIte, Int.toNat_natCast, kept,
    List.drop_append_of_le_length short]

theorem lines_excerpt {text row : Text} {above below : List Text}
    (rows : Text.lines text = above ++ row :: below) :
    Text.lines (excerpt text (above.length + 1) defaultRadius) =
      above.drop (above.length - 2) ++ row :: below.take 2 := by
  rw [excerpt_of_rows rows]
  apply Text.lines_unlines (by simp)
  intro other held
  have listed : other ∈ Text.lines text := by
    rw [rows]
    simp only [List.mem_append, List.mem_cons] at held ⊢
    exact held.imp List.mem_of_mem_drop (Or.imp_right List.mem_of_mem_take)
  exact Text.newline_notMem_of_mem_lines listed

theorem excerpt_ne_nil {text row : Text} {above below : List Text}
    (rows : Text.lines text = above ++ row :: below) (filled : text ≠ []) :
    excerpt text (above.length + 1) defaultRadius ≠ [] := by
  intro empty
  have single := lines_excerpt rows
  rw [empty, show Text.lines [] = [[]] from rfl] at single
  -- An empty excerpt is a single empty row, and then no other row is around it.
  rcases List.append_eq_singleton_iff.mp single.symm with ⟨noneAbove, rest⟩ | ⟨_, rest⟩
  · obtain ⟨rfl, noneBelow⟩ := List.cons.inj rest
    have first : above = [] := by
      apply List.eq_nil_of_length_eq_zero
      have := List.drop_eq_nil_iff.mp noneAbove
      omega
    have last : below = [] := by simpa using noneBelow
    subst first last
    apply filled
    rw [← Text.unlines_lines text, rows]
    rfl
  · cases rest

end SceneScript
