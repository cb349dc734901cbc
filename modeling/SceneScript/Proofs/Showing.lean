import Mathlib.Algebra.Group.Int.Defs
import Mathlib.Algebra.Group.Nat.Defs
import SceneScript.Grammar
import SceneScript.Proofs.Numbering

set_option autoImplicit false

namespace SceneScript

def Overlong (number : Int) : Prop := 4300 < (Text.ofNat number.natAbs).length

inductive TooFar (indent : Nat) : MarkFault → Prop where
  | lengths (far : 2 ^ 63 ≤ indent) : TooFar indent .beyondLengths
  | memory (far : 2 ^ 36 ≤ indent) (near : indent < 2 ^ 63) : TooFar indent .beyondMemory

def markIndentAt (position : Position) : Nat :=
  Row.width position.line + (max (position.column - 1) 0).toNat

def Shows (text : Text) (line number : Int) : Prop :=
  excerpt text line defaultRadius ≠ [] ∧ max 1 (line - 2) ≤ number ∧
    number < max 1 (line - 2) + (Text.lines (excerpt text line defaultRadius)).length

/-- What keeps a position from being written with the rows of its source around it. -/
inductive Unshowable (source : Option Text) (position : Position) : RenderFault → Prop where
  | place (long : Overlong position.line ∨ Overlong position.column) :
      Unshowable source position .tooManyDigits
  | mark {text : Text} {fault : MarkFault} (given : source = some text) (filled : text ≠ [])
      (short : ¬ Overlong position.line ∧ ¬ Overlong position.column) (low : 1 ≤ position.line)
      (high : position.line ≤ (Text.lines text).length)
      (far : TooFar (markIndentAt position) fault) : Unshowable source position (.mark fault)
  | row {text : Text} {number : Int} (given : source = some text) (filled : text ≠ [])
      (short : ¬ Overlong position.line ∧ ¬ Overlong position.column)
      (near : 1 ≤ position.line → position.line ≤ (Text.lines text).length →
        markIndentAt position < 2 ^ 36)
      (shown : Shows text position.line number) (long : Overlong number) :
      Unshowable source position .tooManyDigits

theorem ofIndent?_eq_some_iff {indent : Nat} {fault : MarkFault} :
    MarkFault.ofIndent? indent = some fault ↔ TooFar indent fault := by
  unfold MarkFault.ofIndent?
  constructor
  · intro found
    split at found
    next far =>
      cases found
      exact .lengths (by omega)
    next near =>
      split at found
      next far =>
        cases found
        exact .memory (by omega) (by omega)
      next => cases found
  · rintro (far | ⟨far, near⟩)
    · rw [if_pos (by omega)]
    · rw [if_neg (by omega), if_pos (by omega)]

theorem ofIndent?_eq_none_iff {indent : Nat} :
    MarkFault.ofIndent? indent = none ↔ indent < 2 ^ 36 := by
  unfold MarkFault.ofIndent?
  split
  next far => exact iff_of_false (by simp) (by omega)
  next =>
    split
    next far => exact iff_of_false (by simp) (by omega)
    next near => exact iff_of_true rfl (by omega)

theorem TooFar.not_near {indent : Nat} {fault : MarkFault} (far : TooFar indent fault) :
    ¬ indent < 2 ^ 36 := by
  cases far <;> omega

namespace Unshowable

variable {source : Option Text} {text : Text} {position : Position} {fault : RenderFault}

theorem iff_of_long (long : Overlong position.line ∨ Overlong position.column) :
    Unshowable source position fault ↔ fault = .tooManyDigits := by
  constructor
  · intro unshowable
    cases unshowable with
    | mark _ _ short => exact absurd long (not_or.mpr short)
    | _ => rfl
  · intro same
    rw [same]
    exact .place long

theorem iff_of_sourceless (empty : ∀ text, source = some text → text = []) :
    Unshowable source position fault ↔
      fault = .tooManyDigits ∧ (Overlong position.line ∨ Overlong position.column) := by
  constructor
  · intro unshowable
    cases unshowable with
    | place long => exact ⟨rfl, long⟩
    | mark given filled => exact absurd (empty _ given) filled
    | row given filled => exact absurd (empty _ given) filled
  · rintro ⟨rfl, long⟩
    exact .place long

theorem iff_of_far {indent : MarkFault} (filled : text ≠ [])
    (short : ¬ (Overlong position.line ∨ Overlong position.column)) (low : 1 ≤ position.line)
    (high : position.line ≤ (Text.lines text).length)
    (far : TooFar (markIndentAt position) indent) :
    Unshowable (some text) position fault ↔ fault = .mark indent := by
  constructor
  · intro unshowable
    cases unshowable with
    | place long => exact absurd long short
    | mark _ _ _ _ _ far' =>
        have same := (ofIndent?_eq_some_iff.mpr far').symm.trans (ofIndent?_eq_some_iff.mpr far)
        rw [Option.some.inj same]
    | row given _ _ near =>
        cases given
        exact absurd (near low high) far.not_near
  · intro same
    rw [same]
    exact .mark rfl filled (not_or.mp short) low high far

theorem iff_of_near (filled : text ≠ [])
    (short : ¬ (Overlong position.line ∨ Overlong position.column))
    (near : 1 ≤ position.line → position.line ≤ (Text.lines text).length →
      markIndentAt position < 2 ^ 36) :
    Unshowable (some text) position fault ↔
      fault = .tooManyDigits ∧ ∃ number, Shows text position.line number ∧ Overlong number := by
  constructor
  · intro unshowable
    cases unshowable with
    | place long => exact absurd long short
    | mark given _ _ low high far =>
        cases given
        exact absurd (near low high) far.not_near
    | row given _ _ _ shown long =>
        cases given
        exact ⟨rfl, _, shown, long⟩
  · rintro ⟨rfl, number, shown, long⟩
    exact .row rfl filled (not_or.mp short) near shown long

end Unshowable

namespace Context

variable {text : Text} {position : Position} {fault : RenderFault}

theorem isTooLong_iff {number : Int} : isTooLong number = true ↔ Overlong number := by
  rw [isTooLong, decide_eq_true_eq]
  rfl

theorem mem_rowNumbers_around {file : Option Path} {number : Int} :
    number ∈ (around file text position).rowNumbers ↔ Shows text position.line number := by
  unfold around rowNumbers Shows
  split
  next absent => cases absent
  next empty => simp [Option.some.inj empty]
  next shown filled same =>
    obtain rfl := Option.some.inj same
    simp only [List.mem_map, List.mem_range, firstNumber, show defaultRadius = 2 from rfl]
      at filled ⊢
    constructor
    · rintro ⟨index, within, rfl⟩
      exact ⟨filled, by omega, by omega⟩
    · rintro ⟨-, low, high⟩
      exact ⟨(number - max 1 (position.line - 2)).toNat, by omega, by omega⟩

theorem markFault?_around (file : Option Path) (filled : text ≠ []) :
    (around file text position).markFault? =
      if 1 ≤ position.line ∧ position.line ≤ (Text.lines text).length then
        MarkFault.ofIndent? (markIndentAt position)
      else none := by
  by_cases empty : SceneScript.excerpt text position.line defaultRadius = []
  next =>
    have outside := outside_of_excerpt_nil filled empty
    rw [if_neg (by omega)]
    simp [around, markFault?, empty]
  next =>
    have lines : Text.lines (SceneScript.excerpt text position.line defaultRadius) =
        window text position.line := lines_excerpt_of_ne_nil empty
    have rows : window text position.line ≠ [] := (around_ne_nil file position.column empty).1
    have clipped : (max (position.column - 1) 0).toNat = (position.column - 1).toNat := by omega
    obtain ⟨c, rest, same⟩ := List.exists_cons_of_ne_nil empty
    simp only [around, markFault?, same] at lines ⊢
    rw [lines, markIndentAt, clipped, firstNumber, show defaultRadius = 2 from rfl]
    by_cases inside : 1 ≤ position.line ∧ position.line ≤ (Text.lines text).length
    · have length := length_window inside.1 inside.2
      rw [if_pos inside, if_neg (by omega), markIndent, length_gutter]
    · rw [if_neg inside, if_pos (window_apart rows (by omega))]

theorem isTooLong_place_iff : (isTooLong position.line || isTooLong position.column) = true ↔
    Overlong position.line ∨ Overlong position.column := by
  rw [Bool.or_eq_true, isTooLong_iff, isTooLong_iff]

theorem any_isTooLong_around {file : Option Path} :
    (around file text position).rowNumbers.any isTooLong = true ↔
      ∃ number, Shows text position.line number ∧ Overlong number := by
  simp only [List.any_eq_true, mem_rowNumbers_around, isTooLong_iff]

-- What is written first fails first: the place, then the mark, whatever the rows below it are.
theorem renderFault?_around (file : Option Path) (filled : text ≠ []) :
    (around file text position).renderFault? = some fault ↔
      Unshowable (some text) position fault := by
  rw [renderFault?, markFault?_around file filled]
  change (if (isTooLong position.line || isTooLong position.column) = true then _ else _) = _ ↔ _
  by_cases long : Overlong position.line ∨ Overlong position.column
  next =>
    rw [if_pos (isTooLong_place_iff.mpr long), Unshowable.iff_of_long long, Option.some.injEq,
      eq_comm]
  next =>
    rw [if_neg (mt isTooLong_place_iff.mp long)]
    split
    next indent found =>
      obtain ⟨⟨low, high⟩, found⟩ := Option.ite_none_right_eq_some.mp found
      rw [Unshowable.iff_of_far filled long low high (ofIndent?_eq_some_iff.mp found),
        Option.some.injEq, eq_comm]
    next found =>
      have near (low : 1 ≤ position.line) (high : position.line ≤ (Text.lines text).length) :
          markIndentAt position < 2 ^ 36 := by
        rw [if_pos ⟨low, high⟩] at found
        exact ofIndent?_eq_none_iff.mp found
      rw [Unshowable.iff_of_near filled long near, Option.ite_none_right_eq_some,
        any_isTooLong_around, Option.some.injEq, and_comm, eq_comm]

theorem format_eq_error_iff {context : Context} :
    context.format = .error fault ↔ context.renderFault? = some fault := by
  unfold format
  split <;> simp_all

theorem format_of_faultless {context : Context} (faultless : ∀ fault, context.format ≠ .error fault) :
    context.format = .ok context.render := by
  unfold format at faultless ⊢
  split
  next fault found => exact absurd (by rw [found]) (faultless fault)
  next => rfl

end Context

theorem Origin.format_eq_error_iff (origin : Origin) (position : Position) {fault : RenderFault} :
    (Context.mk origin.file position (origin.excerptAt position.line)).format = .error fault ↔
      Unshowable origin.text position fault := by
  rw [Context.format_eq_error_iff]
  obtain ⟨file, source⟩ := origin
  match source with
  | some (c :: rest) => exact Context.renderFault?_around file (by simp)
  | none | some [] =>
      -- Nothing but the place is written.
      rw [Unshowable.iff_of_sourceless (by simp), ← Context.isTooLong_place_iff]
      change (if (Context.isTooLong position.line || Context.isTooLong position.column) = true
        then _ else none) = _ ↔ _
      rw [Option.ite_none_right_eq_some, Option.some.injEq, and_comm, eq_comm]

/-- A position in or out of a text is written with the rows around it, numbered as the text is, or
else the first thing that cannot be written is reported. -/
theorem format_around (file : Option Path) {text : Text} (filled : text ≠ []) (line column : Int) :
    (∀ fault, (Context.around file text ⟨line, column⟩).format = .error fault ↔
        Unshowable (some text) ⟨line, column⟩ fault) ∧
      ((∀ fault, ¬ Unshowable (some text) ⟨line, column⟩ fault) → ∃ rows,
        (Context.around file text ⟨line, column⟩).format =
          .ok (locationText file line column ++ rows.flatMap fun row => '\n' :: row.toText) ∧
        (∀ row ∈ rows, '\n' ∉ row.toText) ∧ NumbersLines text line column rows) := by
  have faults (fault : RenderFault) :
      (Context.around file text ⟨line, column⟩).format = .error fault ↔
        Unshowable (some text) ⟨line, column⟩ fault := by
    rw [Context.format_eq_error_iff, Context.renderFault?_around file filled]
  refine ⟨faults, fun showable => ?_⟩
  obtain ⟨rows, rendered, whole, numbers⟩ := render_around file filled line column
  refine ⟨rows, ?_, whole, numbers⟩
  rw [← rendered]
  exact Context.format_of_faultless fun fault failed => showable fault ((faults fault).mp failed)

def blankRows : Text := "\n\n"

theorem blankRows_numbered :
    blankRows ≠ [] ∧ (∀ fault, ¬ Unshowable (some blankRows) ⟨2, -4⟩ fault) ∧
      ∃ rows, (Context.around none blankRows ⟨2, -4⟩).format =
          .ok ("<script>:2:-4" ++ rows.flatMap fun row => '\n' :: row.toText) ∧
        (∀ row ∈ rows, '\n' ∉ row.toText) ∧ NumbersLines blankRows 2 (-4) rows := by
  have filled : blankRows ≠ [] := by decide
  obtain ⟨faults, written⟩ := format_around none filled 2 (-4)
  have showable : ∀ fault, ¬ Unshowable (some blankRows) ⟨2, -4⟩ fault := by
    intro fault
    rw [← faults]
    have fine : (Context.around none blankRows ⟨2, -4⟩).renderFault? = none := by decide +kernel
    rw [Context.format_eq_error_iff, fine]
    simp
  exact ⟨filled, showable, written showable⟩

theorem format_fails_at_far_column :
    ['x'] ≠ ([] : Text) ∧ ¬ ∃ rows, (Context.around none ['x'] ⟨1, 2 ^ 63⟩).format =
        .ok (locationText none 1 (2 ^ 63) ++ rows.flatMap fun row => '\n' :: row.toText) ∧
      NumbersLines ['x'] 1 (2 ^ 63) rows := by
  refine ⟨by simp, ?_⟩
  rintro ⟨rows, written, -⟩
  have far : (Context.around none ['x'] ⟨1, 2 ^ 63⟩).renderFault? =
      some (.mark .beyondLengths) := by
    decide +kernel
  rw [Context.format_eq_error_iff.mpr far] at written
  cases written

end SceneScript
