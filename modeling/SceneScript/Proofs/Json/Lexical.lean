import SceneScript.Json.Reader
import SceneScript.Json.Writer
import Mathlib.Data.List.Forall2

set_option autoImplicit false

namespace SceneScript.Json

section Characters

inductive Spelled : Char → Text → Prop where
  | itself (c : Char) (plain : standsForItself c) : Spelled c [c]
  | short {mark c : Char} (listed : (mark, c) ∈ shortEscapes) : Spelled c ['\\', mark]
  | unit {code : Nat} {digits : Text} (read : readUnit digits = some (code, []))
      (high : ¬ isHighSurrogate code) (low : ¬ isLowSurrogate code) :
      Spelled (Char.ofNat code) ('\\' :: 'u' :: digits)
  | pair {high low : Nat} {first second : Text} (read : readUnit first = some (high, []))
      (isHigh : isHighSurrogate high) (more : readUnit second = some (low, []))
      (isLow : isLowSurrogate low) :
      Spelled (Char.ofNat (combineSurrogates high low))
        ('\\' :: 'u' :: (first ++ '\\' :: 'u' :: second))

theorem space_le_of_hexValue? {c : Char} {value : Nat} (found : hexValue? c = some value) :
    0x20 ≤ c.toNat := by
  have above {first : Char} (le : first ≤ c) : first.toNat ≤ c.toNat := le
  unfold hexValue? at found
  split at found
  next range => exact Nat.le_trans (by decide) (above range.1)
  next =>
    split at found
    next range => exact Nat.le_trans (by decide) (above range.1)
    next =>
      split at found
      next range => exact Nat.le_trans (by decide) (above range.1)
      next => cases found

theorem readUnit_closed {digits : Text} {code : Nat} (read : readUnit digits = some (code, [])) :
    (∀ c ∈ digits, 0x20 ≤ c.toNat) ∧ ∀ rest, readUnit (digits ++ rest) = some (code, rest) := by
  unfold readUnit at read
  split at read
  next a b c d after =>
    simp only [Option.bind_eq_bind, Option.bind_eq_some_iff, Option.pure_def, Option.some.injEq,
      Prod.mk.injEq] at read
    obtain ⟨_, first, _, second, _, third, _, fourth, rfl, rfl⟩ := read
    constructor
    · simp [space_le_of_hexValue? first, space_le_of_hexValue? second,
        space_le_of_hexValue? third, space_le_of_hexValue? fourth]
    · simp [readUnit, first, second, third, fourth]
  next => cases read

theorem readUnit_hexadecimal {code : Nat} (control : code < 0x20) :
    readUnit (Text.hexadecimal 4 code) = some (code, []) := by
  have checked : ∀ code < 0x20, readUnit (Text.hexadecimal 4 code) = some (code, []) := by decide
  exact checked code control

namespace Spelled

theorem read {c : Char} {spelling : Text} (spelled : Spelled c spelling) (rest : Text) :
    readChar (spelling ++ rest) = some (c, rest) := by
  cases spelled with
  | itself _ plain =>
      have apart : c ≠ '\\' := by
        rintro rfl
        cases plain
      rw [List.singleton_append, readChar.eq_3 _ _ (by simp [apart]) (by simp [apart]),
        if_pos plain]
  | @short mark _ listed =>
      have entries : shortEscapes.all fun entry =>
          entry.1 ≠ 'u' ∧ shortEscapes.lookup entry.1 = some entry.2 := by decide
      have entry := List.all_eq_true.mp entries _ listed
      obtain ⟨apart, found⟩ := of_decide_eq_true entry
      simp only [List.cons_append, List.nil_append]
      rw [readChar.eq_2 _ _ (by simp [apart]), found, Option.map_some]
  | unit read high low =>
      simp only [List.cons_append, readChar, readCodePoint, (readUnit_closed read).2, high, low,
        Bool.false_eq_true, ↓reduceIte]
  | pair read isHigh more isLow =>
      simp only [List.cons_append, List.append_assoc, readChar, readCodePoint,
        (readUnit_closed read).2, isHigh, ↓reduceIte, (readUnit_closed more).2, isLow]

theorem space_le {c : Char} {spelling : Text} (spelled : Spelled c spelling) :
    ∀ d ∈ spelling, 0x20 ≤ d.toNat := by
  cases spelled with
  | itself _ plain =>
      simp only [standsForItself, Bool.and_eq_true, decide_eq_true_eq] at plain
      simpa using plain.2
  | short listed =>
      have marks : shortEscapes.all fun entry => 0x20 ≤ entry.1.toNat := by decide
      simpa using List.all_eq_true.mp marks _ listed
  | unit read _ _ => simpa using (readUnit_closed read).1
  | pair read _ more _ =>
      intro d within
      simp only [List.mem_cons, List.mem_append] at within
      rcases within with rfl | rfl | inFirst | rfl | rfl | inSecond
      · decide
      · decide
      · exact (readUnit_closed read).1 d inFirst
      · decide
      · decide
      · exact (readUnit_closed more).1 d inSecond

theorem escapedChar (c : Char) : Spelled c (escapedChar c) := by
  unfold Json.escapedChar
  split_ifs with marked back tab line form carriage control
  · rcases marked with rfl | rfl
    · exact .short (by decide)
    · exact .short (by decide)
  · exact back ▸ .short (by decide)
  · exact tab ▸ .short (by decide)
  · exact line ▸ .short (by decide)
  · exact form ▸ .short (by decide)
  · exact carriage ▸ .short (by decide)
  · -- Only control characters are written as code units, far below the surrogates.
    have first : c.toNat < 0xd800 := Nat.lt_trans control (by decide)
    have plain := unit (readUnit_hexadecimal control) (by simp [isHighSurrogate]; omega)
      (by simp [isLowSurrogate]; omega)
    rwa [Char.ofNat_toNat] at plain
  · rw [not_or] at marked
    exact .itself c (by simp [standsForItself, marked, Nat.not_lt.mp control])

end Spelled

end Characters

section Strings

theorem readString_of_readChar {text rest : Text} {c : Char}
    (read : readChar text = some (c, rest)) :
    readString text = (readString rest).map fun (inner, after) => (c :: inner, after) := by
  rw [readString.eq_def]
  split
  next => cases read
  next =>
    split
    next failed => rw [read] at failed; cases failed
    next found =>
      rw [read] at found
      cases found
      cases readString rest <;> rfl

theorem readString_spelled {inner : Text} {pieces : List Text}
    (spelled : List.Forall₂ Spelled inner pieces) (rest : Text) :
    readString (pieces.flatten ++ '"' :: rest) = some (inner, rest) := by
  induction spelled with
  | nil => rw [List.flatten_nil, List.nil_append, readString]
  | cons first _ ih =>
      rw [List.flatten_cons, List.append_assoc, readString_of_readChar (first.read _), ih,
        Option.map_some]

theorem space_le_of_spelled {inner : Text} {pieces : List Text}
    (spelled : List.Forall₂ Spelled inner pieces) : ∀ c ∈ pieces.flatten, 0x20 ≤ c.toNat := by
  induction spelled with
  | nil => simp
  | cons first _ ih =>
      rw [List.flatten_cons]
      exact List.forall_mem_append.mpr ⟨first.space_le, ih⟩

end Strings

section Texts

inductive Written : Text → List Lexeme → Prop where
  | nil : Written [] []
  | separator {c : Char} (blank : separates c) {rest : Text} {lexemes : List Lexeme}
      (written : Written rest lexemes) : Written (c :: rest) lexemes
  | mark {c : Char} {lexeme : Lexeme} (named : mark? c = some lexeme) {rest : Text}
      {lexemes : List Lexeme} (written : Written rest lexemes) :
      Written (c :: rest) (lexeme :: lexemes)
  | string {inner : Text} {pieces : List Text} (spelled : List.Forall₂ Spelled inner pieces)
      {rest : Text} {lexemes : List Lexeme} (written : Written rest lexemes) :
      Written ('"' :: (pieces.flatten ++ '"' :: rest)) (.string inner :: lexemes)

theorem mark?_eq_some {c : Char} {lexeme : Lexeme} (named : mark? c = some lexeme) :
    c ≠ '"' ∧ separates c = false ∧ 0x20 ≤ c.toNat := by
  unfold mark? at named
  split_ifs at named with same same same same same same
  all_goals
    subst same
    decide

theorem readLexeme_string (limits : Limits) {text inner rest : Text}
    (read : readString text = some (inner, rest)) :
    readLexeme limits ('"' :: text) = some (.string inner, rest) := by
  rw [readLexeme, read, Option.map_some]

theorem scan_of_readLexeme {limits : Limits} {c : Char} {rest after : Text} {lexeme : Lexeme}
    (solid : separates c = false) (read : readLexeme limits (c :: rest) = some (lexeme, after)) :
    scan limits (c :: rest) = (scan limits after).map (lexeme :: ·) := by
  rw [scan.eq_def]
  simp only [solid, Bool.false_eq_true, ↓reduceIte]
  split
  next failed => rw [read] at failed; cases failed
  next found =>
    rw [read] at found
    cases found
    cases scan limits after <;> rfl

namespace Written

variable {text more : Text} {lexemes others : List Lexeme}

theorem append (first : Written text lexemes) (second : Written more others) :
    Written (text ++ more) (lexemes ++ others) := by
  induction first with
  | nil => exact second
  | separator blank _ ih => exact .separator blank ih
  | mark named _ ih => exact .mark named ih
  | string spelled _ ih =>
      simpa only [List.cons_append, List.append_assoc] using Written.string spelled ih

theorem scan_append (limits : Limits) (written : Written text lexemes) (rest : Text) :
    Json.scan limits (text ++ rest) = (Json.scan limits rest).map (lexemes ++ ·) := by
  induction written with
  | nil => exact Option.map_id_apply.symm
  | separator blank _ ih => rw [List.cons_append, Json.scan, if_pos blank, ih]
  | @mark c lexeme named after _ _ ih =>
      obtain ⟨noQuote, solid, _⟩ := mark?_eq_some named
      have read : readLexeme limits (c :: (after ++ rest)) = some (lexeme, after ++ rest) := by
        rw [readLexeme.eq_3 _ _ _ (by simp [noQuote]), named]
      rw [List.cons_append, scan_of_readLexeme solid read, ih, Option.map_map]
      rfl
  | string spelled _ ih =>
      rw [List.cons_append, List.append_assoc, List.cons_append,
        scan_of_readLexeme (by decide) (readLexeme_string limits (readString_spelled spelled _)),
        ih, Option.map_map]
      rfl

theorem scan (limits : Limits) (written : Written text lexemes) :
    scan limits text = some lexemes := by
  have whole := written.scan_append limits []
  rwa [List.append_nil, Json.scan, Option.map_some, List.append_nil] at whole

theorem separates_or_space_le (written : Written text lexemes) :
    ∀ c ∈ text, separates c ∨ 0x20 ≤ c.toNat := by
  induction written with
  | nil => simp
  | separator blank _ ih => exact List.forall_mem_cons.mpr ⟨.inl blank, ih⟩
  | mark named _ ih => exact List.forall_mem_cons.mpr ⟨.inr (mark?_eq_some named).2.2, ih⟩
  | string spelled _ ih =>
      intro c within
      rw [List.mem_cons, List.mem_append, List.mem_cons] at within
      rcases within with rfl | inside | rfl | behind
      · exact .inr (by decide)
      · exact .inr (space_le_of_spelled spelled c inside)
      · exact .inr (by decide)
      · exact ih c behind

theorem writeString (inner : Text) : Written (writeString inner) [.string inner] := by
  have spelled : List.Forall₂ Spelled inner (inner.map Json.escapedChar) :=
    List.forall₂_map_right_iff.mpr (List.forall₂_same.mpr fun c _ => .escapedChar c)
  simpa [Json.writeString, List.flatMap_def] using string spelled nil

theorem lineBreak (layout : Layout) (depth : Nat) : Written (layout.lineBreak depth) [] := by
  have blanks (count : Nat) : Written (List.replicate count ' ') [] := by
    induction count with
    | zero => exact .nil
    | succ count ih => exact .separator (by decide) ih
  cases layout with
  | compact => exact .nil
  | indented width => exact .separator (by decide) (blanks _)

theorem afterKey (layout : Layout) : Written layout.afterKey [.colon] := by
  cases layout with
  | compact => exact .mark rfl .nil
  | indented width => exact .mark rfl (.separator (by decide) .nil)

end Written

end Texts

end SceneScript.Json
