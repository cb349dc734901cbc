import SceneScript.Json.Basic
import SceneScript.Text.Numeral

set_option autoImplicit false

namespace SceneScript

namespace Json

structure Limits where
  digits : Option Nat
  nesting : Option Nat
deriving DecidableEq

namespace Limits

def unlimited : Limits := ⟨none, none⟩

def admits (limit : Option Nat) (count : Nat) : Bool := limit.all (count ≤ ·)

end Limits

inductive Lexeme where
  | openArray
  | closeArray
  | openObject
  | closeObject
  | comma
  | colon
  | string (text : Text)
  | scalar (value : Json)

def separates (c : Char) : Bool := c = ' ' || c = '\t' || c = '\n' || c = '\r'

def mark? (c : Char) : Option Lexeme :=
  if c = '[' then some .openArray
  else if c = ']' then some .closeArray
  else if c = '{' then some .openObject
  else if c = '}' then some .closeObject
  else if c = ',' then some .comma
  else if c = ':' then some .colon
  else none

def hexValue? (c : Char) : Option Nat :=
  if '0' ≤ c ∧ c ≤ '9' then some (c.toNat - '0'.toNat)
  else if 'a' ≤ c ∧ c ≤ 'f' then some (c.toNat - 'a'.toNat + 10)
  else if 'A' ≤ c ∧ c ≤ 'F' then some (c.toNat - 'A'.toNat + 10)
  else none

def readUnit : Text → Option (Nat × Text)
  | a :: b :: c :: d :: rest => do
      let code := 16 * (16 * (16 * (← hexValue? a) + (← hexValue? b)) + (← hexValue? c))
        + (← hexValue? d)
      return (code, rest)
  | _ => none

def isHighSurrogate (unit : Nat) : Bool := 0xd800 ≤ unit && unit < 0xdc00

def isLowSurrogate (unit : Nat) : Bool := 0xdc00 ≤ unit && unit < 0xe000

def combineSurrogates (high low : Nat) : Nat := 0x10000 + (high - 0xd800) * 0x400 + (low - 0xdc00)

def readCodePoint (text : Text) : Option (Char × Text) :=
  match readUnit text with
  | none => none
  | some (unit, rest) =>
      if isHighSurrogate unit then
        match rest with
        | '\\' :: 'u' :: more =>
            match readUnit more with
            | some (low, rest) =>
                if isLowSurrogate low then some (Char.ofNat (combineSurrogates unit low), rest)
                else none
            | none => none
        | _ => none
      else if isLowSurrogate unit then none
      else some (Char.ofNat unit, rest)

def shortEscapes : List (Char × Char) :=
  [('"', '"'), ('\\', '\\'), ('/', '/'), ('b', '\x08'), ('f', '\x0c'), ('n', '\n'), ('r', '\r'),
    ('t', '\t')]

def standsForItself (c : Char) : Bool := c ≠ '"' && c ≠ '\\' && 0x20 ≤ c.toNat

def readChar : Text → Option (Char × Text)
  | '\\' :: 'u' :: rest => readCodePoint rest
  | '\\' :: mark :: rest => (shortEscapes.lookup mark).map fun c => (c, rest)
  | c :: rest => if standsForItself c then some (c, rest) else none
  | [] => none

theorem length_readUnit {text rest : Text} {unit : Nat}
    (found : readUnit text = some (unit, rest)) : rest.length < text.length := by
  unfold readUnit at found
  split at found
  next =>
    simp only [Option.bind_eq_bind, Option.bind_eq_some_iff, Option.pure_def, Option.some.injEq,
      Prod.mk.injEq] at found
    obtain ⟨_, _, _, _, _, _, _, _, _, same⟩ := found
    simp only [← same, List.length_cons]
    omega
  next => simp at found

theorem length_readCodePoint {text rest : Text} {c : Char}
    (found : readCodePoint text = some (c, rest)) : rest.length < text.length := by
  unfold readCodePoint at found
  split at found
  next => simp at found
  next unit after first =>
    have shorter := length_readUnit first
    split at found
    next =>
      split at found
      next more =>
        split at found
        next low left second =>
          have further := length_readUnit second
          split at found
          next =>
            simp only [Option.some.injEq, Prod.mk.injEq] at found
            simp only [List.length_cons] at shorter
            rw [← found.2]
            omega
          next => simp at found
        next => simp at found
      next => simp at found
    next =>
      split at found
      next => simp at found
      next =>
        simp only [Option.some.injEq, Prod.mk.injEq] at found
        rw [← found.2]
        exact shorter

theorem length_readChar {text rest : Text} {c : Char} (found : readChar text = some (c, rest)) :
    rest.length < text.length := by
  unfold readChar at found
  split at found
  next =>
    have := length_readCodePoint found
    simp only [List.length_cons]
    omega
  next =>
    simp only [Option.map_eq_some_iff, Prod.mk.injEq] at found
    obtain ⟨_, _, _, same⟩ := found
    simp only [← same, List.length_cons]
    omega
  next =>
    split at found
    next =>
      simp only [Option.some.injEq, Prod.mk.injEq] at found
      simp [← found.2]
    next => simp at found
  next => simp at found

def readString (text : Text) : Option (Text × Text) :=
  match text with
  | '"' :: rest => some ([], rest)
  | text =>
      match _ : readChar text with
      | none => none
      | some (c, rest) =>
          match readString rest with
          | none => none
          | some (inner, after) => some (c :: inner, after)
termination_by text.length
decreasing_by exact length_readChar ‹_›

theorem length_readString {text inner rest : Text}
    (found : readString text = some (inner, rest)) : rest.length < text.length := by
  fun_induction readString text generalizing inner rest with
  | case1 =>
      simp only [Option.some.injEq, Prod.mk.injEq] at found
      simp [← found.2]
  | case2 => simp at found
  | case3 => simp at found
  | case4 text _ c after first inner' after' second ih =>
      simp only [Option.some.injEq, Prod.mk.injEq] at found
      have shorter := length_readChar first
      have further := ih second
      rw [← found.2]
      omega

def isDecimalDigit (c : Char) : Bool := '0' ≤ c && c ≤ '9'

def isWhole : Text → Bool
  | [] => false
  | ['0'] => true
  | first :: _ => first ≠ '0'

def readDigits (text : Text) : Text × Text :=
  (text.takeWhile isDecimalDigit, text.dropWhile isDecimalDigit)

def readFraction : Text → Option (Option Text × Text)
  | '.' :: rest =>
      let (digits, rest) := readDigits rest
      if digits = [] then none else some (some digits, rest)
  | rest => some (none, rest)

def readSignedDigits (text : Text) : Option (Int × Text) :=
  let (negative, rest) := Text.splitSign text
  let (digits, rest) := readDigits rest
  if digits = [] then none
  else some (if negative then -(Text.positional digits : Int) else Text.positional digits, rest)

def readExponent : Text → Option (Option Int × Text)
  | c :: rest =>
      if c = 'e' ∨ c = 'E' then (readSignedDigits rest).map fun (value, rest) => (some value, rest)
      else some (none, c :: rest)
  | [] => some (none, [])

def number (negative : Bool) (whole : Text) (fraction : Option Text) (exponent : Option Int) :
    Json :=
  match fraction, exponent with
  | none, none =>
      let magnitude : Int := Text.positional whole
      .integer (if negative then -magnitude else magnitude)
  | fraction, exponent =>
      let places := fraction.getD []
      .decimal ⟨negative, Text.positional (whole ++ places), exponent.getD 0 - places.length⟩

def readMagnitude (limits : Limits) (negative : Bool) (text : Text) : Option (Json × Text) :=
  let (whole, rest) := readDigits text
  if isWhole whole && Limits.admits limits.digits whole.length then
    match readFraction rest with
    | none => none
    | some (fraction, rest) =>
        match readExponent rest with
        | none => none
        | some (exponent, rest) => some (number negative whole fraction exponent, rest)
  else none

def readNumber (limits : Limits) : Text → Option (Json × Text)
  | '-' :: rest => readMagnitude limits true rest
  | rest => readMagnitude limits false rest

theorem length_readDigits (text : Text) : (readDigits text).2.length ≤ text.length :=
  (List.dropWhile_suffix isDecimalDigit).length_le

theorem length_readFraction {text rest : Text} {fraction : Option Text}
    (found : readFraction text = some (fraction, rest)) : rest.length ≤ text.length := by
  unfold readFraction at found
  split at found
  next after =>
    have shorter := length_readDigits after
    simp only at found
    split at found
    next => simp at found
    next =>
      simp only [Option.some.injEq, Prod.mk.injEq] at found
      rw [← found.2, List.length_cons]
      omega
  next => simp_all

theorem length_readSignedDigits {text rest : Text} {value : Int}
    (found : readSignedDigits text = some (value, rest)) : rest.length ≤ text.length := by
  unfold readSignedDigits at found
  simp only at found
  split at found
  next => simp at found
  next =>
    simp only [Option.some.injEq, Prod.mk.injEq] at found
    rw [← found.2]
    exact Nat.le_trans (length_readDigits _) (Text.length_splitSign text)

theorem length_readExponent {text rest : Text} {exponent : Option Int}
    (found : readExponent text = some (exponent, rest)) : rest.length ≤ text.length := by
  unfold readExponent at found
  split at found
  next c after =>
    split at found
    next =>
      simp only [Option.map_eq_some_iff, Prod.mk.injEq, Prod.exists] at found
      obtain ⟨value, left, read, _, same⟩ := found
      have := length_readSignedDigits read
      rw [← same, List.length_cons]
      omega
    next => simp_all
  next => simp_all

theorem length_readMagnitude {limits : Limits} {negative : Bool} {text rest : Text} {value : Json}
    (found : readMagnitude limits negative text = some (value, rest)) :
    rest.length < text.length := by
  unfold readMagnitude at found
  simp only at found
  split at found
  next whole =>
    split at found
    next => simp at found
    next fraction after first =>
      split at found
      next => simp at found
      next exponent left second =>
        simp only [Option.some.injEq, Prod.mk.injEq] at found
        have fewer := length_readFraction first
        have further := length_readExponent second
        have taken : 0 < (readDigits text).1.length := by
          cases digits : (readDigits text).1 with
          | nil => simp [digits, isWhole] at whole
          | cons => simp
        have total : (readDigits text).1.length + (readDigits text).2.length = text.length := by
          simp only [readDigits, ← List.length_append, List.takeWhile_append_dropWhile]
        rw [← found.2]
        omega
  next => simp at found

theorem length_readNumber {limits : Limits} {text rest : Text} {value : Json}
    (found : readNumber limits text = some (value, rest)) : rest.length < text.length := by
  unfold readNumber at found
  split at found
  next =>
    have := length_readMagnitude found
    simp only [List.length_cons]
    omega
  next => exact length_readMagnitude found

def words : List (Text × Json) :=
  [("null", .null), ("true", .boolean true), ("false", .boolean false),
    ("NaN", .nonFinite .notANumber), ("Infinity", .nonFinite (.infinite false)),
    ("-Infinity", .nonFinite (.infinite true))]

def readWord (text : Text) : Option (Json × Text) :=
  (words.find? fun word => word.1.isPrefixOf text).map fun word =>
    (word.2, text.drop word.1.length)

theorem length_readWord {text rest : Text} {value : Json}
    (found : readWord text = some (value, rest)) : rest.length < text.length := by
  simp only [readWord, Option.map_eq_some_iff, Prod.mk.injEq] at found
  obtain ⟨word, chosen, _, same⟩ := found
  have fits : word.1.isPrefixOf text = true := by
    have := List.find?_some chosen
    exact this
  have longer := (List.isPrefixOf_iff_prefix.mp fits).length_le
  have known : ∀ entry ∈ words, 0 < entry.1.length := by
    simp [words]
  have := known word (List.mem_of_find?_eq_some chosen)
  rw [← same, List.length_drop]
  omega

def readLexeme (limits : Limits) : Text → Option (Lexeme × Text)
  | [] => none
  | '"' :: rest => (readString rest).map fun (text, rest) => (.string text, rest)
  | c :: rest =>
      match mark? c with
      | some mark => some (mark, rest)
      | none =>
          (readWord (c :: rest) <|> readNumber limits (c :: rest)).map fun (value, rest) =>
            (.scalar value, rest)

theorem length_readLexeme {limits : Limits} {text rest : Text} {lexeme : Lexeme}
    (found : readLexeme limits text = some (lexeme, rest)) : rest.length < text.length := by
  unfold readLexeme at found
  split at found
  next => simp at found
  next after =>
    simp only [Option.map_eq_some_iff, Prod.mk.injEq, Prod.exists] at found
    obtain ⟨inner, left, read, _, same⟩ := found
    have := length_readString read
    rw [← same, List.length_cons]
    omega
  next c after _ =>
    split at found
    next =>
      simp only [Option.some.injEq, Prod.mk.injEq] at found
      simp [← found.2]
    next =>
      simp only [Option.map_eq_some_iff, Prod.mk.injEq, Prod.exists] at found
      obtain ⟨value, left, read, _, same⟩ := found
      rw [← same]
      cases word : readWord (c :: after) with
      | some pair => exact length_readWord (by simpa [word] using read)
      | none => exact length_readNumber (by simpa [word] using read)

def scan (limits : Limits) (text : Text) : Option (List Lexeme) :=
  match text with
  | [] => some []
  | c :: rest =>
      if separates c then scan limits rest
      else
        match _ : readLexeme limits (c :: rest) with
        | none => none
        | some (lexeme, after) =>
            match scan limits after with
            | none => none
            | some lexemes => some (lexeme :: lexemes)
termination_by text.length
decreasing_by
  · simp
  · exact length_readLexeme ‹_›

inductive Frame where
  | items (done : List Json)
  | fields (done : Fields) (key : Text)

inductive State where
  | wantsValue (frames : List Frame)
  | wantsFirstItem (frames : List Frame)
  | wantsFirstKey (frames : List Frame)
  | wantsKey (frames : List Frame) (done : Fields)
  | wantsColon (frames : List Frame) (done : Fields) (key : Text)
  | holds (frames : List Frame) (value : Json)

namespace State

def enter (frames : List Frame) : Lexeme → Option State
  | .string text => some (.holds frames (.string text))
  | .scalar value => some (.holds frames value)
  | .openArray => some (.wantsFirstItem frames)
  | .openObject => some (.wantsFirstKey frames)
  | _ => none

def close (frames : List Frame) (value : Json) : Lexeme → Option State
  | .comma =>
      match frames with
      | [] => none
      | .items done :: frames => some (.wantsValue (.items (value :: done) :: frames))
      | .fields done key :: frames => some (.wantsKey frames (setField key value done))
  | .closeArray =>
      match frames with
      | .items done :: frames => some (.holds frames (.array (value :: done).reverse))
      | _ => none
  | .closeObject =>
      match frames with
      | .fields done key :: frames => some (.holds frames (.object (setField key value done)))
      | _ => none
  | _ => none

def step : State → Lexeme → Option State
  | wantsValue frames, lexeme => enter frames lexeme
  | wantsFirstItem frames, .closeArray => some (.holds frames (.array []))
  | wantsFirstItem frames, lexeme => enter (.items [] :: frames) lexeme
  | wantsFirstKey frames, .closeObject => some (.holds frames (.object []))
  | wantsFirstKey frames, .string key => some (.wantsColon frames [] key)
  | wantsKey frames done, .string key => some (.wantsColon frames done key)
  | wantsColon frames done key, .colon => some (.wantsValue (.fields done key :: frames))
  | holds frames value, lexeme => close frames value lexeme
  | _, _ => none

def frames : State → List Frame
  | wantsValue frames | wantsFirstItem frames | wantsFirstKey frames | wantsKey frames _
  | wantsColon frames _ _ | holds frames _ => frames

def stepWithin (nesting : Option Nat) (state : State) (lexeme : Lexeme) : Option State :=
  (state.step lexeme).filter fun next => Limits.admits nesting next.frames.length

def run (nesting : Option Nat) (state : State) (lexemes : List Lexeme) : Option State :=
  lexemes.foldlM (stepWithin nesting) state

def result? : State → Option Json
  | holds [] value => some value
  | _ => none

end State

def ofText? (limits : Limits) (text : Text) : Option Json := do
  let lexemes ← scan limits text
  let state ← (State.wantsValue []).run limits.nesting lexemes
  state.result?

end Json

end SceneScript
