import SceneScript.Json.Reader
import SceneScript.Proofs.MaximalRun

set_option autoImplicit false

namespace SceneScript.Json

section Spellings

def IsRun (digits : Text) : Prop := digits ≠ [] ∧ ∀ c ∈ digits, isDecimalDigit c = true

inductive FractionSpelled : Option Text → Text → Prop where
  | absent : FractionSpelled none []
  | present {digits : Text} (run : IsRun digits) : FractionSpelled (some digits) ('.' :: digits)

def signedValue (negative : Bool) (digits : Text) : Int :=
  if negative then -(Text.positional digits : Int) else Text.positional digits

inductive ExponentSpelled : Option Int → Text → Prop where
  | absent : ExponentSpelled none []
  | present {mark : Char} {sign digits : Text} {negative : Bool} (marked : mark = 'e' ∨ mark = 'E')
      (signed : (sign, negative) ∈ [([], false), (['+'], false), (['-'], true)])
      (run : IsRun digits) :
      ExponentSpelled (some (signedValue negative digits)) (mark :: (sign ++ digits))

def minus (negative : Bool) : Text := if negative then ['-'] else []

/-- The spellings of what is neither a string nor made of other values. Nothing but a single zero
may begin with a zero. -/
inductive ScalarSpelled (most : Option Nat) : Json → Text → Prop where
  | nullWord : ScalarSpelled most .null "null"
  | trueWord : ScalarSpelled most (.boolean true) "true"
  | falseWord : ScalarSpelled most (.boolean false) "false"
  | number {negative : Bool} {whole places power : Text} {fraction : Option Text}
      {exponent : Option Int} (run : IsRun whole)
      (unpadded : whole = ['0'] ∨ ∀ c ∈ whole.head?, c ≠ '0')
      (few : Limits.admits most whole.length) (divided : FractionSpelled fraction places)
      (scaled : ExponentSpelled exponent power) :
      ScalarSpelled most (Json.number negative whole fraction exponent)
        (minus negative ++ (whole ++ (places ++ power)))

def Ended (rest : Text) : Prop := ∀ c ∈ rest.head?, c ∈ [' ', '\t', '\n', '\r', ',', ']', '}']

end Spellings

section Digits

variable {digits rest : Text}

def Stops (marks : List Char) (rest : Text) : Prop :=
  ∀ c ∈ rest.head?, isDecimalDigit c = false ∧ c ∉ marks

theorem Stops.weaken {marks fewer : List Char} (stops : Stops marks rest)
    (subset : fewer ⊆ marks) : Stops fewer rest :=
  fun c first => ⟨(stops c first).1, fun held => (stops c first).2 (subset held)⟩

theorem Ended.stops (ended : Ended rest) : Stops ['.', 'e', 'E'] rest := by
  intro c first
  have closing : [' ', '\t', '\n', '\r', ',', ']', '}'].all
      fun c => isDecimalDigit c = false ∧ c ∉ ['.', 'e', 'E'] := by decide
  simpa using List.all_eq_true.mp closing c (ended c first)

theorem IsRun.exists_first (run : IsRun digits) :
    ∃ first more, digits = first :: more ∧ isDecimalDigit first = true := by
  obtain ⟨filled, inside⟩ := run
  obtain ⟨first, more, rfl⟩ := List.exists_cons_of_ne_nil filled
  exact ⟨first, more, rfl, inside first List.mem_cons_self⟩

theorem readDigits_append (inside : ∀ c ∈ digits, isDecimalDigit c = true)
    {marks : List Char} (stops : Stops marks rest) :
    readDigits (digits ++ rest) = (digits, rest) := by
  have maximal : MaximalRun isDecimalDigit (digits ++ rest) digits rest :=
    ⟨rfl, inside, fun c first => (stops c first).1⟩
  rw [readDigits, maximal.takeWhile_eq, maximal.dropWhile_eq]

theorem readFraction_spelled {fraction : Option Text} {places : Text}
    (divided : FractionSpelled fraction places) (stops : Stops ['.'] rest) :
    readFraction (places ++ rest) = some (fraction, rest) := by
  cases divided with
  | absent =>
      cases rest with
      | nil => rfl
      | cons c rest =>
          have noPoint : c ≠ '.' := by simpa using (stops c rfl).2
          rw [List.nil_append, readFraction.eq_2 _ (by simp [noPoint])]
  | present run =>
      rw [List.cons_append, readFraction, readDigits_append run.2 stops]
      simp [run.1]

theorem readSignedDigits_spelled {sign : Text} {negative : Bool} (run : IsRun digits)
    (signed : (sign, negative) ∈ [([], false), (['+'], false), (['-'], true)])
    (stops : Stops [] rest) :
    readSignedDigits (sign ++ (digits ++ rest)) =
      some (signedValue negative digits, rest) := by
  have split : Text.splitSign (sign ++ (digits ++ rest)) = (negative, digits ++ rest) := by
    obtain ⟨first, more, rfl, digit⟩ := run.exists_first
    have noSign : first ≠ '-' ∧ first ≠ '+' := by
      constructor <;> (intro same; rw [same] at digit; cases digit)
    simp only [List.mem_cons, Prod.mk.injEq, List.not_mem_nil, or_false] at signed
    rcases signed with ⟨rfl, rfl⟩ | ⟨rfl, rfl⟩ | ⟨rfl, rfl⟩
    · rw [List.nil_append, List.cons_append, Text.splitSign.eq_3 _ (by simp [noSign])
        (by simp [noSign])]
    · rfl
    · rfl
  simp [readSignedDigits, split, readDigits_append run.2 stops, run.1, signedValue]

theorem readExponent_spelled {exponent : Option Int} {power : Text}
    (scaled : ExponentSpelled exponent power) (stops : Stops ['e', 'E'] rest) :
    readExponent (power ++ rest) = some (exponent, rest) := by
  cases scaled with
  | absent =>
      cases rest with
      | nil => rfl
      | cons c rest =>
          have noMark : ¬ (c = 'e' ∨ c = 'E') := by simpa using (stops c rfl).2
          rw [List.nil_append, readExponent, if_neg noMark]
  | present marked signed run =>
      rw [List.cons_append, readExponent, if_pos marked, List.append_assoc,
        readSignedDigits_spelled run signed (stops.weaken (by simp)), Option.map_some]

theorem FractionSpelled.stops {fraction : Option Text} {places : Text}
    (divided : FractionSpelled fraction places) (stops : Stops [] rest) :
    Stops [] (places ++ rest) := by
  cases divided with
  | absent => exact stops
  | present => simp [Stops, show isDecimalDigit '.' = false by decide]

theorem ExponentSpelled.stops {exponent : Option Int} {power : Text}
    (scaled : ExponentSpelled exponent power) (stops : Stops ['.'] rest) :
    Stops ['.'] (power ++ rest) := by
  cases scaled with
  | absent => exact stops
  | present marked =>
      have marks : ['e', 'E'].all fun c => isDecimalDigit c = false ∧ c ∉ ['.'] := by decide
      have marked' := List.all_eq_true.mp marks _ (by simpa using marked)
      simpa [Stops] using marked'

end Digits

section Reading

variable {most : Option Nat} {limits : Limits} {value : Json} {spelling rest : Text}

theorem isWhole_of_unpadded {whole : Text} (run : IsRun whole)
    (unpadded : whole = ['0'] ∨ ∀ c ∈ whole.head?, c ≠ '0') : isWhole whole = true := by
  obtain ⟨first, more, rfl, _⟩ := run.exists_first
  rcases unpadded with zero | other
  · rw [zero]
    rfl
  · have noZero : first ≠ '0' := other first rfl
    rw [isWhole.eq_3 _ _ (by simp [noZero])]
    simpa using noZero

theorem readMagnitude_spelled {negative : Bool} {whole places power : Text}
    {fraction : Option Text} {exponent : Option Int} (run : IsRun whole)
    (unpadded : whole = ['0'] ∨ ∀ c ∈ whole.head?, c ≠ '0')
    (divided : FractionSpelled fraction places) (scaled : ExponentSpelled exponent power)
    (ended : Ended rest) :
    readMagnitude limits negative (whole ++ (places ++ power) ++ rest) =
      if Limits.admits limits.digits whole.length then
        some (Json.number negative whole fraction exponent, rest) else none := by
  have behindPower := ended.stops
  have behindPlaces := scaled.stops (behindPower.weaken (by simp))
  have behindWhole := divided.stops (behindPlaces.weaken (by simp))
  have parts : whole ++ (places ++ power) ++ rest = whole ++ (places ++ (power ++ rest)) := by simp
  rw [parts, readMagnitude, readDigits_append run.2 behindWhole]
  simp only [isWhole_of_unpadded run unpadded, Bool.true_and,
    readFraction_spelled divided behindPlaces,
    readExponent_spelled scaled (behindPower.weaken (by simp))]

theorem readWord_of_digit {text : Text} {digit : Char} (held : digit ∈ text.take 2)
    (isDigit : isDecimalDigit digit = true) : readWord text = none := by
  have wordless : words.all fun word =>
      2 ≤ word.1.length ∧ (word.1.take 2).all fun c => isDecimalDigit c = false := by decide
  rw [readWord, Option.map_eq_none_iff, List.find?_eq_none]
  intro word listed fits
  obtain ⟨long, free⟩ := of_decide_eq_true (List.all_eq_true.mp wordless word listed)
  obtain ⟨more, rfl⟩ := List.isPrefixOf_iff_prefix.mp fits
  rw [List.take_append_of_le_length long] at held
  have other := of_decide_eq_true (List.all_eq_true.mp free digit held)
  rw [isDigit] at other
  cases other

theorem plain_of_numeral {c : Char} (begins : c = '-' ∨ isDecimalDigit c = true) :
    c ≠ '"' ∧ separates c = false ∧ mark? c = none := by
  have others : ['"', ' ', '\t', '\n', '\r', '[', ']', '{', '}', ',', ':'].all
      fun c => c ≠ '-' ∧ isDecimalDigit c = false := by decide
  have apart : c ∉ ['"', ' ', '\t', '\n', '\r', '[', ']', '{', '}', ',', ':'] := by
    intro listed
    obtain ⟨noMinus, noDigit⟩ := of_decide_eq_true (List.all_eq_true.mp others c listed)
    rcases begins with minus | digit
    · exact noMinus minus
    · rw [digit] at noDigit
      cases noDigit
  simp only [List.mem_cons, List.not_mem_nil, or_false, not_or] at apart
  simp [separates, mark?, apart]

theorem readLexeme_of_numeral {c : Char} {more : Text}
    (begins : c = '-' ∨ isDecimalDigit c = true) (noWord : readWord (c :: more) = none) :
    readLexeme limits (c :: more) =
      (readNumber limits (c :: more)).map fun (value, rest) => (.scalar value, rest) := by
  obtain ⟨noQuote, _, noMark⟩ := plain_of_numeral begins
  rw [readLexeme.eq_3 _ _ _ (by simp [noQuote]), noMark]
  simp [noWord]

theorem readLexeme_number {negative : Bool} {whole places power : Text}
    {fraction : Option Text} {exponent : Option Int} (run : IsRun whole)
    (unpadded : whole = ['0'] ∨ ∀ c ∈ whole.head?, c ≠ '0')
    (divided : FractionSpelled fraction places) (scaled : ExponentSpelled exponent power)
    (ended : Ended rest) :
    readLexeme limits (minus negative ++ (whole ++ (places ++ power)) ++ rest) =
      if Limits.admits limits.digits whole.length then
        some (.scalar (Json.number negative whole fraction exponent), rest) else none := by
  have magnitude : readMagnitude limits negative (whole ++ (places ++ power) ++ rest) = _ :=
    readMagnitude_spelled run unpadded divided scaled ended
  obtain ⟨first, more, rfl, digit⟩ := run.exists_first
  cases negative with
  | false =>
      have noMinus : first ≠ '-' := by
        intro same
        rw [same] at digit
        cases digit
      simp only [minus, Bool.false_eq_true, ↓reduceIte, List.nil_append, List.cons_append]
        at magnitude ⊢
      rw [readLexeme_of_numeral (.inr digit) (readWord_of_digit (by simp) digit),
        readNumber.eq_2 _ _ (by simp [noMinus]), magnitude]
      split <;> rfl
  | true =>
      simp only [minus, ↓reduceIte, List.nil_append, List.cons_append] at magnitude ⊢
      have second : first ∈ ('-' :: first :: (more ++ (places ++ power) ++ rest)).take 2 := by simp
      rw [readLexeme_of_numeral (.inl rfl) (readWord_of_digit second digit), readNumber, magnitude]
      split <;> rfl

theorem ScalarSpelled.read (spelled : ScalarSpelled limits.digits value spelling)
    (ended : Ended rest) : readLexeme limits (spelling ++ rest) = some (.scalar value, rest) := by
  cases spelled with
  | nullWord => rfl
  | trueWord => rfl
  | falseWord => rfl
  | number run unpadded few divided scaled =>
      rw [readLexeme_number run unpadded divided scaled ended, if_pos few]

theorem ScalarSpelled.within_or_unread (spelled : ScalarSpelled none value spelling)
    (limits : Limits) : ScalarSpelled limits.digits value spelling ∨
      ∀ rest, Ended rest → readLexeme limits (spelling ++ rest) = none := by
  cases spelled with
  | nullWord => exact .inl .nullWord
  | trueWord => exact .inl .trueWord
  | falseWord => exact .inl .falseWord
  | @number negative whole _ _ _ _ run unpadded _ divided scaled =>
      by_cases few : Limits.admits limits.digits whole.length = true
      next => exact .inl (.number run unpadded few divided scaled)
      next =>
        refine .inr fun rest ended => ?_
        rw [readLexeme_number run unpadded divided scaled ended, if_neg few]

theorem ScalarSpelled.solid (spelled : ScalarSpelled most value spelling) :
    ∃ first more, spelling = first :: more ∧ separates first = false := by
  cases spelled with
  | nullWord => exact ⟨_, _, rfl, by decide⟩
  | trueWord => exact ⟨_, _, rfl, by decide⟩
  | falseWord => exact ⟨_, _, rfl, by decide⟩
  | @number negative _ _ _ _ _ run =>
      obtain ⟨first, more, rfl, digit⟩ := run.exists_first
      cases negative with
      | false => exact ⟨first, _, rfl, (plain_of_numeral (.inr digit)).2.1⟩
      | true => exact ⟨'-', _, rfl, (plain_of_numeral (.inl rfl)).2.1⟩

end Reading

end SceneScript.Json
