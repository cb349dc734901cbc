
set_option autoImplicit false

namespace SceneScript

abbrev Text := List Char

instance : Coe String Text := ⟨String.toList⟩

namespace Text

def split (separator : Char) : Text → List Text
  | [] => [[]]
  | c :: rest =>
      if c = separator then [] :: split separator rest
      else
        match split separator rest with
        | [] => [[c]]
        | piece :: pieces => (c :: piece) :: pieces

def lines (text : Text) : List Text := split '\n' text

def unlines (rows : List Text) : Text := List.intercalate ['\n'] rows

def ofNat (n : Nat) : Text := Nat.toDigits 10 n

def ofInt : Int → Text
  | .ofNat n => ofNat n
  | .negSucc n => '-' :: ofNat (n + 1)

def fill (placeholder filling : Text) : Text → Text
  | [] => []
  | c :: rest =>
      match placeholder with
      | [] => c :: rest
      | first :: more =>
          if c = first ∧ more <+: rest then
            filling ++ fill placeholder filling (rest.drop more.length)
          else c :: fill placeholder filling rest
termination_by text => text.length
decreasing_by
  · simp only [List.length_drop, List.length_cons]
    omega
  · simp

def padLeft (width : Nat) (text : Text) : Text :=
  List.replicate (width - text.length) ' ' ++ text

theorem split_ne_nil (separator : Char) (text : Text) : split separator text ≠ [] := by
  cases text with
  | nil => simp [split]
  | cons c rest =>
      by_cases found : c = separator
      · simp [split, found]
      · simp only [split, found, ↓reduceIte]
        split <;> simp

theorem intercalate_split (separator : Char) (text : Text) :
    List.intercalate [separator] (split separator text) = text := by
  induction text with
  | nil => rfl
  | cons c rest ih =>
      by_cases found : c = separator
      · subst found
        cases pieces : split c rest with
        | nil => exact absurd pieces (split_ne_nil c rest)
        | cons piece more =>
            rw [pieces] at ih
            simp only [split, ↓reduceIte, pieces]
            rw [← ih]
            simp [List.intercalate, List.intersperse]
      · cases pieces : split separator rest with
        | nil => exact absurd pieces (split_ne_nil separator rest)
        | cons piece more =>
            rw [pieces] at ih
            simp only [split, found, ↓reduceIte, pieces]
            rw [← ih]
            cases more <;> simp [List.intercalate, List.intersperse]

theorem notMem_ofNat {c : Char} (other : c.isDigit = false) (n : Nat) : c ∉ ofNat n := by
  intro held
  have digit := Nat.isDigit_of_mem_toDigits (by decide) (by decide) held
  rw [other] at digit
  cases digit

@[simp] theorem unlines_lines (text : Text) : unlines (lines text) = text :=
  intercalate_split '\n' text

end Text

end SceneScript
