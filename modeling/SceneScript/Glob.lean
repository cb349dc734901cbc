import SceneScript.Path

set_option autoImplicit false

namespace SceneScript

inductive Wild where
  | run
  | one
  | exactly (c : Char)
  | oneOf (negated : Bool) (ranges : List (Char × Char))
deriving DecidableEq

namespace Wild

def accepts (c : Char) : Wild → Bool
  | run | one => true
  | exactly wanted => c = wanted
  | oneOf negated ranges => ranges.any (fun range => range.1 ≤ c && c ≤ range.2) != negated

def suffixes : Text → List Text
  | [] => [[]]
  | c :: rest => (c :: rest) :: suffixes rest

def without? (wild : Wild) : Text → Option Text
  | [] => none
  | c :: rest => if wild.accepts c then some rest else none

/--
What may be left of a name, the longest rest first, once one more wild has taken its part. Whatever
a run leaves of a shorter rest it also leaves of the longest.
-/
def advance (rests : List Text) : Wild → List Text
  | run => (rests.head?.map suffixes).getD []
  | wild => rests.filterMap wild.without?

def fits (wilds : List Wild) (name : Text) : Bool :=
  (wilds.foldl advance [name]).any List.isEmpty

-- Sets

inductive SetMark where
  | char (c : Char)
  | dash
deriving DecidableEq

/-- A hyphen splits a set unless too few characters stand before it. -/
def splitSet (least : Nat) (body : Text) : List Text :=
  let ahead := body.drop least
  if _ : '-' ∈ ahead then
    (body.take least ++ ahead.takeWhile (· ≠ '-'))
      :: splitSet 2 ((ahead.dropWhile (· ≠ '-')).tail)
  else [body]
termination_by body.length
decreasing_by
  have shorter := (List.dropWhile_suffix (· ≠ '-') (l := body.drop least)).length_le
  have some := List.length_pos_of_mem ‹_ ∈ ahead›
  simp only [ahead, List.length_tail, List.length_drop] at *
  omega

def closeSet : List Text → List Text
  | [piece, []] => [piece ++ ['-']]
  | [] => []
  | piece :: rest => piece :: closeSet rest

def dropEmptyRanges : List Text → List Text
  | [] => []
  | piece :: rest =>
      match dropEmptyRanges rest with
      | [] => [piece]
      | next :: more =>
          match piece.getLast?, next.head? with
          | some low, some high =>
              if high < low then (piece.dropLast ++ next.tail) :: more else piece :: next :: more
          | _, _ => piece :: next :: more

def joinSet (pieces : List Text) : List SetMark :=
  List.intercalate [.dash] (pieces.map fun piece => piece.map .char)

def setRanges : List SetMark → List (Char × Char)
  | .char low :: .dash :: .char high :: rest => (low, high) :: setRanges rest
  | .char c :: rest => (c, c) :: setRanges rest
  | .dash :: rest => ('-', '-') :: setRanges rest
  | [] => []

def setOf (body : Text) : Wild :=
  let least := if body.head? = some '!' then 2 else 1
  match joinSet (dropEmptyRanges (closeSet (splitSet least body))) with
  | .char '!' :: marks => .oneOf true (setRanges marks)
  | marks => .oneOf false (setRanges marks)

/-- A closing bracket that comes first belongs to the set. -/
def setLead : Text → Text × Text
  | '!' :: ']' :: rest => (['!', ']'], rest)
  | '!' :: rest => (['!'], rest)
  | ']' :: rest => ([']'], rest)
  | rest => ([], rest)

def readSet (text : Text) : Option (Wild × Text) :=
  let (lead, rest) := setLead text
  if ']' ∈ rest then
    some (setOf (lead ++ rest.takeWhile (· ≠ ']')), (rest.dropWhile (· ≠ ']')).tail)
  else none

theorem length_setLead (text : Text) : (setLead text).2.length ≤ text.length := by
  unfold setLead
  split <;> simp
  omega

theorem length_readSet {text rest : Text} {wild : Wild}
    (found : readSet text = some (wild, rest)) : rest.length ≤ text.length := by
  unfold readSet at found
  simp only at found
  split at found
  next =>
    simp only [Option.some.injEq, Prod.mk.injEq] at found
    have shorter := (List.dropWhile_suffix (· ≠ ']') (l := (setLead text).2)).length_le
    have lead := length_setLead text
    rw [← found.2, List.length_tail]
    omega
  next => simp at found

def ofText (text : Text) : List Wild :=
  match text with
  | [] => []
  | '*' :: rest => .run :: ofText rest
  | '?' :: rest => .one :: ofText rest
  | '[' :: rest =>
      match _ : readSet rest with
      | some (wild, after) => wild :: ofText after
      | none => .exactly '[' :: ofText rest
  | c :: rest => .exactly c :: ofText rest
termination_by text.length
decreasing_by
  · simp
  · simp
  · have := length_readSet ‹_›
    simp only [List.length_cons]
    omega
  · simp
  · simp

def isMagic (text : Text) : Bool := text.any fun c => c = '*' || c = '?' || c = '['

end Wild

namespace Glob

inductive Stage where
  | anyDepth
  | matching (wilds : List Wild)
  | named (name : Text)
deriving DecidableEq

end Glob

structure Glob where
  stages : List Glob.Stage
  directoriesOnly : Bool
deriving DecidableEq

namespace Glob

inductive Fault where
  | starsInName
deriving DecidableEq

def Fault.message : Fault → Text
  | starsInName => "Invalid pattern: '**' can only be an entire path component"

def twoStars : Text := ['*', '*']

def stageOf (name : Text) : Except Fault Stage :=
  if name = twoStars then .ok .anyDepth
  else if (Wild.suffixes name).any twoStars.isPrefixOf then .error .starsInName
  else if Wild.isMagic name then .ok (.matching (Wild.ofText name))
  else .ok (.named name)

def endsInSlash (text : Text) : Bool := text.getLast? = some '/'

def ofText (text : Text) : Except Fault Glob := do
  let stages ← (Path.partsOf text).mapM stageOf
  return ⟨stages, endsInSlash text⟩

end Glob

end SceneScript
