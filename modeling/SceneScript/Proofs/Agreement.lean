import SceneScript.Interchange.Decoding
import SceneScript.Proofs.Elementwise
import SceneScript.Proofs.Json.Alike
import SceneScript.Proofs.Json.Denotation

set_option autoImplicit false

namespace SceneScript

def Program.IsElement (place : List Step) : Prop :=
  ∃ index, place = [.field "instructions", .item index]

/-- A reason to reject a text and one to reject a value, at one place. They are of one type, but at
some places there is a type for either, of what should be an object and is not. -/
inductive Issue.Matches (apart : List Step → Prop) : Issue → Issue → Prop where
  | sameType {place : List Step} {told given : Complaint}
      (same : told.code .text = given.code .value) : Matches apart ⟨place, told⟩ ⟨place, given⟩
  | notAnObject {place : List Step} {told given : Complaint} (listed : apart place)
      (ofText : told.code .text = "dict_type")
      (ofValue : given.code .value = "model_attributes_type") :
      Matches apart ⟨place, told⟩ ⟨place, given⟩

inductive Checked.Agree {α : Type} (apart : List Step → Prop) : Checked α → Checked α → Prop where
  | ok (value : α) : Agree apart (.ok value) (.ok value)
  | error {told given : List Issue} (found : List.Forall₂ (Issue.Matches apart) told given) :
      Agree apart (.error told) (.error given)

def nowhere (_ : List Step) : Prop := False

def Issue.label (source : Source) (issue : Issue) : List Step × Text :=
  (issue.place, issue.complaint.code source)

theorem matches_nowhere_iff {told given : Issue} :
    Issue.Matches nowhere told given ↔ told.label .text = given.label .value := by
  obtain ⟨place, complaint⟩ := told
  obtain ⟨place', complaint'⟩ := given
  simp only [Issue.label, Prod.mk.injEq]
  constructor
  · intro matched
    cases matched with
    | sameType same => exact ⟨rfl, same⟩
    | notAnObject listed => exact listed.elim
  · rintro ⟨rfl, same⟩
    exact .sameType same

namespace Checked.Agree

variable {α β : Type} {apart farther : List Step → Prop}

theorem reject {told given : Complaint} (same : told.code .text = given.code .value) :
    Agree apart (Checked.reject told : Checked α) (Checked.reject given) :=
  .error (.cons (.sameType same) .nil)

theorem error_iff {told given : List Issue} :
    Agree nowhere (.error told : Checked α) (.error given) ↔
      told.map (·.label .text) = given.map (·.label .value) := by
  -- Where no place is set apart, to match is to have the same label.
  have labels : told.map (·.label .text) = given.map (·.label .value) ↔
      List.Forall₂ (Issue.Matches nowhere) told given := by
    rw [← List.forall₂_eq_eq_eq, List.forall₂_map_left_iff, List.forall₂_map_right_iff]
    constructor
    · exact fun same => same.imp fun _ _ => matches_nowhere_iff.mpr
    · exact fun found => found.imp fun _ _ => matches_nowhere_iff.mp
  rw [labels]
  constructor
  · intro agree
    cases agree with
    | error found => exact found
  · exact .error

theorem map {outcome other : Checked α} (agree : Agree apart outcome other) (make : α → β) :
    Agree apart (make <$> outcome) (make <$> other) := by
  cases agree with
  | ok value => exact .ok (make value)
  | error found => exact .error found

theorem under {outcome other : Checked α} (agree : Agree apart outcome other) {step : Step}
    (behind : ∀ place, apart place → farther (step :: place)) :
    Agree farther (outcome.under step) (other.under step) := by
  cases agree with
  | ok value => exact .ok value
  | error found =>
      refine .error (List.forall₂_map_left_iff.mpr (List.forall₂_map_right_iff.mpr ?_))
      refine found.imp fun told given matched => ?_
      cases matched with
      | sameType same => exact .sameType same
      | notAnObject listed ofText ofValue => exact .notAnObject (behind _ listed) ofText ofValue

theorem deeper {outcome other : Checked α} (agree : Agree nowhere outcome other) (step : Step) :
    Agree apart (outcome.under step) (other.under step) :=
  -- No place is set apart inside, so it does not matter which ones are outside.
  agree.under fun _ => False.elim

theorem both {outcome other : Checked α} {second second' : Checked β}
    (agree : Agree apart outcome other) (agree' : Agree apart second second') :
    Agree apart (Checked.both outcome second) (Checked.both other second') := by
  cases agree with
  | ok value =>
      cases agree' with
      | ok value' => exact .ok (value, value')
      | error found => exact .error found
  | error found =>
      cases agree' with
      | ok => exact .error found
      | error more => exact .error (List.rel_append found more)

theorem eachFrom {γ : Type} {related : γ → γ → Prop} {check : γ → Checked β}
    (agrees : ∀ item other, related item other → Agree apart (check item) (check other))
    (behind : ∀ index place, apart place → farther (.item index :: place)) {items others : List γ}
    (alike : List.Forall₂ related items others) (index : Nat) :
    Agree farther (Checked.eachFrom check index items) (Checked.eachFrom check index others) := by
  induction alike generalizing index with
  | nil => exact .ok []
  | cons first _ ih =>
      exact (((agrees _ _ first).under (behind index)).both (ih (index + 1))).map _

end Checked.Agree

open Checked (Agree)

section Alike

variable {value other : Json} {fields others : Json.Fields}

theorem asText_agree (alike : value.Alike other) : Agree nowhere value.asText other.asText := by
  cases alike with
  | string text => exact .ok text
  | number one two => cases one <;> cases two <;> exact .reject rfl
  | _ => exact .reject rfl

theorem asTexts_agree (alike : value.Alike other) : Agree nowhere value.asTexts other.asTexts := by
  cases alike with
  | array inside =>
      exact .eachFrom (fun _ _ alike => asText_agree alike) (fun _ _ => id) inside 0
  | number one two => cases one <;> cases two <;> exact .reject rfl
  | _ => exact .reject rfl

theorem kindOf?_alike (alike : value.Alike other) :
    Instruction.kindOf? value = Instruction.kindOf? other := by
  cases alike with
  | number one two => cases one <;> cases two <;> rfl
  | _ => rfl

theorem isKind_alike (alike : value.Alike other) (keyword : Keyword) :
    Instruction.isKind keyword value = Instruction.isKind keyword other := by
  cases alike with
  | number one two => cases one <;> cases two <;> rfl
  | _ => rfl

section Fields

variable (inside : ∀ key, Option.Rel Json.Alike (Json.field? key fields) (Json.field? key others))

include inside

theorem found_alike (key : Text) :
    (Json.field? key fields = none ∧ Json.field? key others = none) ∨
      ∃ value other, Json.field? key fields = some value ∧ Json.field? key others = some other ∧
        Json.Alike value other := by
  have held := inside key
  generalize Json.field? key fields = one, Json.field? key others = two at held ⊢
  cases held with
  | none => exact .inl ⟨rfl, rfl⟩
  | some alike => exact .inr ⟨_, _, rfl, rfl, alike⟩

theorem required_agree (name : Text) :
    Agree nowhere (Instruction.required name fields) (Instruction.required name others) := by
  rw [Instruction.required, Instruction.required]
  refine Agree.deeper ?_ _
  rcases found_alike inside name with ⟨absent, absent'⟩ | ⟨value, other, found, found', alike⟩
  · rw [absent, absent']
    exact .reject rfl
  · rw [found, found']
    exact asText_agree alike

theorem listed_agree (name : Text) :
    Agree nowhere (Instruction.listed name fields) (Instruction.listed name others) := by
  rw [Instruction.listed, Instruction.listed]
  refine Agree.deeper ?_ _
  rcases found_alike inside name with ⟨absent, absent'⟩ | ⟨value, other, found, found', alike⟩
  · rw [absent, absent']
    exact .ok []
  · rw [found, found']
    exact asTexts_agree alike

theorem ofFields_agree (keyword : Keyword) :
    Agree nowhere (Instruction.ofFields keyword fields)
      (Instruction.ofFields keyword others) := by
  cases keyword with
  | assets => exact (listed_agree inside _).map _
  | call => exact ((required_agree inside _).both (listed_agree inside _)).map _
  | stop => exact .ok Instruction.stop
  | _ => exact (required_agree inside _).map _

theorem checkKind_agree (keyword : Keyword) :
    Agree nowhere (Instruction.checkKind keyword fields)
      (Instruction.checkKind keyword others) := by
  rw [Instruction.checkKind, Instruction.checkKind]
  rcases found_alike inside "kind" with ⟨absent, absent'⟩ | ⟨kind, kind', found, found', alike⟩
  · rw [absent, absent']
    exact .ok ()
  · rw [found, found']
    simp only [isKind_alike alike keyword]
    split
    · exact .ok ()
    · exact Agree.deeper (.reject rfl) _

end Fields

theorem ofJson_agree (alike : value.Alike other) (keyword : Keyword) :
    Agree nowhere (Instruction.ofJson keyword value) (Instruction.ofJson keyword other) := by
  cases alike with
  | object inside =>
      exact ((checkKind_agree inside keyword).both (ofFields_agree inside keyword)).map _
  | number one two => cases one <;> cases two <;> exact .reject rfl
  | _ => exact .reject rfl

theorem ofTagged_agree (alike : value.Alike other) :
    Agree (· = []) (Instruction.ofTagged value) (Instruction.ofTagged other) := by
  -- Only here do the text and the value have a type each.
  have notAnObject : Agree (· = []) (Checked.reject .notAnInstruction : Checked Instruction)
      (Checked.reject .notAnInstruction) :=
    .error (.cons (.notAnObject rfl rfl rfl) .nil)
  cases alike with
  | object inside =>
      rcases found_alike inside "kind" with ⟨absent, absent'⟩ | ⟨kind, kind', found, found', alike⟩
      · rw [Instruction.ofTagged_of_noKind absent, Instruction.ofTagged_of_noKind absent']
        exact .reject rfl
      · have same := kindOf?_alike alike
        cases known : Instruction.kindOf? kind with
        | none =>
            rw [known] at same
            rw [Instruction.ofTagged_of_noSuchKind found known,
              Instruction.ofTagged_of_noSuchKind found' same.symm]
            exact .reject rfl
        | some keyword =>
            rw [known, eq_comm, Instruction.kindOf?_eq_some_iff] at same
            rw [Instruction.kindOf?_eq_some_iff] at known
            subst known same
            rw [Instruction.ofTagged_of_kind found, Instruction.ofTagged_of_kind found']
            exact (ofFields_agree inside keyword).deeper _
  | number one two => cases one <;> cases two <;> exact notAnObject
  | _ => exact notAnObject

theorem itemsOf_agree (alike : value.Alike other) :
    Agree (fun place => ∃ index, place = [.item index]) (Program.itemsOf value)
      (Program.itemsOf other) := by
  cases alike with
  | array inside =>
      refine .eachFrom (fun _ _ alike => ofTagged_agree alike) (fun index place here => ?_) inside 0
      rw [here]
      exact ⟨index, rfl⟩
  | number one two => cases one <;> cases two <;> exact .reject rfl
  | _ => exact .reject rfl

theorem programOfJson_agree (alike : value.Alike other) :
    Agree Program.IsElement (Program.ofJson value) (Program.ofJson other) := by
  cases alike with
  | object inside =>
      rw [Program.ofJson, Program.ofJson]
      rcases found_alike inside "instructions" with
        ⟨absent, absent'⟩ | ⟨value, other, found, found', alike⟩
      · rw [absent, absent']
        exact .ok (Program.mk [])
      · rw [found, found']
        refine Agree.map (Agree.under (itemsOf_agree alike) fun place item => ?_) Program.mk
        obtain ⟨index, rfl⟩ := item
        exact ⟨index, rfl⟩
  | number one two => cases one <;> cases two <;> exact .reject rfl
  | _ => exact .reject rfl

end Alike

section Texts

variable {α : Type} {text : Text} {read value : Json}

theorem ofText_of_denotes (check : Json → Checked α)
    (denotes : Json.Denotes Checked.limits text read) :
    Checked.ofText check text = check read := by
  rw [Checked.ofText, denotes.read]

theorem ofText_of_unread (check : Json → Checked α)
    (unread : Json.ofText? Checked.limits text = none) :
    Checked.ofText check text = Checked.reject .unreadable := by
  rw [Checked.ofText, unread]

/-- A text is read as the values are that it denotes, unless it goes beyond the limits. -/
theorem decode_agrees (denotes : Json.Denotes .unlimited text read) (alike : read.Alike value) :
    (Json.Denotes Checked.limits text read →
      Agree Program.IsElement (Program.decode text) (Program.ofJson value) ∧
      ∀ keyword, Agree nowhere (Instruction.decode keyword text)
        (Instruction.ofJson keyword value)) ∧
    (¬ Json.Denotes Checked.limits text read →
      Program.decode text = Checked.reject .unreadable ∧
      ∀ keyword, Instruction.decode keyword text = Checked.reject .unreadable) := by
  constructor
  · intro within
    -- Once the text is read, it goes through the checks that the value goes through.
    refine ⟨?_, fun keyword => ?_⟩
    · rw [Program.decode, ofText_of_denotes _ within]
      exact programOfJson_agree alike
    · rw [Instruction.decode, ofText_of_denotes _ within]
      exact ofJson_agree alike keyword
  · intro beyond
    have unread := denotes.unread beyond
    exact ⟨ofText_of_unread _ unread, fun keyword => ofText_of_unread _ unread⟩

section Cue

open Json

def cueFields : Fields := [("text", .string "Hi 🎭"), ("kind", .string "say")]

def cueText : Text :=
  "\x7b\"text\": \"Ho\", \"kind\": \"say\",\n \"text\": \"\\u0048i \\ud83c\\udfad\"\x7d"

theorem cueText_denotes {limits : Limits} (room : Limits.admits limits.nesting 1) :
    Denotes limits cueText (.object cueFields) := by
  -- The text of the cue stands twice, and the second one, with its escapes, counts.
  have escaped : Written "\"\\u0048i \\ud83c\\udfad\"" [.string "Hi 🎭"] :=
    @Written.string "Hi 🎭" ["\\u0048", "i", " ", "\\ud83c\\udfad"]
      (.cons (@Spelled.unit 0x48 "0048" rfl (by decide) (by decide)) <|
        .cons (.itself _ rfl) <| .cons (.itself _ rfl) <|
          .cons (@Spelled.pair 0xd83c 0xdfad "d83c" "dfad" rfl rfl rfl rfl) .nil) _ _ .nil
  have key (name : Text) : Written (writeString name ++ [':', ' ']) [.string name, .colon] :=
    (Written.writeString name).append (.afterKey (.indented 0))
  have first := (key "text").append (.writeString "Ho")
  have second := (key "kind").append (.writeString "say")
  have third := (key "text").append escaped
  have written : Written cueText _ :=
    .mark rfl <| first.append <| .mark rfl <| .separator rfl <| second.append <| .mark rfl <|
      .separator rfl <| .separator rfl <| third.append <| .mark rfl .nil
  have spells := @Spells.object 0 ⟨⟨.string "Ho", [.string "Ho"]⟩, "text"⟩
    [⟨⟨.string "say", [.string "say"]⟩, "kind"⟩, ⟨⟨.string "Hi 🎭", [.string "Hi 🎭"]⟩, "text"⟩]
    (by simp [Spells.string])
  exact ⟨1, _, spells, .written written, room⟩

theorem cue_read_alike :
    Denotes .unlimited cueText (.object cueFields) ∧
      (Json.object cueFields).Alike (.object cueFields.reverse) ∧
      Agree Program.IsElement (Program.decode cueText)
        (Program.ofJson (.object cueFields.reverse)) ∧
      ∀ keyword, Agree nowhere (Instruction.decode keyword cueText)
        (Instruction.ofJson keyword (.object cueFields.reverse)) := by
  have alike : (Json.object cueFields).Alike (.object cueFields.reverse) :=
    .of_perm (List.reverse_perm _).symm (by decide)
  exact ⟨cueText_denotes rfl, alike,
    (decode_agrees (cueText_denotes rfl) alike).1 (cueText_denotes rfl)⟩

end Cue

section Apart

open Json

def nullElement : Json := .object [("instructions", .array [.null])]

def nullElementText : Text := "\x7b\"instructions\":[null]\x7d"

theorem nullElementText_denotes {limits : Limits} (room : Limits.admits limits.nesting 2) :
    Denotes limits nullElementText nullElement := by
  have before : Written "\x7b\"instructions\":[" _ :=
    .mark rfl <| (Written.writeString "instructions").append <| .mark rfl <| .mark rfl .nil
  have word : ScalarSpelled limits.digits .null "null" := .nullWord
  have ended : Ended "]\x7d" := by
    intro c first
    cases first
    decide
  have cut : Cut limits.digits nullElementText _ :=
    .scalar before word ended (.written (.mark rfl (.mark rfl .nil)))
  have element := @Spells.array 0 ⟨.null, _⟩ [] (by simpa using Spells.scalar 0 .null)
  have spells := @Spells.object 1 ⟨⟨_, _⟩, "instructions"⟩ [] (by simpa using element)
  exact ⟨2, _, spells, cut, room⟩

def nest : Nat → Json
  | 0 => .array []
  | depth + 1 => .array [nest depth]

def nestText (depth : Nat) : Text :=
  List.replicate (depth + 1) '[' ++ List.replicate (depth + 1) ']'

theorem written_replicate {c : Char} {lexeme : Lexeme} (named : mark? c = some lexeme)
    (count : Nat) : Written (List.replicate count c) (List.replicate count lexeme) := by
  induction count with
  | zero => exact .nil
  | succ count ih => exact .mark named ih

theorem spells_nest (depth : Nat) :
    Spells depth (nest depth) (List.replicate (depth + 1) Lexeme.openArray ++
      List.replicate (depth + 1) Lexeme.closeArray) := by
  induction depth with
  | zero => exact .emptyArray 0
  | succ depth ih =>
      -- One more array is one more bracket in front and one more behind.
      have around := @Spells.array depth ⟨_, _⟩ [] (by simpa using ih)
      rw [nest, List.replicate_succ (n := depth + 1), List.replicate_succ' (n := depth + 1)]
      simpa using around

theorem nestText_denotes (depth : Nat) : Denotes .unlimited (nestText depth) (nest depth) :=
  ⟨depth, _, spells_nest depth,
    .written ((written_replicate rfl _).append (written_replicate rfl _)), rfl⟩

theorem nestText_unread : ofText? Checked.limits (nestText 201) = none := by
  have unread : (ofText? Checked.limits (nestText 201)).isNone = true := by decide +kernel
  exact Option.isNone_iff_eq_none.mp unread

def ones (count : Nat) : Text := List.replicate count '1'

theorem ones_denotes (count : Nat) :
    Denotes .unlimited (ones (count + 1)) (Json.number false (ones (count + 1)) none none) := by
  have run : IsRun (ones (count + 1)) := by
    simp [IsRun, ones, show isDecimalDigit '1' = true from rfl]
  have unpadded : ∀ c ∈ (ones (count + 1)).head?, c ≠ '0' := by simp [ones, List.replicate_succ]
  have spelled := @ScalarSpelled.number none false _ _ _ _ _ run (.inr unpadded) rfl .absent .absent
  have cut := Cut.scalar .nil spelled (by simp [Ended]) (.written .nil)
  rw [minus, if_neg (by decide)] at cut
  simp only [List.nil_append, List.append_nil] at cut
  exact ⟨0, _, .scalar 0 _, cut, rfl⟩

theorem ones_unread : ofText? Checked.limits (ones 4301) = none := by
  have unread : (ofText? Checked.limits (ones 4301)).isNone = true := by decide +kernel
  exact Option.isNone_iff_eq_none.mp unread

theorem decode_disagrees :
    (Denotes .unlimited nullElementText nullElement ∧
      ¬ Agree nowhere (Program.decode nullElementText) (Program.ofJson nullElement)) ∧
    (Denotes .unlimited (nestText 201) (nest 201) ∧
      ¬ Agree nowhere (Program.decode (nestText 201)) (Program.ofJson (nest 201))) ∧
    (Denotes .unlimited (ones 4301) (Json.number false (ones 4301) none none) ∧
      ¬ Agree nowhere (Program.decode (ones 4301))
        (Program.ofJson (Json.number false (ones 4301) none none))) := by
  -- To the reader of the text it is unreadable, as a value it is read and is no program.
  have notProgram : ¬ Agree nowhere (Checked.reject .unreadable : Checked Program)
      (Checked.reject (.notObject .program)) := by
    rw [Checked.reject, Checked.reject, Agree.error_iff]
    decide
  refine ⟨⟨nullElementText_denotes rfl, ?_⟩, ⟨nestText_denotes 201, ?_⟩, ones_denotes 4300, ?_⟩
  · have rejected : Program.ofJson nullElement =
        .error [⟨[.field "instructions", .item 0], .notAnInstruction⟩] := rfl
    rw [Program.decode, ofText_of_denotes _ (nullElementText_denotes rfl), rejected,
      Agree.error_iff]
    decide
  · rw [Program.decode, ofText_of_unread _ nestText_unread]
    exact notProgram
  · rw [Program.decode, ofText_of_unread _ ones_unread]
    exact notProgram

end Apart

end Texts

end SceneScript
