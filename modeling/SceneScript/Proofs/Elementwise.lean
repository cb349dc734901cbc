import Mathlib.Data.List.Forall2
import SceneScript.Interchange.Decoding
import SceneScript.Interchange.Encoding

set_option autoImplicit false

namespace SceneScript

namespace Checked

variable {α β γ : Type}

def issues : Checked α → List Issue
  | .ok _ => []
  | .error found => found

theorem issues_of_error {outcome : Checked α} {found : List Issue}
    (failed : outcome = .error found) : found = outcome.issues := by
  rw [failed]
  rfl

theorem map_eq_ok_iff {outcome : Checked α} {make : α → β} {made : β} :
    make <$> outcome = .ok made ↔ ∃ value, outcome = .ok value ∧ make value = made := by
  cases outcome <;> simp [Functor.map, Except.map]

theorem issues_map (make : α → β) (outcome : Checked α) :
    (make <$> outcome).issues = outcome.issues := by
  cases outcome <;> rfl

theorem under_eq_ok_iff {outcome : Checked α} {step : Step} {value : α} :
    outcome.under step = .ok value ↔ outcome = .ok value := by
  cases outcome <;> simp [under]

theorem issues_under (outcome : Checked α) (step : Step) :
    (outcome.under step).issues = outcome.issues.map (·.under step) := by
  cases outcome <;> rfl

theorem both_eq_ok_iff {one : Checked α} {other : Checked β} {first : α} {second : β} :
    both one other = .ok (first, second) ↔ one = .ok first ∧ other = .ok second := by
  cases one <;> cases other <;> simp [both]

theorem issues_both (one : Checked α) (other : Checked β) :
    (both one other).issues = one.issues ++ other.issues := by
  cases one <;> cases other <;> simp [both, issues]

def located (index : Nat) (found : List (List Issue)) : List Issue :=
  (found.zipIdx index).flatMap fun (issues, place) => issues.map (·.under (.item place))

theorem located_cons (index : Nat) (first : List Issue) (rest : List (List Issue)) :
    located index (first :: rest) =
      first.map (·.under (.item index)) ++ located (index + 1) rest := by
  rw [located, located, List.zipIdx_cons, List.flatMap_cons]

theorem eachFrom_eq_ok_iff {check : α → Checked β} {items : List α} {values : List β}
    {index : Nat} : eachFrom check index items = .ok values ↔
      List.Forall₂ (fun item value => check item = .ok value) items values := by
  induction items generalizing values index with
  | nil => simp [eachFrom, eq_comm]
  | cons item rest ih =>
      rw [eachFrom, map_eq_ok_iff, List.forall₂_cons_left_iff]
      simp only [Prod.exists, both_eq_ok_iff, under_eq_ok_iff, ih, and_assoc]
      simp only [eq_comm (a := values)]

theorem eachFrom_congr {check : α → Checked β} {items others : List α} {index : Nat}
    (agree : List.Forall₂ (fun item other => check item = check other) items others) :
    eachFrom check index items = eachFrom check index others := by
  induction agree generalizing index with
  | nil => rfl
  | cons first _ ih => rw [eachFrom, eachFrom, first, ih]

theorem issues_eachFrom (check : α → Checked β) (items : List α) (index : Nat) :
    (eachFrom check index items).issues =
      located index (items.map fun item => (check item).issues) := by
  induction items generalizing index with
  | nil => rfl
  | cons item rest ih =>
      rw [eachFrom, issues_map, issues_both, issues_under, ih, List.map_cons, located_cons]

end Checked

def Json.isText : Json → Bool
  | .string _ => true
  | _ => false

inductive FieldShape where
  | required
  | listed

namespace FieldShape

def Admits : FieldShape → Option Json → Prop
  | required, held => ∃ text, held = some (.string text)
  | listed, held => held = none ∨ ∃ texts : List Text, held = some (.array (texts.map .string))

def issues : FieldShape → Option Json → List Issue
  | required, none => [.here .notFound]
  | required, some (.string _) => []
  | required, some _ => [.here .notText]
  | listed, none => []
  | listed, some (.array items) => (items.zipIdx.filter fun (item, _) => !item.isText).map
      fun (_, index) => ⟨[.item index], .notText⟩
  | listed, some _ => [.here .notList]

theorem exists_texts_iff {items : List Json} :
    (∃ texts : List Text, items = texts.map .string) ↔ ∀ item ∈ items, item.isText = true := by
  induction items with
  | nil => simp
  | cons item rest ih =>
      rw [List.forall_mem_cons, ← ih]
      constructor
      · rintro ⟨_ | ⟨text, texts⟩, same⟩
        · cases same
        · obtain ⟨rfl, rfl⟩ := List.cons.inj same
          exact ⟨rfl, texts, rfl⟩
      · rintro ⟨isText, texts, rfl⟩
        cases item with
        | string text => exact ⟨text :: texts, rfl⟩
        | _ => cases isText

theorem issues_eq_nil_iff {shape : FieldShape} {held : Option Json} :
    shape.issues held = [] ↔ shape.Admits held := by
  cases shape with
  | required =>
      cases held with
      | none => simp [issues, Admits]
      | some value => cases value <;> simp [issues, Admits]
  | listed =>
      cases held with
      | none => simp [issues, Admits]
      | some value =>
          cases value with
          | array items =>
              have texts : (∀ item ∈ items.zipIdx.map Prod.fst, item.isText = true) ↔
                  ∀ entry ∈ items.zipIdx, entry.1.isText = true := List.forall_mem_map
              rw [List.zipIdx_map_fst] at texts
              simp [issues, Admits, exists_texts_iff, texts]
          | _ => simp [issues, Admits]

end FieldShape

namespace Keyword

def declares : Keyword → List (Text × FieldShape)
  | assets => [("names", .listed)]
  | call => [("action", .required), ("arguments", .listed)]
  | background => [("name", .required)]
  | play => [("track", .required)]
  | say => [("text", .required)]
  | wait => [("duration", .required)]
  | stop => []
  | loadScript => [("path", .required)]

def issues (keyword : Keyword) (fields : Json.Fields) : List Issue :=
  keyword.declares.flatMap fun (name, shape) =>
    (shape.issues (Json.field? name fields)).map (·.under (.field name))

theorem issues_eq_nil_iff {keyword : Keyword} {fields : Json.Fields} :
    keyword.issues fields = [] ↔ ∀ name (shape : FieldShape), (name, shape) ∈ keyword.declares →
      shape.Admits (Json.field? name fields) := by
  simp [issues, List.flatMap_eq_nil_iff, FieldShape.issues_eq_nil_iff]

end Keyword

namespace Instruction

def IsSpelledBy (value : Json) : Prop :=
  ∃ (fields : Json.Fields) (keyword : Keyword), value = .object fields ∧
    Json.field? "kind" fields = some (.string keyword.tag) ∧
    ∀ name (shape : FieldShape), (name, shape) ∈ keyword.declares →
      shape.Admits (Json.field? name fields)

inductive ReadFrom : Json → Instruction → Prop where
  | object {fields : Json.Fields} {instruction : Instruction}
      (kind : Json.field? "kind" fields = some (.string instruction.keyword.tag))
      (own : ∀ name value, (name, value) ∈ instruction.ownFields →
        Json.field? name fields = some value ∨
          Json.field? name fields = none ∧ value = .array []) :
      ReadFrom (.object fields) instruction

/-- What an element of a program has to complain of. -/
inductive Complains : Json → List Issue → Prop where
  | notObject {value : Json} (other : ∀ fields, value ≠ .object fields) :
      Complains value [.here .notAnInstruction]
  | noKind {fields : Json.Fields} (absent : Json.field? "kind" fields = none) :
      Complains (.object fields) [.here .noKind]
  | noSuchKind {fields : Json.Fields} {kind : Json} (found : Json.field? "kind" fields = some kind)
      (unknown : ∀ keyword : Keyword, kind ≠ .string keyword.tag) :
      Complains (.object fields) [.here (.noSuchKind kind.display)]
  | ofKind {fields : Json.Fields} {keyword : Keyword}
      (found : Json.field? "kind" fields = some (.string keyword.tag)) :
      Complains (.object fields) ((keyword.issues fields).map (·.under (.field keyword.tag)))

/-- The same element, but for keys that its kind does not declare. -/
inductive AgreesWith : Json → Json → Prop where
  | same (value : Json) : AgreesWith value value
  | object {fields others : Json.Fields} {keyword : Keyword}
      (kind : Json.field? "kind" fields = some (.string keyword.tag))
      (kind' : Json.field? "kind" others = some (.string keyword.tag))
      (own : ∀ name ∈ keyword.declares.map Prod.fst,
        Json.field? name fields = Json.field? name others) :
      AgreesWith (.object fields) (.object others)

section Fields

variable {name : Text} {fields others : Json.Fields} {keyword : Keyword}

theorem required_eq_ok_iff {text : Text} :
    required name fields = .ok text ↔ Json.field? name fields = some (.string text) := by
  rw [required, Checked.under_eq_ok_iff]
  cases Json.field? name fields with
  | none => simp [Checked.reject]
  | some value => cases value <;> simp [Json.asText, Checked.reject]

theorem issues_required (name : Text) (fields : Json.Fields) : (required name fields).issues =
    (FieldShape.required.issues (Json.field? name fields)).map (·.under (.field name)) := by
  rw [required, Checked.issues_under]
  cases Json.field? name fields with
  | none => rfl
  | some value => cases value <;> rfl

theorem asText_eq_ok_iff {value : Json} {text : Text} :
    value.asText = .ok text ↔ value = .string text := by
  cases value <;> simp [Json.asText, Checked.reject]

theorem asTexts_eq_ok_iff {value : Json} {texts : List Text} :
    value.asTexts = .ok texts ↔ value = textsToJson texts := by
  cases value with
  | array items =>
      rw [Json.asTexts, Checked.each, Checked.eachFrom_eq_ok_iff]
      simp only [asText_eq_ok_iff, textsToJson, Json.array.injEq]
      rw [← List.forall₂_map_right_iff, List.forall₂_eq_eq_eq]
  | _ => simp [Json.asTexts, Checked.reject, textsToJson]

theorem listed_eq_ok_iff {texts : List Text} : listed name fields = .ok texts ↔
    Json.field? name fields = some (textsToJson texts) ∨
      Json.field? name fields = none ∧ textsToJson texts = .array [] := by
  rw [listed, Checked.under_eq_ok_iff]
  cases Json.field? name fields with
  | none => simp [textsToJson, eq_comm]
  | some value => simp [asTexts_eq_ok_iff]

theorem located_asText (items : List Json) (index : Nat) :
    Checked.located index (items.map fun item => item.asText.issues) =
      ((items.zipIdx index).filter fun (item, _) => !item.isText).map
        fun (_, place) => ⟨[.item place], .notText⟩ := by
  induction items generalizing index with
  | nil => rfl
  | cons item rest ih =>
      rw [List.map_cons, Checked.located_cons, ih, List.zipIdx_cons]
      cases item <;> rfl

theorem issues_listed (name : Text) (fields : Json.Fields) : (listed name fields).issues =
    (FieldShape.listed.issues (Json.field? name fields)).map (·.under (.field name)) := by
  rw [listed, Checked.issues_under]
  cases Json.field? name fields with
  | none => rfl
  | some value =>
      cases value with
      | array items =>
          simp only [Json.asTexts, Checked.each, Checked.issues_eachFrom, located_asText]
          rfl
      | _ => rfl

theorem ofFields_eq_ok_iff {instruction : Instruction} :
    ofFields keyword fields = .ok instruction ↔ instruction.keyword = keyword ∧
      ∀ name value, (name, value) ∈ instruction.ownFields →
        Json.field? name fields = some value ∨
          Json.field? name fields = none ∧ value = .array [] := by
  cases keyword with
  | assets =>
      rw [ofFields, Checked.map_eq_ok_iff]
      cases instruction <;> simp [Instruction.keyword, ownFields, listed_eq_ok_iff]
  | call =>
      rw [ofFields, Checked.map_eq_ok_iff, Prod.exists]
      cases instruction <;> simp [Instruction.keyword, ownFields, Checked.both_eq_ok_iff,
        required_eq_ok_iff, listed_eq_ok_iff, or_imp, forall_and]
  | stop => cases instruction <;> simp [Instruction.keyword, ownFields, ofFields]
  | _ =>
      rw [ofFields, Checked.map_eq_ok_iff]
      cases instruction <;> simp [Instruction.keyword, ownFields, required_eq_ok_iff]

theorem issues_ofFields (keyword : Keyword) (fields : Json.Fields) :
    (ofFields keyword fields).issues = keyword.issues fields := by
  cases keyword with
  | call =>
      simp [ofFields, Checked.issues_map, Checked.issues_both, issues_required, issues_listed,
        Keyword.issues, Keyword.declares]
  | stop => rfl
  | _ =>
      simp [ofFields, Checked.issues_map, issues_required, issues_listed, Keyword.issues,
        Keyword.declares]

theorem admits_required_iff : FieldShape.required.Admits (Json.field? name fields) ↔
    ∃ text, required name fields = .ok text := by
  simp [FieldShape.Admits, required_eq_ok_iff]

theorem admits_listed_iff : FieldShape.listed.Admits (Json.field? name fields) ↔
    ∃ texts, listed name fields = .ok texts := by
  simp only [FieldShape.Admits, listed_eq_ok_iff]
  constructor
  · rintro (absent | ⟨texts, found⟩)
    · exact ⟨[], .inr ⟨absent, rfl⟩⟩
    · exact ⟨texts, .inl found⟩
  · rintro ⟨texts, found | ⟨absent, -⟩⟩
    · exact .inr ⟨texts, found⟩
    · exact .inl absent

theorem exists_ofFields_iff : (∃ instruction, ofFields keyword fields = .ok instruction) ↔
    ∀ name (shape : FieldShape), (name, shape) ∈ keyword.declares →
      shape.Admits (Json.field? name fields) := by
  cases keyword with
  | assets => simp [ofFields, Checked.map_eq_ok_iff, Keyword.declares, admits_listed_iff]
  | call =>
      simp [ofFields, Checked.map_eq_ok_iff, Checked.both_eq_ok_iff, Keyword.declares,
        admits_required_iff, admits_listed_iff, or_imp, forall_and]
  | stop => simp [ofFields, Keyword.declares]
  | _ => simp [ofFields, Checked.map_eq_ok_iff, Keyword.declares, admits_required_iff]

theorem ofFields_congr (own : ∀ name ∈ keyword.declares.map Prod.fst,
    Json.field? name fields = Json.field? name others) :
    ofFields keyword fields = ofFields keyword others := by
  cases keyword <;> simp_all [ofFields, Keyword.declares, required, listed]

end Fields

section Elements

variable {value other : Json} {instruction : Instruction} {keyword : Keyword} {found : List Issue}

theorem kindOf?_eq_some_iff : kindOf? value = some keyword ↔ value = .string keyword.tag := by
  cases value <;> simp [kindOf?, Keyword.ofTag?_eq_some_iff]

theorem kindOf?_eq_none_iff :
    kindOf? value = none ↔ ∀ keyword : Keyword, value ≠ .string keyword.tag := by
  simp only [Option.eq_none_iff_forall_ne_some, ne_eq, kindOf?_eq_some_iff]

theorem ofTagged_of_noKind {fields : Json.Fields} (absent : Json.field? "kind" fields = none) :
    ofTagged (.object fields) = Checked.reject .noKind := by
  simp only [ofTagged, absent]

theorem ofTagged_of_noSuchKind {fields : Json.Fields}
    (tagged : Json.field? "kind" fields = some value) (unknown : kindOf? value = none) :
    ofTagged (.object fields) = Checked.reject (.noSuchKind value.display) := by
  simp only [ofTagged, tagged, unknown]

theorem ofTagged_of_kind {fields : Json.Fields}
    (tagged : Json.field? "kind" fields = some (.string keyword.tag)) :
    ofTagged (.object fields) = (ofFields keyword fields).under (.field keyword.tag) := by
  simp only [ofTagged, tagged, kindOf?, Keyword.ofTag?_tag]

theorem exists_of_ofTagged (read : ofTagged value = .ok instruction) :
    ∃ (fields : Json.Fields) (keyword : Keyword), value = .object fields ∧
      Json.field? "kind" fields = some (.string keyword.tag) ∧
      ofFields keyword fields = .ok instruction := by
  cases value with
  | object fields =>
      rw [ofTagged] at read
      split at read
      next => cases read
      next kind tagged =>
        split at read
        next => cases read
        next keyword known =>
          rw [kindOf?_eq_some_iff.mp known] at tagged
          exact ⟨fields, keyword, rfl, tagged, Checked.under_eq_ok_iff.mp read⟩
  | _ => cases read

theorem ofTagged_eq_ok_iff : ofTagged value = .ok instruction ↔ ReadFrom value instruction := by
  constructor
  · intro read
    obtain ⟨fields, _, rfl, kind, made⟩ := exists_of_ofTagged read
    obtain ⟨rfl, own⟩ := ofFields_eq_ok_iff.mp made
    exact .object kind own
  · rintro ⟨kind, own⟩
    rw [ofTagged_of_kind kind, Checked.under_eq_ok_iff]
    exact ofFields_eq_ok_iff.mpr ⟨rfl, own⟩

theorem isSpelledBy_iff : IsSpelledBy value ↔ ∃ instruction, ofTagged value = .ok instruction := by
  constructor
  · rintro ⟨fields, keyword, rfl, kind, own⟩
    obtain ⟨instruction, made⟩ := exists_ofFields_iff.mpr own
    exact ⟨instruction, by rw [ofTagged_of_kind kind, made]; rfl⟩
  · rintro ⟨instruction, read⟩
    obtain ⟨fields, keyword, rfl, kind, made⟩ := exists_of_ofTagged read
    exact ⟨fields, keyword, rfl, kind, exists_ofFields_iff.mp ⟨instruction, made⟩⟩

theorem complains_iff : Complains value found ↔ found = (ofTagged value).issues := by
  constructor
  · rintro (other | absent | ⟨tagged, unknown⟩ | tagged)
    · cases value with
      | object fields => exact absurd rfl (other fields)
      | _ => rfl
    · rw [ofTagged_of_noKind absent]
      rfl
    · rw [ofTagged_of_noSuchKind tagged (kindOf?_eq_none_iff.mpr unknown)]
      rfl
    · rw [ofTagged_of_kind tagged, Checked.issues_under, issues_ofFields]
  · rintro rfl
    cases value with
    | object fields =>
        cases tagged : Json.field? "kind" fields with
        | none =>
            rw [ofTagged_of_noKind tagged]
            exact .noKind tagged
        | some kind =>
            cases known : kindOf? kind with
            | none =>
                rw [ofTagged_of_noSuchKind tagged known]
                exact .noSuchKind tagged (kindOf?_eq_none_iff.mp known)
            | some keyword =>
                rw [kindOf?_eq_some_iff.mp known] at tagged
                rw [ofTagged_of_kind tagged, Checked.issues_under, issues_ofFields]
                exact .ofKind tagged
    | _ => exact .notObject (by simp)

theorem complains_nil_iff : Complains value [] ↔ IsSpelledBy value := by
  constructor
  · intro quiet
    -- Cases need the empty list as a variable: a kind complains of a mapped list.
    generalize none : ([] : List Issue) = nothing at quiet
    cases quiet with
    | ofKind tagged =>
        rw [eq_comm, List.map_eq_nil_iff] at none
        exact ⟨_, _, rfl, tagged, Keyword.issues_eq_nil_iff.mp none⟩
    | _ => cases none
  · rintro ⟨fields, keyword, rfl, tagged, own⟩
    have quiet := Complains.ofKind tagged
    rwa [Keyword.issues_eq_nil_iff.mpr own] at quiet

theorem ofTagged_congr (agrees : AgreesWith value other) : ofTagged value = ofTagged other := by
  cases agrees with
  | same => rfl
  | object kind kind' own => rw [ofTagged_of_kind kind, ofTagged_of_kind kind', ofFields_congr own]

end Elements

end Instruction

namespace Program

variable {fields others : Json.Fields} {items items' : List Json} {program : Program}

def IsSpelledBy (value : Json) : Prop :=
  ∃ fields : Json.Fields, value = .object fields ∧
    (Json.field? "instructions" fields = none ∨
      ∃ items, Json.field? "instructions" fields = some (.array items) ∧
        ∀ item ∈ items, Instruction.IsSpelledBy item)

structure IsReadByElement (read : Json → Checked Program) : Prop where
  accepts : ∀ value, (∃ program, read value = .ok program) ↔ IsSpelledBy value
  empty : ∀ fields, Json.field? "instructions" fields = none → read (.object fields) = .ok ⟨[]⟩
  reads : ∀ fields items program, Json.field? "instructions" fields = some (.array items) →
    (read (.object fields) = .ok program ↔
      List.Forall₂ Instruction.ReadFrom items program.instructions)
  alone : ∀ item one other, Instruction.ReadFrom item one → Instruction.ReadFrom item other →
    one = other
  reports : ∀ fields items found, Json.field? "instructions" fields = some (.array items) →
    read (.object fields) = .error found → ∃ each, List.Forall₂ Instruction.Complains items each ∧
      found = (Checked.located 0 each).map (·.under (.field "instructions"))
  settled : ∀ item one other, Instruction.Complains item one → Instruction.Complains item other →
    one = other
  quiet : ∀ item, Instruction.Complains item [] ↔ Instruction.IsSpelledBy item
  skips : ∀ fields others, Json.field? "instructions" fields = Json.field? "instructions" others →
    read (.object fields) = read (.object others)
  skipsInside : ∀ fields others items items',
    Json.field? "instructions" fields = some (.array items) →
    Json.field? "instructions" others = some (.array items') →
    List.Forall₂ Instruction.AgreesWith items items' →
      read (.object fields) = read (.object others)

theorem ofJson_of_absent (absent : Json.field? "instructions" fields = none) :
    ofJson (.object fields) = .ok ⟨[]⟩ := by
  simp only [ofJson, absent]

theorem ofJson_of_list (listed : Json.field? "instructions" fields = some (.array items)) :
    ofJson (.object fields) = Program.mk <$> Checked.under (.field "instructions")
      (Checked.each Instruction.ofTagged items) := by
  simp only [ofJson, listed, itemsOf]

theorem ofJson_eq_ok_iff (listed : Json.field? "instructions" fields = some (.array items)) :
    ofJson (.object fields) = .ok program ↔
      List.Forall₂ Instruction.ReadFrom items program.instructions := by
  obtain ⟨instructions⟩ := program
  rw [ofJson_of_list listed, Checked.map_eq_ok_iff]
  simp [Checked.under_eq_ok_iff, Checked.each, Checked.eachFrom_eq_ok_iff,
    Instruction.ofTagged_eq_ok_iff]

theorem exists_read_iff {Reads : Json → Instruction → Prop} :
    (∃ program : Program, List.Forall₂ Reads items program.instructions) ↔
      ∀ item ∈ items, ∃ instruction, Reads item instruction := by
  induction items with
  | nil => exact ⟨fun _ _ held => (List.not_mem_nil held).elim, fun _ => ⟨⟨[]⟩, .nil⟩⟩
  | cons item rest ih =>
      rw [List.forall_mem_cons, ← ih]
      constructor
      · rintro ⟨⟨instructions⟩, read⟩
        cases read with
        | cons first later => exact ⟨⟨_, first⟩, ⟨_⟩, later⟩
      · rintro ⟨⟨instruction, first⟩, program, later⟩
        exact ⟨⟨instruction :: program.instructions⟩, .cons first later⟩

theorem accepts_iff (value : Json) :
    (∃ program, ofJson value = .ok program) ↔ IsSpelledBy value := by
  cases value with
  | object fields =>
      simp only [IsSpelledBy, Json.object.injEq, exists_eq_left']
      cases listed : Json.field? "instructions" fields with
      | none => exact iff_of_true ⟨_, ofJson_of_absent listed⟩ (.inl rfl)
      | some value =>
          cases value with
          | array items =>
              simp [ofJson_eq_ok_iff listed, exists_read_iff, Instruction.isSpelledBy_iff,
                Instruction.ofTagged_eq_ok_iff]
          | _ =>
              -- Simplified in full, the name of the field would fall apart into letters.
              simp only [ofJson, listed, itemsOf, Checked.reject, Checked.map_eq_ok_iff,
                Checked.under_eq_ok_iff]
              simp
  | _ => simp [ofJson, IsSpelledBy, Checked.reject]

/-- A program is read element by element, and everything that is wrong with it is reported. -/
theorem ofJson_byElement : IsReadByElement ofJson := by
  constructor
  case accepts => exact accepts_iff
  case empty => exact fun _ => ofJson_of_absent
  case reads => exact fun _ _ _ => ofJson_eq_ok_iff
  case alone =>
    intro item one other read read'
    rw [← Instruction.ofTagged_eq_ok_iff] at read read'
    exact Except.ok.inj (read.symm.trans read')
  case reports =>
    intro fields items found listed failed
    refine ⟨items.map fun item => (Instruction.ofTagged item).issues, ?_, ?_⟩
    · exact List.forall₂_map_right_iff.mpr (List.forall₂_same.mpr fun _ _ =>
        Instruction.complains_iff.mpr rfl)
    · rw [Checked.issues_of_error failed, ofJson_of_list listed, Checked.issues_map,
        Checked.issues_under, Checked.each, Checked.issues_eachFrom]
  case settled =>
    intro item one other complains complains'
    rw [Instruction.complains_iff.mp complains, Instruction.complains_iff.mp complains']
  case quiet => exact fun _ => Instruction.complains_nil_iff
  case skips =>
    intro fields others same
    simp only [ofJson, same]
  case skipsInside =>
    intro fields others items items' listed listed' agree
    rw [ofJson_of_list listed, ofJson_of_list listed', Checked.each,
      Checked.eachFrom_congr (agree.imp fun _ _ => Instruction.ofTagged_congr), Checked.each]

example : ofJson (.object [("instructions", .array [.null, .object [("kind", .string "call"),
    ("arguments", .array [.string "slow", .integer 2]), ("name", .integer 3)]])]) =
    .error [⟨[.field "instructions", .item 0], .notAnInstruction⟩,
      ⟨[.field "instructions", .item 1, .field "call", .field "action"], .notFound⟩,
      ⟨[.field "instructions", .item 1, .field "call", .field "arguments", .item 1], .notText⟩] :=
  rfl

end Program

end SceneScript
