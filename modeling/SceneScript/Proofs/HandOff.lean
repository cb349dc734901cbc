import Mathlib.Algebra.Group.Int.Defs
import Mathlib.Algebra.Group.Nat.Defs
import SceneScript.Command.Run
import SceneScript.Interchange.Decoding
import SceneScript.Proofs.Json.WriteRead

set_option autoImplicit false

namespace SceneScript

section Decoding

theorem Checked.eachFrom_map {α β : Type} (write : α → β) (check : β → Checked α)
    (inverse : ∀ item, check (write item) = .ok item) (items : List α) (index : Nat) :
    eachFrom check index (items.map write) = .ok items := by
  induction items generalizing index with
  | nil => rfl
  | cons item items ih =>
      rw [List.map_cons, eachFrom, inverse, ih]
      rfl

namespace Instruction

theorem asTexts_textsToJson (texts : List Text) : (textsToJson texts).asTexts = .ok texts :=
  Checked.eachFrom_map Json.string Json.asText (fun _ => rfl) texts 0

theorem required_of_field {name text : Text} {fields : Json.Fields}
    (found : Json.field? name fields = some (.string text)) : required name fields = .ok text := by
  rw [required, found]
  rfl

theorem listed_of_field {name : Text} {texts : List Text} {fields : Json.Fields}
    (found : Json.field? name fields = some (textsToJson texts)) :
    listed name fields = .ok texts := by
  simp only [listed, found, asTexts_textsToJson]
  rfl

theorem ofFields_ownFields (instruction : Instruction) :
    ofFields instruction.keyword (kindField instruction.keyword :: instruction.ownFields) =
      .ok instruction := by
  cases instruction with
  | assets names => rw [keyword, ofFields, listed_of_field rfl]; rfl
  | call action arguments =>
      rw [keyword, ofFields, required_of_field rfl, listed_of_field rfl]; rfl
  | background name => rw [keyword, ofFields, required_of_field rfl]; rfl
  | play track => rw [keyword, ofFields, required_of_field rfl]; rfl
  | say text => rw [keyword, ofFields, required_of_field rfl]; rfl
  | wait duration => rw [keyword, ofFields, required_of_field rfl]; rfl
  | stop => rfl
  | loadScript path => rw [keyword, ofFields, required_of_field rfl]; rfl

theorem ofTagged_toJson (instruction : Instruction) :
    ofTagged instruction.toJson = .ok instruction := by
  -- The kind is the first field, so the field of that name is found whatever else is there.
  have kind : Json.field? "kind" (kindField instruction.keyword :: instruction.ownFields) =
      some (.string instruction.keyword.tag) := rfl
  simp only [toJson, ofTagged, kind, kindOf?, Keyword.ofTag?_tag, ofFields_ownFields]
  rfl

end Instruction

theorem Program.ofJson_toJson (program : Program) : ofJson program.toJson = .ok program := by
  have items : itemsOf (.array (program.instructions.map Instruction.toJson)) =
      .ok program.instructions :=
    Checked.eachFrom_map Instruction.toJson Instruction.ofTagged Instruction.ofTagged_toJson _ 0
  have found (value : Json) :
      Json.field? "instructions" [("instructions".toList, value)] = some value := rfl
  simp only [toJson, ofJson, found, items]
  rfl

end Decoding

section Texts

open Json

theorem Json.textual_array_map {α : Type} {write : α → Json} {depth : Nat}
    (textual : ∀ item, Textual depth (write item)) (items : List α) :
    Textual (depth + 1) (.array (items.map write)) := by
  refine .array fun value listed => ?_
  obtain ⟨item, _, rfl⟩ := List.mem_map.mp listed
  exact textual item

namespace Instruction

theorem nodup_keys (instruction : Instruction) :
    ((kindField instruction.keyword :: instruction.ownFields).map Prod.fst).Nodup := by
  cases instruction <;> simp [kindField, ownFields]

theorem textual_toJson (instruction : Instruction) : Textual 2 instruction.toJson := by
  have texts (texts : List Text) : Textual 1 (textsToJson texts) :=
    textual_array_map (.string 0) texts
  refine .object instruction.nodup_keys ?_
  cases instruction <;> simp [kindField, ownFields, Textual.string, texts]

end Instruction

theorem Program.textual_toJson (program : Program) : Textual 4 program.toJson :=
  .object (by simp)
    (List.forall_mem_singleton.mpr (textual_array_map Instruction.textual_toJson _))

end Texts

section Printing

open Json

theorem Program.written_encode (program : Program) (layout : Layout) :
    ∃ lexemes, Spells 4 program.toJson lexemes ∧ Written (program.encode layout) lexemes :=
  program.textual_toJson.written layout

theorem Program.decode_of_written {program : Program} {text : Text} {lexemes : List Json.Lexeme}
    (spells : Spells 4 program.toJson lexemes) (written : Written text lexemes) :
    decode text = .ok program := by
  rw [decode, Checked.ofText, ofText?_of_written spells written (by decide)]
  exact program.ofJson_toJson

theorem Json.Written.escape_notMem {text : Text} {lexemes : List Json.Lexeme}
    (written : Written text lexemes) : '\x1b' ∉ text := by
  intro within
  have allowed := written.separates_or_space_le _ within
  revert allowed
  decide

theorem Outcome.textOn_succeed {shown : Text} (absent : '\x1b' ∉ shown) :
    (succeed [shown]).textOn .output = shown ++ ['\n'] := by
  simp [succeed, textOn, Line.message, Line.plain, Text.unstyled_of_absent absent]

theorem Command.run_dump {workspace : Workspace} {script : Path} {text : Text} {program : Program}
    (found : workspace.readText script = .ok text)
    (parsed : Program.ofText (some script) text = .ok program) :
    run workspace (.dump script) = .ok (.succeed [program.encode (.indented 2)]) := by
  simp only [run, withScript, found, dumpText, parsed]

end Printing

section Indents

open Json

theorem Json.Layout.exists_ofIndent {indent : Option Nat} (fits : ∀ width ∈ indent, width < 2 ^ 64) :
    ∃ layout, Layout.ofIndent (indent.map Nat.cast) = .ok layout := by
  cases indent with
  | none => exact ⟨_, rfl⟩
  | some width =>
      have small : width < 2 ^ 64 := fits width rfl
      refine ⟨.indented (width : Int).toNat, ?_⟩
      simp only [Option.map_some, ofIndent]
      rw [if_neg (by omega), if_neg (by omega)]

theorem Json.Layout.ofIndent_of_large {width : Nat} (large : 2 ^ 64 ≤ width) :
    Layout.ofIndent (some width) = .error .tooLarge := by
  simp only [ofIndent]
  rw [if_neg (by omega), if_pos (by omega)]

end Indents

namespace Program

theorem decode_encode (program : Program) (layout : Json.Layout) :
    decode (program.encode layout) = .ok program := by
  obtain ⟨lexemes, spells, written⟩ := program.written_encode layout
  exact decode_of_written spells written

theorem decode_printed (program : Program) (layout : Json.Layout) :
    decode ((Outcome.succeed [program.encode layout]).textOn .output) = .ok program := by
  obtain ⟨lexemes, spells, written⟩ := program.written_encode layout
  -- The line end behind the printed value is a separator like those inside of it.
  have blank : Json.separates '\n' := by decide
  have ended := written.append (.separator blank .nil)
  rw [List.append_nil] at ended
  rw [Outcome.textOn_succeed written.escape_notMem]
  exact decode_of_written spells ended

/-- Programs survive the interchange format with every indent that it takes, and so does what a
command prints, both as it is shown and as a file receives it. -/
theorem decode_dump :
    (∀ (program : Program) (indent : Option Nat), (∀ width ∈ indent, width < 2 ^ 64) →
      ∃ text, program.dump (indent.map Nat.cast) = .ok text ∧ decode text = .ok program) ∧
    (∀ (program : Program) (width : Nat), 2 ^ 64 ≤ width →
      program.dump (some width) = .error .tooLarge) ∧
    ∀ (workspace : Workspace) (script : Path) (text : Text) (program : Program),
      workspace.readText script = .ok text → ofText (some script) text = .ok program →
        ∃ shown, Command.run workspace (.dump script) = .ok (.succeed [shown]) ∧
          program.dump (some 2) = .ok shown ∧ decode shown = .ok program ∧
          decode ((Outcome.succeed [shown]).textOn .output) = .ok program := by
  refine ⟨fun program indent fits => ?_, fun program width large => ?_, ?_⟩
  · obtain ⟨layout, taken⟩ := Json.Layout.exists_ofIndent fits
    exact ⟨_, by rw [dump, taken], decode_encode program layout⟩
  · rw [dump, Json.Layout.ofIndent_of_large large]
  · intro workspace script text program found parsed
    exact ⟨_, Command.run_dump found parsed, rfl, decode_encode program _,
      decode_printed program _⟩

end Program

def goodbye : Text := "say \"Bye\" end"

def goodbyeWorkspace : Workspace :=
  ⟨FileTree.empty.addFile ["scene"] (goodbye.map fun c => c.toNat.toUInt8), []⟩

theorem goodbye_dumped :
    (∃ text, Program.dump (some 3) ⟨[.say "\n\"", .stop]⟩ = .ok text ∧
        Program.decode text = .ok ⟨[.say "\n\"", .stop]⟩) ∧
      Program.dump (some (2 ^ 64 + 1)) ⟨[.stop]⟩ = .error .tooLarge ∧
      ∃ shown, Command.run goodbyeWorkspace (.dump (Path.ofText "scene")) =
          .ok (.succeed [shown]) ∧
        Program.dump (some 2) ⟨[.say "Bye", .stop]⟩ = .ok shown ∧
        Program.decode shown = .ok ⟨[.say "Bye", .stop]⟩ ∧
        Program.decode ((Outcome.succeed [shown]).textOn .output) =
          .ok ⟨[.say "Bye", .stop]⟩ := by
  have found : goodbyeWorkspace.readText (Path.ofText "scene") = .ok goodbye := by decide +kernel
  have parsed : Program.ofText (some (Path.ofText "scene")) goodbye =
      .ok ⟨[.say "Bye", .stop]⟩ := by
    decide +kernel
  obtain ⟨taken, refused, printed⟩ := Program.decode_dump
  exact ⟨taken _ (some 3) (by simp), refused _ (2 ^ 64 + 1) (by decide),
    printed _ _ _ _ found parsed⟩

theorem dump_fails_at_large_indent :
    ¬ ∃ text, Program.dump (some (2 ^ 64)) ⟨[]⟩ = .ok text ∧ Program.decode text = .ok ⟨[]⟩ := by
  rintro ⟨text, written, -⟩
  have refused : Program.dump (some (2 ^ 64)) ⟨[]⟩ = .error .tooLarge := by decide +kernel
  rw [refused] at written
  cases written

end SceneScript
