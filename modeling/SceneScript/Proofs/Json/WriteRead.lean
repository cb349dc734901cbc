import SceneScript.Proofs.Json.Denotation

set_option autoImplicit false

namespace SceneScript.Json

inductive Textual : Nat → Json → Prop where
  | string (depth : Nat) (text : Text) : Textual depth (.string text)
  | array {depth : Nat} {items : List Json} (inside : ∀ item ∈ items, Textual depth item) :
      Textual (depth + 1) (.array items)
  | object {depth : Nat} {fields : Fields} (distinct : (fields.map Prod.fst).Nodup)
      (inside : ∀ field ∈ fields, Textual depth field.2) : Textual (depth + 1) (.object fields)

def Member.field (member : Member) : Text × Json := (member.key, member.value)

theorem setField_of_absent {key : Text} {fields : Fields} (absent : key ∉ fields.map Prod.fst)
    (value : Json) : setField key value fields = fields ++ [(key, value)] := by
  induction fields with
  | nil => rfl
  | cons field fields ih =>
      rw [List.map_cons, List.mem_cons, not_or] at absent
      rw [setField, if_neg (Ne.symm absent.1), ih absent.2, List.cons_append]

theorem collect_of_nodup {done : Fields} {members : List Member}
    (distinct : ((done ++ members.map Member.field).map Prod.fst).Nodup) :
    collect done members = done ++ members.map Member.field := by
  induction members generalizing done with
  | nil => exact (List.append_nil done).symm
  | cons member members ih =>
      have absent : member.key ∉ done.map Prod.fst := by
        intro present
        rw [List.map_append, List.nodup_append] at distinct
        exact distinct.2.2 _ present _ List.mem_cons_self rfl
      have moved : done ++ (member :: members).map Member.field =
          (done ++ [(member.key, member.value)]) ++ members.map Member.field := by
        simp [Member.field]
      rw [moved] at distinct ⊢
      rw [← ih distinct, collect, List.foldl_cons, setField_of_absent absent]
      rfl

def Wrote (layout : Layout) (depth : Nat) (value : Json) : Prop :=
  ∀ margin, ∃ lexemes, Spells depth value lexemes ∧ Written (write layout margin value) lexemes

section Inside

variable (layout : Layout) {depth : Nat} {text : Text} {lexemes : List Lexeme}

theorem written_after_comma (margin : Nat) (written : Written text lexemes) :
    Written (',' :: layout.lineBreak margin ++ text) (.comma :: lexemes) :=
  .mark (by rfl) ((Written.lineBreak layout margin).append written)

theorem written_between {opening closing : Char} {first last : Lexeme}
    (opens : mark? opening = some first) (closes : mark? closing = some last) (margin : Nat)
    (written : Written text lexemes) :
    Written (opening :: layout.lineBreak (margin + 1) ++ text ++ layout.lineBreak margin
      ++ [closing]) (first :: (lexemes ++ [last])) := by
  have inner := ((Written.lineBreak layout (margin + 1)).append written).append
    ((Written.lineBreak layout margin).append (.mark closes .nil))
  simpa only [List.append_assoc, List.cons_append, List.nil_append] using Written.mark opens inner

variable {layout}

theorem wrote_items {items : List Json} (wrote : ∀ item ∈ items, Wrote layout depth item)
    (margin : Nat) :
    ∃ entries : List Entry, entries.map Entry.value = items ∧
      (∀ entry ∈ entries, Spells depth entry.value entry.lexemes) ∧
      Written (writeItems layout margin items)
        (entries.flatMap fun entry => .comma :: entry.lexemes) := by
  induction items with
  | nil => exact ⟨[], rfl, by simp, .nil⟩
  | cons item items ih =>
      rw [List.forall_mem_cons] at wrote
      obtain ⟨lexemes, spells, written⟩ := wrote.1 margin
      obtain ⟨entries, rfl, inside, others⟩ := ih wrote.2
      refine ⟨⟨item, lexemes⟩ :: entries, rfl, List.forall_mem_cons.mpr ⟨spells, inside⟩, ?_⟩
      exact (written_after_comma layout margin written).append others

theorem wrote_field {field : Text × Json} (wrote : Wrote layout depth field.2) (margin : Nat) :
    ∃ member : Member, member.field = field ∧ Spells depth member.value member.lexemes ∧
      Written (writeString field.1 ++ layout.afterKey ++ write layout margin field.2)
        member.spelling := by
  obtain ⟨lexemes, spells, written⟩ := wrote margin
  exact ⟨⟨⟨field.2, lexemes⟩, field.1⟩, rfl, spells,
    ((Written.writeString field.1).append (.afterKey layout)).append written⟩

theorem wrote_fields {fields : Fields} (wrote : ∀ field ∈ fields, Wrote layout depth field.2)
    (margin : Nat) :
    ∃ members : List Member, members.map Member.field = fields ∧
      (∀ member ∈ members, Spells depth member.value member.lexemes) ∧
      Written (writeFields layout margin fields)
        (members.flatMap fun member => .comma :: member.spelling) := by
  induction fields with
  | nil => exact ⟨[], rfl, by simp, .nil⟩
  | cons field fields ih =>
      rw [List.forall_mem_cons] at wrote
      obtain ⟨member, rfl, spells, written⟩ := wrote_field wrote.1 margin
      obtain ⟨members, rfl, inside, others⟩ := ih wrote.2
      refine ⟨member :: members, rfl, List.forall_mem_cons.mpr ⟨spells, inside⟩, ?_⟩
      have spelled := (written_after_comma layout margin written).append others
      simpa only [Member.field, writeFields, List.flatMap_cons, List.append_assoc,
        List.cons_append] using spelled

end Inside

theorem ofText?_of_written {limits : Limits} {depth : Nat} {value : Json} {text : Text}
    {lexemes : List Lexeme} (spells : Spells depth value lexemes)
    (written : Written text lexemes) (room : Limits.admits limits.nesting depth) :
    ofText? limits text = some value :=
  Denotes.read ⟨depth, lexemes, spells, .written written, room⟩

namespace Textual

variable {depth : Nat} {value : Json}

theorem wrote (textual : Textual depth value) (layout : Layout) : Wrote layout depth value := by
  induction textual with
  | string depth text => exact fun _ => ⟨_, .string depth text, .writeString text⟩
  | @array depth items _ ih =>
      intro margin
      cases items with
      | nil => exact ⟨_, .emptyArray _, .mark rfl (.mark rfl .nil)⟩
      | cons item items =>
          rw [List.forall_mem_cons] at ih
          obtain ⟨lexemes, spells, written⟩ := ih.1 (margin + 1)
          obtain ⟨entries, rfl, inside, others⟩ := wrote_items ih.2 (margin + 1)
          have spelling := @Spells.array depth ⟨item, lexemes⟩ entries
            (List.forall_mem_cons.mpr ⟨spells, inside⟩)
          have opens : mark? '[' = some .openArray := rfl
          have closes : mark? ']' = some .closeArray := rfl
          have spelled := written_between layout opens closes margin (written.append others)
          exact ⟨_, spelling, by simpa only [write, List.append_assoc] using spelled⟩
  | @object depth fields distinct _ ih =>
      intro margin
      cases fields with
      | nil => exact ⟨_, .emptyObject _, .mark rfl (.mark rfl .nil)⟩
      | cons field fields =>
          rw [List.forall_mem_cons] at ih
          obtain ⟨member, rfl, spells, written⟩ := wrote_field ih.1 (margin + 1)
          obtain ⟨members, rfl, inside, others⟩ := wrote_fields ih.2 (margin + 1)
          have spelling := Spells.object (List.forall_mem_cons.mpr ⟨spells, inside⟩)
          -- No key stands twice, so the fields are collected as they were written.
          rw [collect_of_nodup distinct] at spelling
          have opens : mark? '{' = some .openObject := rfl
          have closes : mark? '}' = some .closeObject := rfl
          have spelled := written_between layout opens closes margin (written.append others)
          exact ⟨_, spelling, by simpa only [write, Member.field, List.append_assoc] using spelled⟩

theorem written (textual : Textual depth value) (layout : Layout) :
    ∃ lexemes, Spells depth value lexemes ∧ Written (value.toText layout) lexemes :=
  textual.wrote layout 0

end Textual

end SceneScript.Json
