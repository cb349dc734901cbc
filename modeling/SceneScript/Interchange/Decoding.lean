import SceneScript.Instruction
import SceneScript.Interchange.Issue
import SceneScript.Json.Display
import SceneScript.Json.Reader

set_option autoImplicit false

namespace SceneScript

abbrev Checked (α : Type) := Except (List Issue) α

namespace Checked

def reject {α : Type} (complaint : Complaint) : Checked α := .error [.here complaint]

def under {α : Type} (step : Step) : Checked α → Checked α
  | .ok value => .ok value
  | .error issues => .error (issues.map (·.under step))

def both {α β : Type} : Checked α → Checked β → Checked (α × β)
  | .ok first, .ok second => .ok (first, second)
  | .ok _, .error issues => .error issues
  | .error issues, .ok _ => .error issues
  | .error issues, .error more => .error (issues ++ more)

def eachFrom {α β : Type} (check : α → Checked β) : Nat → List α → Checked (List β)
  | _, [] => .ok []
  | index, item :: rest =>
      (fun (value, values) => value :: values) <$>
        both ((check item).under (.item index)) (eachFrom check (index + 1) rest)

def each {α β : Type} (check : α → Checked β) (items : List α) : Checked (List β) :=
  eachFrom check 0 items

end Checked

namespace Json

def asText : Json → Checked Text
  | string text => .ok text
  | _ => Checked.reject .notText

def asTexts : Json → Checked (List Text)
  | array items => Checked.each asText items
  | _ => Checked.reject .notList

end Json

namespace Instruction

def required (name : Text) (fields : Json.Fields) : Checked Text :=
  Checked.under (.field name) <|
    match Json.field? name fields with
    | none => Checked.reject .notFound
    | some value => value.asText

def listed (name : Text) (fields : Json.Fields) : Checked (List Text) :=
  Checked.under (.field name) <|
    match Json.field? name fields with
    | none => .ok []
    | some value => value.asTexts

def ofFields (keyword : Keyword) (fields : Json.Fields) : Checked Instruction :=
  match keyword with
  | .assets => assets <$> listed "names" fields
  | .call =>
      (fun (action, arguments) => call action arguments) <$>
        Checked.both (required "action" fields) (listed "arguments" fields)
  | .background => background <$> required "name" fields
  | .play => play <$> required "track" fields
  | .say => say <$> required "text" fields
  | .wait => wait <$> required "duration" fields
  | .stop => .ok stop
  | .loadScript => loadScript <$> required "path" fields

def isKind (keyword : Keyword) : Json → Bool
  | .string tag => tag = keyword.tag
  | _ => false

def checkKind (keyword : Keyword) (fields : Json.Fields) : Checked Unit :=
  match Json.field? "kind" fields with
  | none => .ok ()
  | some kind =>
      if isKind keyword kind then .ok ()
      else Checked.under (.field "kind") (Checked.reject (.otherKind keyword))

def ofJson (keyword : Keyword) : Json → Checked Instruction
  | .object fields =>
      Prod.snd <$> Checked.both (checkKind keyword fields) (ofFields keyword fields)
  | _ => Checked.reject (.notObject (.instruction keyword))

def kindOf? : Json → Option Keyword
  | .string tag => Keyword.ofTag? tag
  | _ => none

def ofTagged : Json → Checked Instruction
  | .object fields =>
      match Json.field? "kind" fields with
      | none => Checked.reject .noKind
      | some kind =>
          match kindOf? kind with
          | none => Checked.reject (.noSuchKind kind.display)
          | some keyword => Checked.under (.field keyword.tag) (ofFields keyword fields)
  | _ => Checked.reject .notAnInstruction

end Instruction

namespace Program

def itemsOf : Json → Checked (List Instruction)
  | .array items => Checked.each Instruction.ofTagged items
  | _ => Checked.reject .notList

def ofJson : Json → Checked Program
  | .object fields =>
      match Json.field? "instructions" fields with
      | none => .ok ⟨[]⟩
      | some value => Program.mk <$> Checked.under (.field "instructions") (itemsOf value)
  | _ => Checked.reject (.notObject .program)

end Program

def Checked.limits : Json.Limits := ⟨some 4300, some 200⟩

def Checked.ofText {α : Type} (check : Json → Checked α) (text : Text) : Checked α :=
  match Json.ofText? Checked.limits text with
  | none => Checked.reject .unreadable
  | some value => check value

namespace Program

def decode (text : Text) : Checked Program := Checked.ofText ofJson text

end Program

namespace Instruction

def decode (keyword : Keyword) (text : Text) : Checked Instruction :=
  Checked.ofText (ofJson keyword) text

end Instruction

end SceneScript
