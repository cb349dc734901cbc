import SceneScript.Token

set_option autoImplicit false

namespace SceneScript

inductive Source where
  | value
  | text
deriving DecidableEq

inductive Target where
  | program
  | instruction (keyword : Keyword)
deriving DecidableEq

namespace Target

def typeName : Target → Text
  | program => "Program"
  | instruction .assets => "AssetsInstruction"
  | instruction .call => "CallInstruction"
  | instruction .background => "BackgroundInstruction"
  | instruction .play => "PlayInstruction"
  | instruction .say => "SayInstruction"
  | instruction .wait => "WaitInstruction"
  | instruction .stop => "EndInstruction"
  | instruction .loadScript => "LoadScriptInstruction"

end Target

inductive Step where
  | field (name : Text)
  | item (index : Nat)
deriving DecidableEq

inductive Complaint where
  | notFound
  | notText
  | notList
  | otherKind (wanted : Keyword)
  | notObject (target : Target)
  | notAnInstruction
  | noKind
  | noSuchKind (shown : Text)
  | unreadable
deriving DecidableEq

structure Issue where
  place : List Step
  complaint : Complaint
deriving DecidableEq

namespace Complaint

def member (keyword : Keyword) : Text :=
  "<InstructionKind." ++ keyword.label ++ ": " ++ Text.quoted keyword.tag ++ ">"

def code (source : Source) : Complaint → Text
  | notFound => "missing"
  | notText => "string_type"
  | notList => "tuple_type"
  | otherKind _ => "literal_error"
  | notObject _ => "model_type"
  | notAnInstruction =>
      match source with
      | .value => "model_attributes_type"
      | .text => "dict_type"
  | noKind => "union_tag_not_found"
  | noSuchKind _ => "union_tag_invalid"
  | unreadable => "json_invalid"

def tagsPlaceholder : Text := "\x7bexpected_tags\x7d"

def tagTemplate (shown : Text) : Text :=
  "Input tag '" ++ shown ++ "' found using 'kind' does not match any of the expected tags: "
    ++ tagsPlaceholder

def message (source : Source) : Complaint → Text
  | notFound => "Field required"
  | notText => "Input should be a valid string"
  | notList =>
      match source with
      | .value => "Input should be a valid tuple"
      | .text => "Input should be a valid array"
  | otherKind wanted => "Input should be " ++ member wanted
  | notObject target =>
      match source with
      | .value => "Input should be a valid dictionary or instance of " ++ target.typeName
      | .text => "Input should be an object"
  | notAnInstruction =>
      match source with
      | .value => "Input should be a valid dictionary or object to extract fields from"
      | .text => "Input should be an object"
  | noKind => "Unable to extract tag using discriminator 'kind'"
  | noSuchKind shown =>
      Text.fill tagsPlaceholder (List.intercalate [',', ' '] (Keyword.all.map member))
        (tagTemplate shown)
  | unreadable => "Invalid JSON"

end Complaint

namespace Issue

def here (complaint : Complaint) : Issue := ⟨[], complaint⟩

def under (step : Step) (issue : Issue) : Issue := { issue with place := step :: issue.place }

end Issue

end SceneScript
