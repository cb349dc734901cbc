import SceneScript.Excerpt
import SceneScript.Token

set_option autoImplicit false

namespace SceneScript

inductive Family where
  | general
  | parse
  | unknownInstruction
  | unexpectedKind
  | manifest
deriving DecidableEq

namespace Family

def all : List Family := [general, parse, unknownInstruction, unexpectedKind, manifest]

def includes : Family → Family → Bool
  | general, _ => true
  | parse, unknownInstruction | parse, unexpectedKind => true
  | family, other => family = other

end Family

inductive Subject where
  | general
  | parse
  | unknownInstruction (token : Option Token)
  | unexpectedKind (expected : List Kind) (actual : Kind) (token : Option Token)
  | manifest
deriving DecidableEq

def Subject.family : Subject → Family
  | general => .general
  | parse => .parse
  | unknownInstruction _ => .unknownInstruction
  | unexpectedKind _ _ _ => .unexpectedKind
  | manifest => .manifest

structure Diagnostic where
  subject : Subject
  message : Text
  context : Option Context
deriving DecidableEq

/-- What making a diagnostic comes to: its context is written on the spot. -/
inductive Raised where
  | diagnostic (diagnostic : Diagnostic)
  | fault (fault : RenderFault)
deriving DecidableEq

namespace Diagnostic

def raised (diagnostic : Diagnostic) : Raised :=
  match diagnostic.context with
  | none => .diagnostic diagnostic
  | some context =>
      match context.format with
      | .ok _ => .diagnostic diagnostic
      | .error fault => .fault fault

def render (diagnostic : Diagnostic) : Text :=
  match diagnostic.context with
  | some context => context.render ++ "\n" ++ diagnostic.message
  | none => diagnostic.message

def families (diagnostic : Diagnostic) : List Family :=
  Family.all.filter (·.includes diagnostic.subject.family)

def manifest (message : Text) (file : Option Path) : Diagnostic where
  subject := .manifest
  message :=
    match file with
    | some path => path.toText ++ ": " ++ message
    | none => message
  context := none

end Diagnostic

end SceneScript
