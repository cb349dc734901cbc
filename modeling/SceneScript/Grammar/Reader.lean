import SceneScript.Grammar

set_option autoImplicit false

namespace SceneScript

structure Reader where
  origin : Origin
  tokens : List Token
  offset : Nat
deriving DecidableEq

namespace Reader

inductive Request where
  | peek
  | advance
  | atEnd
  | expect (kinds : List Kind)
  | program
  | instruction
  | ofKeyword (keyword : Keyword)
deriving DecidableEq

inductive Reply where
  | token (token : Option Token)
  | flag (value : Bool)
  | instruction (instruction : Instruction)
  | program (program : Program)
  | diagnostic (diagnostic : Diagnostic)
deriving DecidableEq

def ofTokens (origin : Origin) (tokens : List Token) : Reader := ⟨origin, tokens, 0⟩

def ahead (reader : Reader) : List Token := reader.tokens.drop reader.offset

def leaving (reader : Reader) (rest : List Token) : Reader :=
  { reader with offset := reader.tokens.length - rest.length }

def apply {α : Type} (reader : Reader) (production : Production α) (reply : α → Reply) :
    Reply × Reader :=
  match production reader.ahead with
  | .ok value rest => (reply value, reader.leaving rest)
  | .error fault rest =>
      (.diagnostic (reader.origin.diagnose reader.tokens.getLast? fault), reader.leaving rest)

def perform (reader : Reader) : Request → Reply × Reader
  | .peek => (.token reader.ahead.head?, reader)
  | .advance => (.token reader.ahead.head?, reader.leaving reader.ahead.tail)
  | .atEnd => (.flag (Production.atEnd reader.ahead), reader)
  | .expect kinds => reader.apply (Production.expect kinds) fun token => .token (some token)
  | .program => reader.apply Production.program .program
  | .instruction => reader.apply Production.instruction .instruction
  | .ofKeyword keyword => reader.apply (Production.ofKeyword keyword) .instruction

def run : Reader → List Request → List (Reply × Nat)
  | _, [] => []
  | reader, request :: rest =>
      let step := reader.perform request
      (step.1, step.2.offset) :: run step.2 rest

def Reply.raised : Reply → Except RenderFault Reply
  | diagnostic found =>
      match found.raised with
      | .diagnostic made => .ok (diagnostic made)
      | .fault fault => .error fault
  | reply => .ok reply

def answers (reader : Reader) (requests : List Request) : List (Except RenderFault Reply × Nat) :=
  (reader.run requests).map fun (reply, offset) => (reply.raised, offset)

end Reader

end SceneScript
