import SceneScript.Manifest

set_option autoImplicit false

namespace SceneScript

inductive Format where
  | human
  | editor
deriving DecidableEq

inductive Command where
  | help
  | version
  | check (files : List Path) (manifest : Path) (format : Format)
  | tokens (file : Path)
  | dump (file : Path)
deriving DecidableEq

inductive Setting where
  | help
  | version
  | verbose
  | manifest
  | format
deriving DecidableEq

structure Switch where
  setting : Setting
  name : Text
  letter : Option Char
  takesValue : Bool

namespace Switch

def helpSwitch : Switch := ⟨.help, "--help", none, false⟩

-- The verbose switch is read and dropped: it only adds records of the run, with the time of day,
-- to the error channel, and no outcome holds those.
def general : List Switch :=
  [helpSwitch, ⟨.version, "--version", none, false⟩, ⟨.verbose, "--verbose", some 'v', false⟩]

def forCheck : List Switch :=
  [helpSwitch, ⟨.manifest, "--manifest", some 'm', true⟩, ⟨.format, "--format", some 'f', true⟩]

def forFile : List Switch := [helpSwitch]

def isSwitch (word : Text) : Bool := word.head? = some '-' && 1 < word.length

def named? (switches : List Switch) (name : Text) : Option Switch :=
  switches.find? (·.name = name)

def lettered? (switches : List Switch) (letter : Char) : Option Switch :=
  switches.find? (·.letter = some letter)

structure Given where
  settings : List (Setting × Text)
  open? : Option Setting

def readLetters (switches : List Switch) : Text → Option Given
  | [] => some ⟨[], none⟩
  | letter :: rest => do
      let switch ← lettered? switches letter
      if switch.takesValue then
        if rest = [] then return ⟨[], some switch.setting⟩
        else return ⟨[(switch.setting, rest)], none⟩
      else
        let more ← readLetters switches rest
        return ⟨(switch.setting, []) :: more.settings, more.open?⟩

def readNamed (switch : Switch) (value : Option Text) : Option Given :=
  match switch.takesValue, value with
  | true, some value => some ⟨[(switch.setting, value)], none⟩
  | true, none => some ⟨[], some switch.setting⟩
  | false, none => some ⟨[(switch.setting, [])], none⟩
  | false, some _ => none

def splitValue (word : Text) : Text × Option Text :=
  if '=' ∈ word then
    (word.takeWhile (· ≠ '='), some (word.dropWhile (· ≠ '=')).tail)
  else (word, none)

def readWord (switches : List Switch) (word : Text) : Option Given :=
  let (name, value) := splitValue word
  match named? switches name with
  | some switch => readNamed switch value
  | none => if word.take 2 = ['-', '-'] then none else readLetters switches word.tail

def read (switches : List Switch) (interspersed : Bool) :
    List Text → Option (List (Setting × Text) × List Text)
  | [] => some ([], [])
  | word :: rest =>
      if word = ['-', '-'] then some ([], rest)
      else if isSwitch word then
        match readWord switches word with
        | none => none
        | some ⟨settings, none⟩ => do
            let (more, words) ← read switches interspersed rest
            return (settings ++ more, words)
        | some ⟨settings, some setting⟩ =>
            match rest with
            | [] => none
            | value :: rest => do
                let (more, words) ← read switches interspersed rest
                return (settings ++ (setting, value) :: more, words)
      else if interspersed then do
        let (more, words) ← read switches interspersed rest
        return (more, word :: words)
      else some ([], word :: rest)

end Switch

namespace Command

def last? (setting : Setting) (settings : List (Setting × Text)) : Option Text :=
  ((settings.filter (·.1 = setting)).getLast?).map Prod.snd

def gives (setting : Setting) (settings : List (Setting × Text)) : Bool :=
  settings.any (·.1 = setting)

def pathOf? (word : Text) : Option Path :=
  if '\x00' ∈ word then none else some (Path.ofText word)

def formatOf (word : Text) : Format := if word = "vscode".toList then .editor else .human

def readCheck? (arguments : List Text) : Option Command := do
  let (settings, words) ← Switch.read Switch.forCheck true arguments
  if gives .help settings then return .help
  let files ← words.mapM pathOf?
  let manifest ← pathOf? ((last? .manifest settings).getD Manifest.fileName)
  return .check files manifest (((last? .format settings).map formatOf).getD .human)

def readFile? (command : Path → Command) (arguments : List Text) : Option Command := do
  let (settings, words) ← Switch.read Switch.forFile true arguments
  if gives .help settings then return .help
  match words with
  | [word] => return command (← pathOf? word)
  | _ => none

def requested? (settings : List (Setting × Text)) : Option Command :=
  settings.findSome? fun (setting, _) =>
    match setting with
    | .help => some .help
    | .version => some .version
    | _ => none

/-- Where no command is named, what two hyphens have set apart is read for requests after all. -/
def readCommand? : List Text → Option Command
  | [] => none
  | name :: arguments =>
      if name = "check".toList then readCheck? arguments
      else if name = "tokens".toList then readFile? .tokens arguments
      else if name = "dump".toList then readFile? .dump arguments
      else do
        let (settings, _) ← Switch.read Switch.general false (name :: arguments)
        requested? settings

def ofArguments? (arguments : List Text) : Option Command := do
  let (settings, words) ← Switch.read Switch.general false arguments
  match requested? settings with
  | some command => return command
  | none => readCommand? words

end Command

end SceneScript
