import Mathlib.Data.List.Forall2
import SceneScript.Manifest

set_option autoImplicit false

namespace SceneScript

namespace Toml

def WritesTable (inner : Fields) (value : Toml) : Prop := value = .table inner

def WritesText (text : Text) (value : Toml) : Prop := value = .string text

def WritesTexts (texts : List Text) (value : Toml) : Prop := value = .array (texts.map .string)

def tableAt (part : Text) (fields : Fields) : Fields :=
  match fields.lookup part with
  | some (.table inner) => inner
  | _ => []

def valueIn (part key : Text) (fields : Fields) : Option Toml := (tableAt part fields).lookup key

/-- The value is what stands there, or the default if nothing does. -/
inductive Gives {α : Type} (writes : α → Toml → Prop) (default : α) : Option Toml → α → Prop where
  | absent : Gives writes default none default
  | present {value : Toml} {found : α} (written : writes found value) :
      Gives writes default (some value) found

theorem Gives.unique {α : Type} {writes : α → Toml → Prop} {default : α} {value : Option Toml}
    {one other : α} (same : ∀ one other value, writes one value → writes other value → one = other)
    (first : Gives writes default value one) (second : Gives writes default value other) :
    one = other := by
  cases first with
  | absent =>
      cases second
      rfl
  | present written =>
      cases second with
      | present written' => exact same _ _ _ written written'

theorem WritesText.unique (one other : Text) (value : Toml) (first : WritesText one value)
    (second : WritesText other value) : one = other := by
  cases first
  cases second
  rfl

theorem WritesTexts.unique (one other : List Text) (value : Toml) (first : WritesTexts one value)
    (second : WritesTexts other value) : one = other := by
  cases first
  simp only [WritesTexts, array.injEq] at second
  exact (List.map_inj_right fun _ _ => string.inj).mp second

theorem tableAt_of_gives {fields inner : Fields} {part : Text}
    (given : Gives WritesTable [] (fields.lookup part) inner) : tableAt part fields = inner := by
  generalize stands : fields.lookup part = value at given
  cases given with
  | absent => simp [tableAt, stands]
  | present written =>
      cases written
      simp [tableAt, stands]

theorem valueIn_of_gives {fields inner : Fields} {part : Text}
    (given : Gives WritesTable [] (fields.lookup part) inner) (key : Text) :
    valueIn part key fields = inner.lookup key := by
  rw [valueIn, tableAt_of_gives given]

theorem lookup_setField (name : Text) (value : Toml) (fields : Fields) :
    (setField name value fields).lookup name = some value := by
  induction fields with
  | nil => simp [setField]
  | cons field rest ih =>
      obtain ⟨other, old⟩ := field
      by_cases same : other = name
      next => simp [setField, same]
      next =>
        have apart : (name == other) = false := beq_false_of_ne (Ne.symm same)
        simp [setField, same, List.lookup_cons, apart, ih]

theorem lookup_setField_of_ne {name asked : Text} (apart : asked ≠ name) (value : Toml)
    (fields : Fields) : (setField name value fields).lookup asked = fields.lookup asked := by
  induction fields with
  | nil => simp [setField, apart]
  | cons field rest ih =>
      obtain ⟨other, old⟩ := field
      by_cases same : other = name
      next =>
        have elsewhere : (asked == name) = false := beq_false_of_ne apart
        simp [setField, same, List.lookup_cons, elsewhere]
      next => simp [setField, same, List.lookup_cons, ih]

end Toml

namespace Manifest

open Toml

/-- What a manifest asks of one of its tables, or of what stands at a key of the table. -/
structure Rule where
  fault : ManifestFault
  part : Text
  key : Option Text
  form : Toml → Prop
  demand : Text

namespace Rule

def value (rule : Rule) (fields : Fields) : Option Toml :=
  match rule.key with
  | none => fields.lookup rule.part
  | some key => valueIn rule.part key fields

def Holds (rule : Rule) (fields : Fields) : Prop :=
  ∀ value, rule.value fields = some value → rule.form value

def message (rule : Rule) : Text :=
  "[" ++ rule.part ++ "] " ++ (rule.key.elim [] fun key => key ++ [' ']) ++ "must be " ++
    rule.demand

end Rule

def tableRule (fault : ManifestFault) (part : Text) : Rule :=
  ⟨fault, part, none, fun value => ∃ inner, WritesTable inner value, "a table"⟩

def textRule (fault : ManifestFault) (part key : Text) : Rule :=
  ⟨fault, part, some key, fun value => ∃ text, WritesText text value, "a string"⟩

def textsRule (fault : ManifestFault) (part key : Text) : Rule :=
  ⟨fault, part, some key, fun value => ∃ texts, WritesTexts texts value, "a list of strings"⟩

def tableRules : List Rule :=
  [tableRule .projectNotTable "project", tableRule .scriptsNotTable "scripts"]

def keptRules : List Rule :=
  [textRule .nameNotText "project" "name", textRule .entryNotText "project" "entry",
    textsRule .pathsNotTexts "scripts" "paths"]

def extensionRule : Rule := textRule .extensionNotText "scripts" "extension"

def rules : List Rule := tableRules ++ keptRules ++ [extensionRule]

def FirstBroken (rules : List Rule) (fields : Fields) (rule : Rule) : Prop :=
  ∃ passed later, rules = passed ++ rule :: later ∧ (∀ other ∈ passed, other.Holds fields) ∧
    ¬ rule.Holds fields

/-- Everything that stands in the document is taken as it is, but for the dot of the extension. -/
structure Describes (path : Path) (fields : Fields) (manifest : Manifest) : Prop where
  root : manifest.root = path.parent
  name : Gives WritesText path.parent.name (valueIn "project" "name" fields) manifest.name
  entry : valueIn "project" "entry" fields = manifest.entry.map .string
  paths : Gives WritesTexts ["scripts/"] (valueIn "scripts" "paths" fields) manifest.scripts.paths
  extension : ∃ written, Gives WritesText ".kat" (valueIn "scripts" "extension" fields) written ∧
    (written.head? = some '.' ∧ manifest.scripts.extension = written ∨
      written.head? ≠ some '.' ∧ manifest.scripts.extension = '.' :: written)

/-- The documents may differ in the extension, and in everything that no rule is about. -/
structure Keeps (fields others : Fields) : Prop where
  tables : ∀ rule ∈ tableRules, rule.Holds fields ↔ rule.Holds others
  kept : ∀ rule ∈ keptRules, rule.value fields = rule.value others

def withExtension (extension : Text) (fields : Fields) : Fields :=
  setField "scripts"
    (.table (setField "extension" (.string extension) (tableAt "scripts" fields))) fields

section Forms

theorem asTable?_eq_some_iff (value : Toml) (inner : Fields) :
    asTable? value = some inner ↔ WritesTable inner value := by
  cases value <;> simp [asTable?, WritesTable]

theorem asText?_eq_some_iff (value : Toml) (text : Text) :
    asText? value = some text ↔ WritesText text value := by
  cases value <;> simp [asText?, WritesText]

theorem mapM_asText?_eq_some_iff (items : List Toml) (texts : List Text) :
    items.mapM asText? = some texts ↔ items = texts.map .string := by
  induction items generalizing texts with
  | nil => cases texts <;> simp
  | cons item items ih =>
      cases texts with
      | nil => simp [List.mapM_cons, Option.bind_eq_some_iff]
      | cons text texts =>
          simp [List.mapM_cons, Option.bind_eq_some_iff, asText?_eq_some_iff, ih, WritesText]

theorem asTexts?_eq_some_iff (value : Toml) (texts : List Text) :
    asTexts? value = some texts ↔ WritesTexts texts value := by
  cases value <;> simp [asTexts?, WritesTexts, mapM_asText?_eq_some_iff]

def WritesEntry (entry : Option Text) (value : Toml) : Prop := entry.map .string = some value

theorem map_asText?_eq_some_iff (value : Toml) (entry : Option Text) :
    (asText? value).map some = some entry ↔ WritesEntry entry value := by
  cases value <;> simp [asText?, WritesEntry, Option.map_eq_some_iff, eq_comm]

theorem exists_writesEntry_iff (value : Toml) :
    (∃ text, WritesText text value) ↔ ∃ entry, WritesEntry entry value := by
  simp [WritesText, WritesEntry, Option.map_eq_some_iff, Option.exists, eq_comm]

theorem eq_map_of_gives {value : Option Toml} {entry : Option Text}
    (given : Gives WritesEntry none value entry) : value = entry.map .string := by
  cases given with
  | absent => rfl
  | present written => exact written.symm

end Forms

inductive Follows (fields : Fields) (meets : Manifest → Prop) :
    List Rule → Except ManifestFault Manifest → Prop where
  | done {manifest : Manifest} (met : meets manifest) : Follows fields meets [] (.ok manifest)
  | broken {rule : Rule} {rest : List Rule} (violated : ¬ rule.Holds fields) :
      Follows fields meets (rule :: rest) (.error rule.fault)
  | passed {rule : Rule} {rest : List Rule} {result : Except ManifestFault Manifest}
      (holds : rule.Holds fields) (further : Follows fields meets rest result) :
      Follows fields meets (rule :: rest) result

section Follows

variable {fields : Fields} {meets : Manifest → Prop} {rest : List Rule}
  {result : Except ManifestFault Manifest}

theorem Follows.field {α : Type} {form : Toml → Option α} {writes : α → Toml → Prop} {name : Text}
    {inner : Fields} {next : α → Except ManifestFault Manifest} (default : α) (rule : Rule)
    (reads : ∀ value found, form value = some found ↔ writes found value)
    (formed : ∀ value, rule.form value ↔ ∃ found, writes found value)
    (stands : rule.value fields = inner.lookup name)
    (further : ∀ found, Gives writes default (rule.value fields) found →
      Follows fields meets rest (next found)) :
    Follows fields meets (rule :: rest) (fieldOr name default form rule.fault inner >>= next) := by
  cases met : inner.lookup name with
  | none =>
      rw [stands, met] at further
      have holds : rule.Holds fields := by simp [Rule.Holds, stands, met]
      rw [show fieldOr name default form rule.fault inner = .ok default by simp [fieldOr, met]]
      exact passed holds (further default .absent)
  | some value =>
      rw [stands, met] at further
      cases took : form value with
      | none =>
          have violated : ¬ rule.Holds fields := by
            intro holds
            obtain ⟨found, written⟩ := (formed value).mp (holds value (stands.trans met))
            rw [(reads ..).mpr written] at took
            cases took
          rw [show fieldOr name default form rule.fault inner = .error rule.fault by
            simp [fieldOr, met, took]]
          exact broken violated
      | some found =>
          have written := (reads ..).mp took
          have holds : rule.Holds fields := by
            intro other there
            obtain rfl := Option.some.inj ((stands.trans met).symm.trans there)
            exact (formed value).mpr ⟨found, written⟩
          rw [show fieldOr name default form rule.fault inner = .ok found by
            simp [fieldOr, met, took]]
          exact passed holds (further found (.present written))

theorem Follows.result_spec (follows : Follows fields meets rest result) :
    (∃ manifest, result = .ok manifest ∧ (∀ rule ∈ rest, rule.Holds fields) ∧ meets manifest) ∨
      ∃ rule, FirstBroken rest fields rule ∧ result = .error rule.fault := by
  induction follows with
  | done met => exact .inl ⟨_, rfl, by simp, met⟩
  | broken violated => exact .inr ⟨_, ⟨[], _, rfl, by simp, violated⟩, rfl⟩
  | passed holds _ ih =>
      rcases ih with ⟨manifest, ended, others, met⟩ |
        ⟨rule, ⟨before, later, rfl, others, violated⟩, ended⟩
      · exact .inl ⟨manifest, ended, List.forall_mem_cons.mpr ⟨holds, others⟩, met⟩
      · exact .inr ⟨rule, ⟨_ :: before, later, rfl, List.forall_mem_cons.mpr ⟨holds, others⟩,
          violated⟩, ended⟩

theorem Follows.eq_error_of_firstBroken (follows : Follows fields meets rest result) {rule : Rule}
    (first : FirstBroken rest fields rule) : result = .error rule.fault := by
  obtain ⟨before, later, divided, others, violated⟩ := first
  -- Along the run: a rule that was passed stands in front of the broken one, and no other does.
  induction follows generalizing before with
  | done => simp at divided
  | broken violated' =>
      cases before with
      | nil =>
          obtain ⟨rfl, -⟩ := List.cons.inj divided
          rfl
      | cons other before =>
          obtain ⟨rfl, -⟩ := List.cons.inj divided
          exact absurd (others _ List.mem_cons_self) violated'
  | passed holds _ ih =>
      cases before with
      | nil =>
          obtain ⟨rfl, -⟩ := List.cons.inj divided
          exact absurd holds violated
      | cons other before =>
          obtain ⟨-, behind⟩ := List.cons.inj divided
          exact ih before behind (List.forall_mem_cons.mp others).2

theorem not_firstBroken {rule : Rule} (holds : ∀ other ∈ rest, other.Holds fields) :
    ¬ FirstBroken rest fields rule := by
  rintro ⟨before, later, rfl, -, violated⟩
  exact violated (holds rule (by simp))

end Follows

theorem Describes.unique {path : Path} {fields : Fields} {one other : Manifest}
    (first : Describes path fields one) (second : Describes path fields other) : one = other := by
  obtain ⟨name, root, entry, ⟨paths, extension⟩⟩ := one
  obtain ⟨name', root', entry', ⟨paths', extension'⟩⟩ := other
  have names : name = name' := first.name.unique WritesText.unique second.name
  have roots : root = root' := first.root.trans second.root.symm
  have entries : entry = entry' :=
    Option.map_injective (fun _ _ => string.inj) (first.entry.symm.trans second.entry)
  have places : paths = paths' := first.paths.unique WritesTexts.unique second.paths
  have extensions : extension = extension' := by
    obtain ⟨written, given, made⟩ := first.extension
    obtain ⟨written', given', made'⟩ := second.extension
    obtain rfl := given.unique WritesText.unique given'
    rcases made with ⟨dotted, rfl⟩ | ⟨bare, rfl⟩ <;> rcases made' with ⟨dotted', rfl⟩ | ⟨bare', rfl⟩
    · rfl
    · exact absurd dotted bare'
    · exact absurd dotted' bare
    · rfl
  rw [names, roots, entries, places, extensions]

theorem withDot_spec (written : Text) :
    written.head? = some '.' ∧ withDot written = written ∨
      written.head? ≠ some '.' ∧ withDot written = '.' :: written := by
  by_cases dotted : written.head? = some '.' <;> simp [withDot, dotted]

theorem ofFields_follows (path : Path) (fields : Fields) :
    Follows fields (Describes path fields) rules (ofFields path fields) := by
  -- The tables come first: the other four rules are about keys of what was taken for them.
  refine Follows.field [] (tableRule .projectNotTable "project") asTable?_eq_some_iff
    (fun _ => Iff.rfl) rfl fun project givesProject => ?_
  refine Follows.field [] (tableRule .scriptsNotTable "scripts") asTable?_eq_some_iff
    (fun _ => Iff.rfl) rfl fun scripts givesScripts => ?_
  have inProject := valueIn_of_gives givesProject
  have inScripts := valueIn_of_gives givesScripts
  refine Follows.field path.parent.name (textRule .nameNotText "project" "name")
    asText?_eq_some_iff (fun _ => Iff.rfl) (inProject _) fun name givesName => ?_
  refine Follows.field none (textRule .entryNotText "project" "entry") map_asText?_eq_some_iff
    exists_writesEntry_iff (inProject _) fun entry givesEntry => ?_
  refine Follows.field defaultPaths (textsRule .pathsNotTexts "scripts" "paths")
    asTexts?_eq_some_iff (fun _ => Iff.rfl) (inScripts _) fun paths givesPaths => ?_
  refine Follows.field defaultExtension extensionRule asText?_eq_some_iff (fun _ => Iff.rfl)
    (inScripts _) fun extension givesExtension => ?_
  exact .done ⟨rfl, givesName, eq_map_of_gives givesEntry, givesPaths, extension,
    givesExtension, withDot_spec extension⟩

theorem ofFields_eq_ok_iff {path : Path} {fields : Fields} {manifest : Manifest} :
    ofFields path fields = .ok manifest ↔
      (∀ rule ∈ rules, rule.Holds fields) ∧ Describes path fields manifest := by
  have follows := ofFields_follows path fields
  constructor
  · intro read
    rcases follows.result_spec with ⟨other, ended, holds, described⟩ | ⟨rule, _, ended⟩
    · rw [read] at ended
      cases ended
      exact ⟨holds, described⟩
    · rw [read] at ended
      cases ended
  · rintro ⟨holds, described⟩
    rcases follows.result_spec with ⟨other, ended, _, described'⟩ | ⟨rule, first, _⟩
    · rw [ended, described.unique described']
    · exact absurd first (not_firstBroken holds)

theorem exists_ofFields_eq_ok_iff {path : Path} {fields : Fields} :
    (∃ manifest, ofFields path fields = .ok manifest) ↔ ∀ rule ∈ rules, rule.Holds fields := by
  constructor
  · rintro ⟨manifest, read⟩
    exact (ofFields_eq_ok_iff.mp read).1
  · intro holds
    rcases (ofFields_follows path fields).result_spec with ⟨manifest, read, _⟩ | ⟨_, first, _⟩
    · exact ⟨manifest, read⟩
    · exact absurd first (not_firstBroken holds)

theorem ofFields_eq_error_iff {path : Path} {fields : Fields} {fault : ManifestFault} :
    ofFields path fields = .error fault ↔
      ∃ rule, FirstBroken rules fields rule ∧ fault = rule.fault := by
  have follows := ofFields_follows path fields
  constructor
  · intro read
    rcases follows.result_spec with ⟨manifest, ended, _⟩ | ⟨rule, first, ended⟩
    · rw [read] at ended
      cases ended
    · rw [read] at ended
      exact ⟨rule, first, Except.error.inj ended⟩
  · rintro ⟨rule, first, rfl⟩
    exact follows.eq_error_of_firstBroken first

theorem Describes.head?_extension {path : Path} {fields : Fields} {manifest : Manifest}
    (described : Describes path fields manifest) :
    manifest.scripts.extension.head? = some '.' := by
  obtain ⟨written, _, ⟨dotted, same⟩ | ⟨_, same⟩⟩ := described.extension
  · rw [same, dotted]
  · rw [same, List.head?_cons]

section Keeps

variable {path : Path} {fields others : Fields}

theorem Rule.holds_congr {rule : Rule} (same : rule.value fields = rule.value others) :
    rule.Holds fields ↔ rule.Holds others := by
  rw [Rule.Holds, Rule.Holds, same]

theorem FirstBroken.congr {rules : List Rule} {rule : Rule}
    (alike : ∀ rule ∈ rules, rule.Holds fields ↔ rule.Holds others)
    (first : FirstBroken rules fields rule) : FirstBroken rules others rule := by
  obtain ⟨passed, later, rfl, holds, violated⟩ := first
  refine ⟨passed, later, rfl, fun other held => ?_, fun holds => violated ?_⟩
  · exact (alike other (by simp [held])).mp (holds other held)
  · exact (alike rule (by simp)).mpr holds

theorem forall_rules_iff {property : Rule → Prop} :
    (∀ rule ∈ rules, property rule) ↔
      (∀ rule ∈ tableRules, property rule) ∧ (∀ rule ∈ keptRules, property rule) ∧
        property extensionRule := by
  simp [rules, or_imp, forall_and]

theorem Keeps.describes (keeps : Keeps fields others) {manifest : Manifest}
    (described : Describes path fields manifest)
    (extension : ∃ written, Gives WritesText ".kat" (extensionRule.value others) written ∧
      (written.head? = some '.' ∧ manifest.scripts.extension = written ∨
        written.head? ≠ some '.' ∧ manifest.scripts.extension = '.' :: written)) :
    Describes path others manifest := by
  have name : valueIn "project" "name" fields = valueIn "project" "name" others :=
    keeps.kept (textRule .nameNotText "project" "name") (by simp [keptRules])
  have entry : valueIn "project" "entry" fields = valueIn "project" "entry" others :=
    keeps.kept (textRule .entryNotText "project" "entry") (by simp [keptRules])
  have paths : valueIn "scripts" "paths" fields = valueIn "scripts" "paths" others :=
    keeps.kept (textsRule .pathsNotTexts "scripts" "paths") (by simp [keptRules])
  exact ⟨described.root, name ▸ described.name, entry ▸ described.entry, paths ▸ described.paths,
    extension⟩

theorem Keeps.ofFields_eq (keeps : Keeps fields others)
    (same : extensionRule.value fields = extensionRule.value others) :
    ofFields path others = ofFields path fields := by
  have alike : ∀ rule ∈ rules, rule.Holds fields ↔ rule.Holds others :=
    forall_rules_iff.mpr ⟨keeps.tables, fun rule held => Rule.holds_congr (keeps.kept rule held),
      Rule.holds_congr same⟩
  cases read : ofFields path fields with
  | ok manifest =>
      obtain ⟨holds, described⟩ := ofFields_eq_ok_iff.mp read
      exact ofFields_eq_ok_iff.mpr ⟨fun rule held => (alike rule held).mp (holds rule held),
        keeps.describes described (same ▸ described.extension)⟩
  | error fault =>
      obtain ⟨rule, first, named⟩ := ofFields_eq_error_iff.mp read
      exact ofFields_eq_error_iff.mpr ⟨rule, first.congr alike, named⟩

theorem Keeps.ofFields_eq_ok (keeps : Keeps fields others) {manifest : Manifest}
    (read : ofFields path fields = .ok manifest)
    (written : extensionRule.value others = some (.string manifest.scripts.extension)) :
    ofFields path others = .ok manifest := by
  obtain ⟨holds, described⟩ := ofFields_eq_ok_iff.mp read
  obtain ⟨tables, kept, _⟩ := forall_rules_iff.mp holds
  have holds' : ∀ rule ∈ rules, rule.Holds others := by
    refine forall_rules_iff.mpr ⟨fun rule held => (keeps.tables rule held).mp (tables rule held),
      fun rule held => (Rule.holds_congr (keeps.kept rule held)).mp (kept rule held), ?_⟩
    intro value there
    obtain rfl := Option.some.inj (written.symm.trans there)
    exact ⟨_, rfl⟩
  refine ofFields_eq_ok_iff.mpr ⟨holds', keeps.describes described ?_⟩
  rw [written]
  exact ⟨_, .present rfl, .inl ⟨described.head?_extension, rfl⟩⟩

theorem tableAt_withExtension (extension : Text) (fields : Fields) :
    tableAt "scripts" (withExtension extension fields) =
      setField "extension" (.string extension) (tableAt "scripts" fields) := by
  rw [tableAt, withExtension, lookup_setField]

theorem lookup_project_withExtension (extension : Text) (fields : Fields) :
    (withExtension extension fields).lookup ("project" : Text) =
      fields.lookup ("project" : Text) :=
  lookup_setField_of_ne (by decide) ..

theorem value_withExtension (extension : Text) (fields : Fields) :
    extensionRule.value (withExtension extension fields) = some (.string extension) := by
  change (tableAt "scripts" (withExtension extension fields)).lookup _ = _
  rw [tableAt_withExtension]
  exact lookup_setField ..

theorem keeps_withExtension (extension : Text)
    (table : (tableRule .scriptsNotTable "scripts").Holds fields) :
    Keeps fields (withExtension extension fields) := by
  have project : tableAt "project" (withExtension extension fields) =
      tableAt "project" fields := by
    rw [tableAt, lookup_project_withExtension, tableAt]
  constructor
  case tables =>
    refine List.forall_mem_cons.mpr ⟨Rule.holds_congr ?_, List.forall_mem_singleton.mpr ?_⟩
    · exact (lookup_project_withExtension ..).symm
    · refine iff_of_true table fun value there => ?_
      obtain rfl := Option.some.inj ((lookup_setField ..).symm.trans there)
      exact ⟨_, rfl⟩
  case kept =>
    have paths : valueIn "scripts" "paths" (withExtension extension fields) =
        valueIn "scripts" "paths" fields := by
      rw [valueIn, tableAt_withExtension, lookup_setField_of_ne (by decide), valueIn]
    simp only [keptRules, List.forall_mem_cons]
    refine ⟨?_, ?_, paths.symm, by simp⟩
    · change (tableAt "project" _).lookup _ = (tableAt "project" _).lookup _
      rw [project]
    · change (tableAt "project" _).lookup _ = (tableAt "project" _).lookup _
      rw [project]

end Keeps

theorem Rule.message_of_mem : ∀ rule ∈ rules, rule.fault.message = rule.message := by decide

/-- What comes of reading a document, from whatever workspace it is read. -/
structure Judged (path : Path) (fields : Fields) (loaded : Except LoadError Manifest) : Prop where
  accepted : (∃ manifest, loaded = .ok manifest) ↔ ∀ rule ∈ rules, rule.Holds fields
  described : ∀ manifest, loaded = .ok manifest ↔
    (∀ rule ∈ rules, rule.Holds fields) ∧ Describes path fields manifest
  dotted : ∀ manifest, loaded = .ok manifest → manifest.scripts.extension.head? = some '.'
  refused : ∀ error, loaded = .error error ↔
    ∃ rule, FirstBroken rules fields rule ∧ error = .fault rule.fault
  told : ∀ rule ∈ rules, (Diagnostic.manifest rule.fault.message (some path)).message =
    path.toText ++ ": " ++ rule.message
  confined : ∀ (workspace : Workspace) text others, workspace.readText path = .ok text →
    Toml.ofText text = .ok others → Keeps fields others →
    extensionRule.value fields = extensionRule.value others → load workspace path = loaded
  respelled : ∀ manifest, loaded = .ok manifest → ∀ (workspace : Workspace) text others,
    workspace.readText path = .ok text → Toml.ofText text = .ok others → Keeps fields others →
    extensionRule.value others = some (.string manifest.scripts.extension) →
    load workspace path = .ok manifest
  rewritten : ∀ manifest, loaded = .ok manifest →
    Keeps fields (withExtension manifest.scripts.extension fields) ∧
      ofFields path (withExtension manifest.scripts.extension fields) = .ok manifest

theorem mapError_eq_ok_iff {result : Except ManifestFault Manifest} {manifest : Manifest} :
    result.mapError LoadError.fault = .ok manifest ↔ result = .ok manifest := by
  cases result <;> simp [Except.mapError]

theorem mapError_eq_error_iff {result : Except ManifestFault Manifest} {error : LoadError} :
    result.mapError .fault = .error error ↔
      ∃ fault, result = .error fault ∧ error = .fault fault := by
  cases result <;> simp [Except.mapError, eq_comm]

theorem load_eq {workspace : Workspace} {path : Path} {text : Text} {fields : Fields}
    (read : workspace.readText path = .ok text) (parsed : Toml.ofText text = .ok fields) :
    load workspace path = (ofFields path fields).mapError .fault := by
  rw [load, read]
  simp only [ofText, parsed]
  cases ofFields path fields <;> rfl

theorem load_judged {workspace : Workspace} {path : Path} {text : Text} {fields : Fields}
    (read : workspace.readText path = .ok text) (parsed : Toml.ofText text = .ok fields) :
    Judged path fields (load workspace path) := by
  rw [load_eq read parsed]
  constructor
  case accepted => simp only [mapError_eq_ok_iff, exists_ofFields_eq_ok_iff]
  case described =>
    intro manifest
    rw [mapError_eq_ok_iff, ofFields_eq_ok_iff]
  case dotted =>
    intro manifest loaded
    rw [mapError_eq_ok_iff, ofFields_eq_ok_iff] at loaded
    exact loaded.2.head?_extension
  case refused =>
    intro error
    simp only [mapError_eq_error_iff, ofFields_eq_error_iff]
    constructor
    · rintro ⟨_, ⟨rule, first, rfl⟩, rfl⟩
      exact ⟨rule, first, rfl⟩
    · rintro ⟨rule, first, rfl⟩
      exact ⟨_, ⟨rule, first, rfl⟩, rfl⟩
  case told =>
    intro rule held
    rw [← Rule.message_of_mem rule held]
    rfl
  case confined =>
    intro workspace' text' others read' parsed' keeps same
    rw [load_eq read' parsed', keeps.ofFields_eq same]
  case respelled =>
    intro manifest loaded workspace' text' others read' parsed' keeps written
    rw [mapError_eq_ok_iff] at loaded
    rw [load_eq read' parsed', keeps.ofFields_eq_ok loaded written]
    rfl
  case rewritten =>
    intro manifest loaded
    rw [mapError_eq_ok_iff] at loaded
    have holds := (ofFields_eq_ok_iff.mp loaded).1
    have keeps := keeps_withExtension manifest.scripts.extension
      (holds _ (by simp [rules, tableRules]))
    exact ⟨keeps, keeps.ofFields_eq_ok loaded (value_withExtension ..)⟩

def undotted : Text := "[scripts]\nextension = \"kat\"\npaths = []\n"

def undottedWorkspace : Workspace :=
  ⟨FileTree.empty.addFile ["tale".toList, fileName] (undotted.map fun c => c.toNat.toUInt8),
    ["tale".toList]⟩

theorem undotted_judged :
    undottedWorkspace.readText (Path.ofText fileName) = .ok undotted ∧
      ∃ fields, Toml.ofText undotted = .ok fields ∧
        Judged (Path.ofText fileName) fields
          (load undottedWorkspace (Path.ofText fileName)) ∧
        load undottedWorkspace (Path.ofText fileName) =
          .ok ⟨[], Path.ofText ".", none, [], ".kat"⟩ := by
  have read : undottedWorkspace.readText (Path.ofText fileName) = .ok undotted := by
    decide +kernel
  have formed : (Toml.ofText undotted).isOk = true := by decide +kernel
  cases parsed : Toml.ofText undotted with
  | error fault =>
      rw [parsed] at formed
      cases formed
  | ok fields => exact ⟨read, fields, rfl, load_judged read parsed, by decide +kernel⟩

end Manifest

end SceneScript
