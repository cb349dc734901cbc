import SceneScript.Proofs.Discovery

set_option autoImplicit false

namespace SceneScript

namespace Path

theorem partsOf_append (front back : Text) :
    partsOf (front ++ '/' :: back) = partsOf front ++ partsOf back := by
  simp only [partsOf, Text.split_eq_splitOn, List.splitOn]
  rw [List.splitOnP_append_cons _ _ (by simp), List.filter_append]

theorem partsOf_slash (back : Text) : partsOf ('/' :: back) = partsOf back :=
  partsOf_append [] back

theorem partsOf_dot (back : Text) : partsOf ('.' :: '/' :: back) = partsOf back :=
  partsOf_append ['.'] back

theorem partsOf_doubleDot (back : Text) :
    partsOf ('.' :: '.' :: '/' :: back) = FileTree.parentName :: partsOf back :=
  partsOf_append ['.', '.'] back

theorem isAbsolute_ofText (text : Text) :
    (ofText text).isAbsolute = decide (text.head? = some '/') := by
  simp only [isAbsolute, ofText, anchorOf]
  split
  next => rfl
  next => rfl
  next => rfl
  next other =>
    cases text with
    | nil => rfl
    | cons c rest =>
        have apart : c ≠ '/' := fun same => other rest (same ▸ rfl)
        simp [apart]

theorem parts_join (path other : Path) :
    (path.join other).parts = (if other.isAbsolute then [] else path.parts) ++ other.parts := by
  rw [join]
  split <;> rfl

theorem isAbsolute_join (path other : Path) :
    (path.join other).isAbsolute = (other.isAbsolute || path.isAbsolute) := by
  rw [join]
  split
  next absolute => simp [absolute]
  next relative =>
    rw [Bool.not_eq_true] at relative
    rw [relative, Bool.false_or]
    rfl

theorem resolveParts_append (names rest : List Text) : resolveParts (names ++ rest) =
    rest.foldl (fun done part => if part = ['.', '.'] then done.dropLast else done ++ [part])
      (resolveParts names) := by
  rw [resolveParts, List.foldl_append, ← resolveParts]

theorem resolveParts_back {name : Text} (plain : name ≠ FileTree.parentName)
    (names rest : List Text) :
    resolveParts (names ++ name :: FileTree.parentName :: rest) = resolveParts (names ++ rest) := by
  have named : name ≠ ['.', '.'] := plain
  simp [resolveParts_append, named, FileTree.parentName]

theorem resolveParts_of_plain {names : List Text} (plain : FileTree.parentName ∉ names) :
    resolveParts names = names := by
  induction names using List.reverseRecOn with
  | nil => rfl
  | append_singleton names last ih =>
      rw [List.mem_append, List.mem_singleton, not_or] at plain
      have other : last ≠ ['.', '.'] := Ne.symm plain.2
      simp [resolveParts_append, ih plain.1, other]

end Path

namespace ScriptSettings

variable {workspace : Workspace} {root : Path} {extension : Text}

def resolved? (workspace : Workspace) (root : Path) (configured : Text) : Option Path :=
  if '\x00' ∈ (root.join (Path.ofText configured)).toText then none
  else some (target workspace root configured)

def SamePlace (workspace : Workspace) (root : Path) (one other : Text) : Prop :=
  resolved? workspace root one = resolved? workspace root other

def lead (workspace : Workspace) (root : Path) (absolute : Bool) : List Text :=
  if absolute then []
  else if root.isAbsolute then root.parts
  else workspace.directory ++ root.parts

theorem target_eq (workspace : Workspace) (root : Path) (configured : Text) :
    target workspace root configured = ⟨.root, Path.resolveParts
      (lead workspace root (Path.ofText configured).isAbsolute ++ Path.partsOf configured)⟩ := by
  have spelled : (Path.ofText configured).parts = Path.partsOf configured := rfl
  rw [target, Workspace.resolve, Path.resolve, Path.parts_join, Path.parts_join,
    Path.isAbsolute_join, spelled, lead]
  by_cases absolute : (Path.ofText configured).isAbsolute = true
  next => simp [absolute]
  next => by_cases rooted : root.isAbsolute = true <;> simp [absolute, rooted]

theorem samePlace_of_parts {one other : Text}
    (level : (Path.ofText one).isAbsolute = (Path.ofText other).isAbsolute)
    (free : (∃ part ∈ Path.partsOf one, '\x00' ∈ part) ↔ ∃ part ∈ Path.partsOf other, '\x00' ∈ part)
    (led : ∀ names, Path.resolveParts (names ++ Path.partsOf one) =
      Path.resolveParts (names ++ Path.partsOf other)) : SamePlace workspace root one other := by
  -- A NUL of the text stands in a name, as neither an anchor nor a slash has one.
  have held (configured : Text) : '\x00' ∈ (root.join (Path.ofText configured)).toText ↔
      (∃ part ∈ if (Path.ofText configured).isAbsolute then [] else root.parts, '\x00' ∈ part) ∨
        ∃ part ∈ Path.partsOf configured, '\x00' ∈ part := by
    rw [← not_iff_not, Path.notMem_toText_iff (by decide) (by decide), Path.parts_join]
    simp only [List.mem_append, or_imp, forall_and, not_or, not_exists, not_and]
    rfl
  have same : target workspace root one = target workspace root other := by
    rw [target_eq, target_eq, level, led]
  simp only [SamePlace, resolved?, held, level, free, same]

theorem samePlace_of_same_parts {one other : Text}
    (level : (Path.ofText one).isAbsolute = (Path.ofText other).isAbsolute)
    (parts : Path.partsOf one = Path.partsOf other) : SamePlace workspace root one other :=
  samePlace_of_parts level (by rw [parts]) (fun names => by rw [parts])

theorem isAbsolute_of_slash (front one other : Text) :
    (Path.ofText (front ++ '/' :: one)).isAbsolute =
      (Path.ofText (front ++ '/' :: other)).isAbsolute := by
  cases front <;> simp [Path.isAbsolute_ofText]

theorem samePlace_of_resolved {spelled configured : Text}
    (real : ∀ name ∈ workspace.directory, '\x00' ∉ name)
    (resolves : resolved? workspace root configured = some (Path.ofText spelled)) :
    SamePlace workspace root spelled configured := by
  rw [SamePlace, resolves, resolved?]
  rw [resolved?] at resolves
  split at resolves
  next => cases resolves
  next free =>
    have leads := Option.some.inj resolves
    have resolved := Workspace.isResolved_resolve real free
    rw [← target, leads] at resolved
    have absolute : (Path.ofText spelled).isAbsolute = true := by
      simp [Path.isAbsolute, resolved.rooted]
    have joined : root.join (Path.ofText spelled) = Path.ofText spelled := if_pos absolute
    have kept : target workspace root spelled = Path.ofText spelled := by
      rw [target_eq, absolute, lead, if_pos rfl, List.nil_append]
      exact congrArg₂ Path.mk resolved.rooted.symm (Path.resolveParts_of_plain resolved.plain)
    rw [joined, if_neg resolved.free, kept]

structure IsName (name : Text) : Prop where
  whole : '/' ∉ name
  free : '\x00' ∉ name
  filled : name ≠ []
  single : name ≠ ['.']
  double : name ≠ FileTree.parentName

theorem IsName.partsOf {name : Text} (named : IsName name) : Path.partsOf name = [name] := by
  simp [Path.partsOf, Text.split_eq_splitOn, List.splitOn_eq_singleton named.whole, named.filled,
    named.single]

/-- The ways to spell a path anew. -/
structure Respellings (workspace : Workspace) (root : Path) (same : Text → Text → Prop) :
    Prop where
  trailing : ∀ configured, configured ≠ [] → same (configured ++ ['/']) configured
  doubled : ∀ front back, same (front ++ '/' :: '/' :: back) (front ++ '/' :: back)
  dot : ∀ front back, same (front ++ '/' :: '.' :: '/' :: back) (front ++ '/' :: back)
  leadingDot : ∀ configured, configured.head? ≠ some '/' →
    same ('.' :: '/' :: configured) configured
  doubleDot : ∀ front name back, IsName name →
    same (front ++ '/' :: (name ++ '/' :: '.' :: '.' :: '/' :: back)) (front ++ '/' :: back)
  absolute : ∀ spelled configured, resolved? workspace root configured = some (Path.ofText spelled) →
    same spelled configured

theorem respellings (real : ∀ name ∈ workspace.directory, '\x00' ∉ name) :
    Respellings workspace root (SamePlace workspace root) := by
  constructor
  case trailing =>
    intro configured filled
    refine samePlace_of_same_parts ?_ ?_
    · obtain ⟨c, rest, rfl⟩ := List.exists_cons_of_ne_nil filled
      simp [Path.isAbsolute_ofText]
    · exact (Path.partsOf_append configured []).trans (List.append_nil _)
  case doubled =>
    intro front back
    refine samePlace_of_same_parts (isAbsolute_of_slash ..) ?_
    rw [Path.partsOf_append, Path.partsOf_append, Path.partsOf_slash]
  case dot =>
    intro front back
    refine samePlace_of_same_parts (isAbsolute_of_slash ..) ?_
    rw [Path.partsOf_append, Path.partsOf_append, Path.partsOf_dot]
  case leadingDot =>
    intro configured relative
    refine samePlace_of_same_parts ?_ (Path.partsOf_dot configured)
    simp [Path.isAbsolute_ofText, relative]
  case doubleDot =>
    intro front name back named
    have longer : Path.partsOf (front ++ '/' :: (name ++ '/' :: '.' :: '.' :: '/' :: back)) =
        Path.partsOf front ++ name :: FileTree.parentName :: Path.partsOf back := by
      rw [Path.partsOf_append, Path.partsOf_append, named.partsOf, Path.partsOf_doubleDot]
      rfl
    have shorter := Path.partsOf_append front back
    refine samePlace_of_parts (isAbsolute_of_slash ..) ?_ fun names => ?_
    · have free : '\x00' ∉ FileTree.parentName := by decide
      simp [longer, shorter, or_and_right, exists_or, named.free, free]
    · rw [longer, shorter, ← List.append_assoc, Path.resolveParts_back named.double,
        List.append_assoc]
  case absolute => exact fun _ _ => samePlace_of_resolved real

end ScriptSettings

end SceneScript
