import Colorimetry.Yaml.Node

/-!
# Flat mappings

The documents that this library reads hold one mapping from scalars to scalars, written as a block
or within braces, or nothing at all. `readMapping?` is the one entrance: it reads a text, requires
that nothing but the end of the document follows, and replaces every alias by the scalar that it
repeats. A text that YAML refuses, and a document with any other content, have no mapping.
-/

namespace Colorimetry.Yaml

/-! ### Entries -/

/-- The entries of a mapping. -/
abbrev Entries : Type := List (Node × Node)

/-- The key and the value that a list of items begins with, and what follows them. Either may be
missing, and stands for the empty scalar then. -/
def entry : List Item → (Node × Node) × List Item
  | .node key :: .mark .value :: .node value :: rest => ((key, value), rest)
  | .node key :: .mark .value :: rest => ((key, .absent), rest)
  | .node key :: rest => ((key, .absent), rest)
  | .mark .value :: .node value :: rest => ((.absent, value), rest)
  | .mark .value :: rest => ((.absent, .absent), rest)
  | rest => ((.absent, .absent), rest)

/-- An entry is followed by no more than it begins with. -/
theorem length_entry_le (items : List Item) : (entry items).2.length ≤ items.length := by
  fun_cases entry items <;> grind

/-- The entries of a block mapping behind its start, and what follows its end. -/
def blockEntries? : List Item → Option (Entries × List Item)
  | .mark .blockEnd :: rest => some ([], rest)
  | .mark .key :: rest =>
    (blockEntries? (entry rest).2).map fun (entries, after) => ((entry rest).1 :: entries, after)
  | _ => none
termination_by items => items.length
decreasing_by
  have := length_entry_le rest
  simp only [List.length_cons]
  omega

/-- The entry that an item within braces begins. Without a mark before it a node is a key with no
value. -/
def braceEntry? : List Item → Option ((Node × Node) × List Item)
  | .mark .key :: rest => some (entry rest)
  | .node key :: rest => some ((key, .absent), rest)
  | _ => none

/-- Within braces too an entry is followed by less than it begins with. -/
theorem length_lt_of_braceEntry? {items rest : List Item} {e : Node × Node}
    (h : braceEntry? items = some (e, rest)) : rest.length < items.length := by
  unfold braceEntry? at h
  split at h
  · next after =>
    have := length_entry_le after
    simp only [Option.some.injEq] at h
    simp only [h, List.length_cons] at this ⊢
    omega
  · simp_all
  · simp at h

/-- The entries of a mapping behind its opening brace, and what follows the closing one. A comma
may stand behind the last entry. -/
def braceEntries? (items : List Item) : Option (Entries × List Item) :=
  match items with
  | .mark .braceClose :: rest => some ([], rest)
  | items =>
    match _h : braceEntry? items with
    | some (e, .mark .braceClose :: rest) => some ([e], rest)
    | some (e, .mark .comma :: rest) =>
      (braceEntries? rest).map fun (entries, after) => (e :: entries, after)
    | _ => none
termination_by items.length
decreasing_by
  have := length_lt_of_braceEntry? _h
  simp only [List.length_cons] at this
  omega

/-! ### Documents -/

/-- A mapping with its anchor. -/
structure Mapping where
  /-- The anchor. -/
  anchor : Option String
  /-- The entries. -/
  entries : Entries

/-- The mapping that a document holds behind its anchor, and what follows it. A document with no
mapping holds no entries. -/
def anchored? (anchor : Option String) : List Item → Option (Mapping × List Item)
  | .mark .blockStart :: rest =>
    (blockEntries? rest).map fun (entries, after) => (⟨anchor, entries⟩, after)
  | .mark .braceOpen :: rest =>
    (braceEntries? rest).map fun (entries, after) => (⟨anchor, entries⟩, after)
  | rest => some (⟨anchor, []⟩, rest)

/-- The content of a document, and what follows it. The empty scalar with nothing behind it holds
no entries; another scalar is refused. -/
def content? : List Item → Option (Mapping × List Item)
  | .node (.scalar anchor value) :: rest =>
    if value.text.isEmpty ∧ value.style = .plain then anchored? anchor rest else none
  | .node (.alias _) :: _ => none
  | rest => anchored? none rest

/-- The mapping of a text. Its document may begin with three dashes, and must if directives stand
before it; nothing but ends of documents may follow. -/
def mapping? (items : List Item) : Option Mapping := do
  let isDirective : Item → Bool := (· == .mark .directive)
  let start ← match items.dropWhile isDirective with
    | .mark .documentStart :: rest => some rest
    | rest =>
      if items.any isDirective ∨ rest.head? = some (.mark .documentEnd) then none else some rest
  let (mapping, rest) ← content? start
  if rest.all (· == .mark .documentEnd) then some mapping else none

/-! ### Aliases -/

/-- The anchors of a document. A name that is new, or that is used again, takes the number of
names that were known before; where two nodes have taken one number, the later one holds it. -/
structure Anchors where
  /-- The numbers of the names. -/
  numbers : List (String × Nat) := []
  /-- The scalars of the numbers, the latest first; the mapping itself is none. -/
  targets : List (Nat × Option Scalar) := []

namespace Anchors

/-- The anchors after a node with an anchor. -/
def bind (a : Anchors) (name : Option String) (target : Option Scalar) : Anchors :=
  match name with
  | none => a
  | some name =>
    let number := a.numbers.length
    { numbers := (name, number) :: a.numbers.filter fun entry => entry.1 != name
      targets := (number, target) :: a.targets }

end Anchors

/-- A node whose alias, if it is one, has been given its number. -/
abbrev Numbered : Type := Scalar ⊕ Nat

/-- The aliases of a list of nodes numbered; none for an alias of a name that no node before it
has. -/
def number? (a : Anchors) : List Node → Option (Anchors × List Numbered)
  | [] => some (a, [])
  | .scalar name value :: rest =>
    (number? (a.bind name (some value)) rest).map fun (a, ns) => (a, .inl value :: ns)
  | .alias name :: rest =>
    (a.numbers.lookup name).bind fun n => (number? a rest).map fun (a, ns) => (a, .inr n :: ns)

/-- The scalar that a node stands for. -/
def resolve? (a : Anchors) : Numbered → Option Scalar
  | .inl value => some value
  | .inr n => (a.targets.lookup n).join

/-- The keys and the values of a mapping. -/
def Mapping.resolve? (m : Mapping) : Option (List (Scalar × Scalar)) := do
  let start := ({} : Anchors).bind m.anchor none
  let (a, nodes) ← number? start (m.entries.flatMap fun (key, value) => [key, value])
  let scalars ← nodes.mapM (Yaml.resolve? a)
  return pairs scalars
where
  /-- A list in pairs. -/
  pairs : List Scalar → List (Scalar × Scalar)
    | key :: value :: rest => (key, value) :: pairs rest
    | _ => []

/-- **The flat mapping of a text**, its keys and values in order. -/
def readMapping? (s : String) : Option (List (Scalar × Scalar)) := do
  let tokens ← tokens? {} (← Cell.ofString? s)
  (← mapping? (← items? {} tokens)).resolve?

end Colorimetry.Yaml
