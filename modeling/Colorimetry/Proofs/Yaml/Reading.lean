import Mathlib
import Colorimetry.Yaml.Mapping
import Colorimetry.Proofs.Yaml.Lexing

/-!
# Reading lines back

The tokens of lines are gathered into items, the items into the entries of a block mapping, and the
nodes of the entries are resolved. Nothing is lost or added on the way, since there is no anchor, no
tag and no alias among what the writer writes: **a document of lines is read as its keys and values**
(`readMapping?_document`), in their order, and each with the way in which it is written.
-/

namespace Colorimetry.Yaml

namespace Line

variable (l : Line) (ls : List Line)

/-- The key that is read. -/
def keyScalar : Scalar := ⟨String.ofList l.key, .plain, none⟩

/-- The value that is read. -/
def valueScalar : Scalar := ⟨String.ofList l.text, l.style, none⟩

/-- The items of a line. -/
def items : List Item :=
  [.mark .key, .node (.scalar none l.keyScalar), .mark .value, .node (.scalar none l.valueScalar)]

/-! ### Characters and items -/

/-- Every character of a document may stand in a text. -/
theorem ofString?_document :
    Cell.ofString? (String.ofList (document ls)) = some (Cell.place 0 0 (document ls)) := by
  have hallowed : (document ls).all Cell.isAllowed = true := by
    rw [List.all_eq_true]
    intro c hc
    obtain ⟨l, -, hc⟩ := List.mem_flatMap.mp hc
    rcases List.mem_append.mp hc with hc | hc
    · obtain ⟨hlow, hhigh⟩ := l.isAscii_chars hc
      simp [Cell.isAllowed, hlow, hhigh]
    · obtain rfl := List.mem_singleton.mp hc
      rfl
  simp only [Cell.ofString?, String.toList_ofList, hallowed, if_true]

/-- A scalar with nothing before it is an item of its own, and so is a mark. -/
theorem items?_tokens (rest : List Token) :
    items? {} (l.tokens ++ rest) = (items? {} rest).map fun items => l.items ++ items := by
  simp [tokens, items?, items, keyScalar, valueScalar, Node.ofText, Properties.items,
    Function.comp_def]

theorem items?_lines (rest : List Token) :
    items? {} (ls.flatMap tokens ++ rest) =
      (items? {} rest).map fun items => ls.flatMap Line.items ++ items := by
  induction ls with
  | nil => simp
  | cons l ls ih =>
    rw [List.flatMap_cons, List.append_assoc, items?_tokens, ih]
    simp [Function.comp_def]

/-! ### Entries -/

/-- The entry of a line. -/
def entry : Node × Node := (.scalar none l.keyScalar, .scalar none l.valueScalar)

/-- **The items of lines are the entries of a block mapping.** -/
theorem blockEntries?_lines (rest : List Item) :
    blockEntries? (ls.flatMap Line.items ++ .mark .blockEnd :: rest) =
      some (ls.map Line.entry, rest) := by
  induction ls with
  | nil => simp [blockEntries?]
  | cons l ls ih =>
    simp only [List.flatMap_cons, items, List.cons_append, List.nil_append, blockEntries?,
      Yaml.entry, List.map_cons, Line.entry, ih, Option.map_some]

/-- The document holds one mapping and nothing else. -/
theorem mapping?_lines :
    mapping? (.mark .blockStart :: (ls.flatMap Line.items ++ [.mark .blockEnd])) =
      some ⟨none, ls.map Line.entry⟩ := by
  have hitems : (ls.flatMap Line.items).any (· == .mark .directive) = false := by
    rw [List.any_eq_false]
    intro i hi
    obtain ⟨l, -, hi⟩ := List.mem_flatMap.mp hi
    simp only [items, List.mem_cons, List.not_mem_nil, or_false] at hi
    rcases hi with rfl | rfl | rfl | rfl <;> simp
  have hstart : ((.mark .blockStart : Item) == .mark .directive) = false := rfl
  have hcontent : content? (.mark .blockStart :: (ls.flatMap Line.items ++ [.mark .blockEnd])) =
      some (⟨none, ls.map Line.entry⟩, []) := by
    simp [Yaml.content?, anchored?, blockEntries?_lines]
  have hany : (.mark .blockStart :: (ls.flatMap Line.items ++ [.mark .blockEnd])).any
      (· == .mark .directive) = false := by
    rw [List.any_cons, List.any_append, hstart, hitems]
    rfl
  simp only [mapping?, List.dropWhile_cons, hstart, hany]
  simp [hcontent]

/-! ### Nodes -/

/-- A scalar without an anchor takes no number, and stands for itself. -/
theorem number?_scalars (a : Anchors) (values : List Scalar) :
    number? a (values.map (.scalar none)) = some (a, values.map .inl) := by
  induction values with
  | nil => rfl
  | cons v values ih => simp [number?, Anchors.bind, ih]

theorem mapM_resolve?_scalars (a : Anchors) (values : List Scalar) :
    (values.map .inl).mapM (Yaml.resolve? a) = some values := by
  induction values with
  | nil => rfl
  | cons v values ih => simp [Yaml.resolve?, ih]

theorem pairs_lines :
    Mapping.resolve?.pairs (ls.flatMap fun l => [l.keyScalar, l.valueScalar]) =
      ls.map fun l => (l.keyScalar, l.valueScalar) := by
  induction ls with
  | nil => rfl
  | cons l ls ih => simp [Mapping.resolve?.pairs, ih]

theorem resolve?_lines (anchor : Option String) :
    (⟨anchor, ls.map Line.entry⟩ : Mapping).resolve? =
      some (ls.map fun l => (l.keyScalar, l.valueScalar)) := by
  have hnodes : (ls.flatMap fun l => [l.entry.1, l.entry.2]) =
      (ls.flatMap fun l => [l.keyScalar, l.valueScalar]).map (.scalar none) := by
    simp [List.map_flatMap, Line.entry]
  simp only [Mapping.resolve?, List.flatMap_map, hnodes, number?_scalars, Option.bind_eq_bind,
    Option.bind_some, mapM_resolve?_scalars, pairs_lines]
  rfl

/-- **A document of lines is read as its keys and values.** -/
theorem readMapping?_document (hls : ls ≠ []) :
    readMapping? (String.ofList (document ls)) =
      some (ls.map fun l => (l.keyScalar, l.valueScalar)) := by
  have hitems : items? {} (.mark .blockStart :: ls.flatMap tokens ++ [.mark .blockEnd]) =
      some (.mark .blockStart :: (ls.flatMap Line.items ++ [.mark .blockEnd])) := by
    rw [List.cons_append, items?, items?_lines]
    simp [items?, Properties.items]
  simp only [readMapping?, ofString?_document, Option.bind_eq_bind, Option.bind_some,
    tokens?_document ls hls, hitems, mapping?_lines, resolve?_lines]

end Line

end Colorimetry.Yaml
