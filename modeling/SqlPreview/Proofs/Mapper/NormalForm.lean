import Mathlib
import SqlPreview.Mapper.Document
import SqlPreview.Proofs.Dictionary
import SqlPreview.Proofs.Result

/-!
# Bodies of mappers

Text in a body comes in maximal runs: it does not matter how the document cuts it, by comments,
instructions and character sections, so that nothing of this kind can split a placeholder.

This file defines:
1. bodies in which no runs of text are neighbours (`Node.Normal`);
2. what stands in a body, in document order (`Mark`);
3. documents that differ in comments, instructions and cuts of text (`XmlNode.Alike`).

Results:
1. `Node.normal_ofXmlList`, `Node.marksAll_ofXmlList`, `XmlNode.Alike.ofXmlList_eq`: bodies are
   normal, keep what stands in the document, and are the same for such documents.
2. `Mapper.ofElement_eq_of_alike`: such documents describe the same mapper.
3. `Mapper.bodies_normal`: all of this for the statements and fragments of mappers.
-/

namespace SqlPreview

/-! ## Neighbours -/

/-- No two runs of text are neighbours, at any level. -/
inductive Node.Normal : List Node → Prop
  | nil : Normal []
  | text {s : String} {rest : List Node} :
      (∀ t behind, rest ≠ .text t :: behind) → Normal rest → Normal (.text s :: rest)
  | tag {tag : Element} {rest : List Node} :
      Normal tag.children → Normal rest → Normal (.tag tag :: rest)

theorem normal_joinText (s : String) {nodes : List Node} (normal : Node.Normal nodes) :
    Node.Normal (joinText s nodes) := by
  cases normal with
  | nil => exact .text nofun .nil
  | text apart normal => exact .text apart normal
  | tag inside normal => exact .text nofun (.tag inside normal)

mutual

theorem Node.normal_ofXml {nodes : List Node} (normal : Node.Normal nodes) (node : XmlNode) :
    Node.Normal (Node.ofXml nodes node) := by
  cases node with
  | text s => exact normal_joinText s normal
  | comment s => exact normal
  | instruction target content => exact normal
  | element name attributes children => exact .tag (Node.normal_ofXmlList children) normal

theorem Node.normal_ofXmlList (nodes : List XmlNode) : Node.Normal (Node.ofXmlList nodes) := by
  cases nodes with
  | nil => exact .nil
  | cons node rest => exact Node.normal_ofXml (Node.normal_ofXmlList rest) node

end

/-! ## Document order -/

/-- What stands in a body: a character of text, or one end of a tag. -/
inductive Mark where
  | character (c : Char)
  | opening (name : String) (attributes : Dict String)
  | closing
deriving DecidableEq, Repr

/-- The characters of a run of text. -/
def textMarks (s : String) : List Mark := s.toList.map .character

mutual

/-- What stands in a node of a document, in order. Names count without their qualifiers. -/
def XmlNode.marks : XmlNode → List Mark
  | .text s => textMarks s
  | .comment _ => []
  | .instruction _ _ => []
  | .element name attributes children =>
    .opening name.simple (Dict.ofPairs (attributes.map fun a => (a.1.simple, a.2))) ::
      (XmlNode.marksAll children ++ [.closing])

def XmlNode.marksAll : List XmlNode → List Mark
  | [] => []
  | node :: rest => node.marks ++ XmlNode.marksAll rest

end

mutual

/-- What stands in a node of a body, in order. -/
def Node.marks : Node → List Mark
  | .text s => textMarks s
  | .tag ⟨name, attributes, children⟩ =>
    .opening name attributes :: (Node.marksAll children ++ [.closing])

def Node.marksAll : List Node → List Mark
  | [] => []
  | node :: rest => node.marks ++ Node.marksAll rest

end

theorem textMarks_append (s t : String) : textMarks (s ++ t) = textMarks s ++ textMarks t := by
  rw [textMarks, String.toList_append, List.map_append]
  rfl

theorem marksAll_joinText (s : String) (nodes : List Node) :
    Node.marksAll (joinText s nodes) = textMarks s ++ Node.marksAll nodes := by
  unfold joinText
  split
  · rw [Node.marksAll, Node.marks, textMarks_append, Node.marksAll, Node.marks, List.append_assoc]
  · rw [Node.marksAll, Node.marks]

mutual

theorem Node.marksAll_ofXml (nodes : List Node) (node : XmlNode) :
    Node.marksAll (Node.ofXml nodes node) = node.marks ++ Node.marksAll nodes := by
  cases node with
  | text s => exact marksAll_joinText s nodes
  | comment s => rfl
  | instruction target content => rfl
  | element name attributes children =>
    rw [Node.ofXml, Node.marksAll, Node.marks, Node.marksAll_ofXmlList children, XmlNode.marks]

/-- A body keeps all tags and all characters of text, in document order. -/
theorem Node.marksAll_ofXmlList (nodes : List XmlNode) :
    Node.marksAll (Node.ofXmlList nodes) = XmlNode.marksAll nodes := by
  cases nodes with
  | nil => rfl
  | cons node rest =>
    rw [Node.ofXmlList, Node.marksAll_ofXml, Node.marksAll_ofXmlList rest, XmlNode.marksAll]

end

/-! ## Comments, instructions and cuts -/

/-- Nodes of a document that differ, at any level, only in comments, in instructions and in where
text is cut. -/
inductive XmlNode.Alike : List XmlNode → List XmlNode → Prop
  | refl (nodes : List XmlNode) : Alike nodes nodes
  | comment (before rest : List XmlNode) (s : String) :
      Alike (before ++ .comment s :: rest) (before ++ rest)
  | instruction (before rest : List XmlNode) (target content : String) :
      Alike (before ++ .instruction target content :: rest) (before ++ rest)
  | cut (before rest : List XmlNode) (s t : String) :
      Alike (before ++ .text (s ++ t) :: rest) (before ++ .text s :: .text t :: rest)
  | inside (before rest : List XmlNode) (name : XmlName) (attributes : List (XmlName × String))
      {children children' : List XmlNode} : Alike children children' →
      Alike (before ++ .element name attributes children :: rest)
        (before ++ .element name attributes children' :: rest)
  | symm {nodes nodes' : List XmlNode} : Alike nodes nodes' → Alike nodes' nodes
  | trans {nodes nodes' nodes'' : List XmlNode} :
      Alike nodes nodes' → Alike nodes' nodes'' → Alike nodes nodes''

theorem joinText_append (s t : String) (nodes : List Node) :
    joinText (s ++ t) nodes = joinText s (joinText t nodes) := by
  cases nodes with
  | nil => rfl
  | cons node rest =>
    cases node with
    | text u => exact congrArg (fun joined => Node.text joined :: rest) (String.append_assoc ..)
    | tag tag => rfl

theorem ofXmlList_append_congr {nodes nodes' : List XmlNode}
    (same : Node.ofXmlList nodes = Node.ofXmlList nodes') (before : List XmlNode) :
    Node.ofXmlList (before ++ nodes) = Node.ofXmlList (before ++ nodes') := by
  induction before with
  | nil => exact same
  | cons node before ih => rw [List.cons_append, List.cons_append, Node.ofXmlList, Node.ofXmlList, ih]

namespace XmlNode.Alike

variable {nodes nodes' : List XmlNode} (alike : Alike nodes nodes')

include alike

/-- Such documents have the same body. -/
theorem ofXmlList_eq : Node.ofXmlList nodes = Node.ofXmlList nodes' := by
  induction alike with
  | refl nodes => rfl
  | comment before rest s =>
    have dropped : Node.ofXmlList (.comment s :: rest) = Node.ofXmlList rest := rfl
    exact ofXmlList_append_congr dropped before
  | instruction before rest target content =>
    have dropped : Node.ofXmlList (.instruction target content :: rest) = Node.ofXmlList rest := rfl
    exact ofXmlList_append_congr dropped before
  | cut before rest s t =>
    have joined : Node.ofXmlList (.text (s ++ t) :: rest) =
        Node.ofXmlList (.text s :: .text t :: rest) := joinText_append s t _
    exact ofXmlList_append_congr joined before
  | inside before rest name attributes _ ih =>
    refine ofXmlList_append_congr ?_ before
    rw [Node.ofXmlList, Node.ofXmlList, Node.ofXml, Node.ofXml, ih]
  | symm _ ih => exact ih.symm
  | trans _ _ ih ih' => exact ih.trans ih'

end XmlNode.Alike

/-- What the body of an element is like: text in it comes in maximal runs, nothing is lost, and
neither comments and instructions nor cuts of text count. -/
structure IsBody (children : List XmlNode) (body : List Node) : Prop where
  normal : Node.Normal body
  complete : Node.marksAll body = XmlNode.marksAll children
  blind : ∀ children', XmlNode.Alike children children' → Node.ofXmlList children' = body

theorem isBody_ofXmlList (children : List XmlNode) : IsBody children (Node.ofXmlList children) where
  normal := Node.normal_ofXmlList children
  complete := Node.marksAll_ofXmlList children
  blind _ alike := alike.ofXmlList_eq.symm

/-! ## Mappers -/

namespace Mapper

/-- What a mapper takes from an element. -/
def taken (element : XmlElement) : XmlName × List (XmlName × String) × List Node :=
  (element.name, element.attributes, Node.ofXmlList element.children)

theorem define_congr {element element' : XmlElement} (same : taken element = taken element')
    (mapper : Mapper) : define mapper element = define mapper element' := by
  obtain ⟨name, attributes, children⟩ := element
  obtain ⟨name', attributes', children'⟩ := element'
  obtain ⟨rfl, rfl, body⟩ : name = name' ∧ attributes = attributes' ∧
      Node.ofXmlList children = Node.ofXmlList children' := by simpa [taken] using same
  simp only [define, id?, XmlElement.attribute?, body]

theorem foldlM_define_congr {elements elements' : List XmlElement}
    (same : elements.map taken = elements'.map taken) (mapper : Mapper) :
    elements.foldlM define mapper = elements'.foldlM define mapper := by
  induction elements generalizing elements' mapper with
  | nil =>
    obtain rfl := List.map_eq_nil_iff.1 same.symm
    rfl
  | cons element elements ih =>
    obtain ⟨element', elements', rfl, first, others⟩ := List.map_eq_cons_iff.1 same.symm
    rw [List.foldlM_cons, List.foldlM_cons, define_congr first.symm]
    exact bind_congr fun mapper => ih others.symm mapper

/-- The elements of alike documents are taken alike. -/
theorem map_taken_eq {nodes nodes' : List XmlNode} (alike : XmlNode.Alike nodes nodes') :
    (nodes.filterMap XmlNode.element?).map taken =
      (nodes'.filterMap XmlNode.element?).map taken := by
  induction alike with
  | refl nodes => rfl
  | comment before rest s =>
    rw [List.filterMap_append, List.filterMap_append]
    rfl
  | instruction before rest target content =>
    rw [List.filterMap_append, List.filterMap_append]
    rfl
  | cut before rest s t =>
    rw [List.filterMap_append, List.filterMap_append]
    rfl
  | inside before rest name attributes alike _ =>
    simp [XmlNode.element?, taken, alike.ofXmlList_eq]
  | symm _ ih => exact ih.symm
  | trans _ _ ih ih' => exact ih.trans ih'

/-- Documents with alike contents describe the same mapper, or fail alike. -/
theorem ofElement_eq_of_alike (root : XmlElement) {children : List XmlNode}
    (alike : XmlNode.Alike root.children children) :
    ofElement { root with children := children } = ofElement root := by
  have folded := foldlM_define_congr (map_taken_eq alike).symm
  exact if_congr Iff.rfl rfl (if_congr Iff.rfl rfl (folded _))

/-- Every statement and every fragment of a mapper has the body of the element that defines it. -/
structure BodiesFrom (elements : List XmlElement) (mapper : Mapper) : Prop where
  statements : ∀ id statement, mapper.statements.get? id = some statement →
    ∃ element ∈ elements, element.attribute? "id" = some id ∧
      StatementKind.ofName? element.name.simple = some statement.kind ∧
      IsBody element.children statement.body
  fragments : ∀ id fragment, mapper.fragments.get? id = some fragment →
    ∃ element ∈ elements, element.attribute? "id" = some id ∧ element.name.simple = "sql" ∧
      IsBody element.children fragment.body

theorem attribute?_of_id? {element : XmlElement} {id : String} (found : id? element = .ok id) :
    element.attribute? "id" = some id := by
  unfold id? at found
  split at found
  next other same => rw [same, Except.ok.inj found]
  next => cases found

theorem BodiesFrom.define {elements : List XmlElement} {mapper mapper' : Mapper}
    (bodies : BodiesFrom elements mapper) {element : XmlElement} (member : element ∈ elements)
    (defined : Mapper.define mapper element = .ok mapper') : BodiesFrom elements mapper' := by
  unfold Mapper.define at defined
  split at defined
  next kind named =>
    obtain ⟨id, found, run⟩ := bind_eq_ok_iff.1 defined
    obtain rfl := Except.ok.inj run
    refine ⟨fun other statement stored => ?_, bodies.fragments⟩
    rw [Dict.get?_put] at stored
    split at stored
    next same =>
      obtain rfl := Option.some.inj stored
      exact ⟨element, member, same ▸ attribute?_of_id? found, named, isBody_ofXmlList _⟩
    next => exact bodies.statements other statement stored
  next none isSql =>
    obtain ⟨id, found, run⟩ := bind_eq_ok_iff.1 defined
    obtain rfl := Except.ok.inj run
    refine ⟨bodies.statements, fun other fragment stored => ?_⟩
    rw [Dict.get?_put] at stored
    split at stored
    next same =>
      obtain rfl := Option.some.inj stored
      exact ⟨element, member, same ▸ attribute?_of_id? found, eq_of_beq isSql, isBody_ofXmlList _⟩
    next => exact bodies.fragments other fragment stored
  next => exact Except.ok.inj defined ▸ bodies

/-- The bodies of all statements and fragments are normal and complete, and the mapper does not
depend on comments, instructions and cuts of text. -/
theorem bodies_normal (root : XmlElement) :
    (∀ children, XmlNode.Alike root.children children →
      ofElement { root with children := children } = ofElement root) ∧
    ∀ mapper, ofElement root = .ok mapper → BodiesFrom root.childElements mapper := by
  refine ⟨fun children alike => ofElement_eq_of_alike root alike, fun mapper read => ?_⟩
  unfold ofElement at read
  split at read
  · cases read
  dsimp only at read
  split at read
  · cases read
  have fresh (ns : String) : BodiesFrom root.childElements ⟨ns, [], []⟩ := ⟨nofun, nofun⟩
  exact foldlM_keeps (fun _ member _ _ bodies => bodies.define member) (fresh _) read

/-- A comment inside a placeholder, and an instruction inside a nested tag. -/
theorem bodies_of_commented_normal :
    let root (body : List XmlNode) : XmlElement :=
      ⟨⟨"", "mapper"⟩, [(⟨"", "namespace"⟩, "m")],
        [.element ⟨"", "select"⟩ [(⟨"", "id"⟩, "s")] body]⟩
    let commented := root [.text "#\x7b", .comment "key", .text "id\x7d",
      .element ⟨"", "if"⟩ [(⟨"", "test"⟩, "a")] [.text "x", .instruction "p" "q", .text "y"]]
    let plain := root [.text "#\x7bid\x7d", .element ⟨"", "if"⟩ [(⟨"", "test"⟩, "a")] [.text "xy"]]
    let mapper : Mapper := ⟨"m", [("s", ⟨"s", .select, none,
      [.text "#\x7bid\x7d", .tag ⟨"if", [("test", "a")], [.text "xy"]⟩]⟩)], []⟩
    XmlNode.Alike commented.children plain.children ∧ ofElement commented = .ok mapper ∧
      ofElement plain = .ok mapper ∧ BodiesFrom commented.childElements mapper := by
  intro root commented plain mapper
  have inner : XmlNode.Alike [.text "x", .instruction "p" "q", .text "y"] [.text "xy"] :=
    .trans (.instruction [.text "x"] [.text "y"] "p" "q") (.symm (.cut [] [] "x" "y"))
  have alike : XmlNode.Alike commented.children plain.children := by
    refine .inside [] [] _ _ (.trans (.comment [.text "#\x7b"] _ "key") ?_)
    exact .trans (.symm (.cut [] _ "#\x7b" "id\x7d")) (.inside [.text "#\x7bid\x7d"] [] _ _ inner)
  have read : ofElement commented = .ok mapper := by cbv
  have same : ofElement plain = ofElement commented := (bodies_normal commented).1 _ alike
  exact ⟨alike, read, same.trans read, (bodies_normal commented).2 mapper read⟩

end Mapper

end SqlPreview
