import ElementSearch.Arena.Order
import ElementSearch.Tree.Host
import ElementSearch.Url.Parse

/-!
# Arenas as hosts

An arena answers lookups by id and class from its indexes. The answers are in document order, as those
of a scan would be.
-/

namespace ElementSearch.Arena

open Text

variable (arena : Arena)

/-- A reference as it is resolved against the base URL of its document. Without a base URL, or if it
cannot be resolved, it stays as it is. -/
def resolve (node : Handle) (reference : String) : String :=
  let base := (arena.outline.documentOf node).bind arena.baseUrl
  ((base.bind fun base => (Url.join base reference).toOption).map Url.toString).getD reference

/-- A reflected property of an element. -/
def property (node : Handle) (name : String) : Option PropertyValue := do
  let element ← arena.element? node
  match name with
  | "tagName" => some (.text (asciiUppercase element.tag))
  | "className" => some (.text ((element.attributeValue "class").getD ""))
  | "clientWidth" => some (.number (element.clientSize.elim 0.0 (·.width)))
  | "clientHeight" => some (.number (element.clientSize.elim 0.0 (·.height)))
  | "src" | "href" => (element.attributeValue name).map fun text => .text (arena.resolve node text)
  | _ => (element.attributeValue name).map .text

/-- The first element of a document with an id up to letter case. -/
def elementById (document : Handle) (id : String) : Option Handle :=
  let candidates := (arena.ids.nodes (lowercased id)).filter fun node =>
    arena.outline.documentOf node = some document
  (arena.inDocumentOrder candidates).head?

/-- The elements below a node with a class up to letter case. -/
def elementsByClassName (scope : Handle) (name : String) : List Handle :=
  arena.inDocumentOrder ((arena.classes.nodes (lowercased name)).filter fun node =>
    node ≠ scope && arena.outline.contains scope node)

/-- The elements of a document with a class up to letter case. -/
def selectByClass (document : Handle) (name : String) : List Handle :=
  arena.inDocumentOrder ((arena.classes.nodes (lowercased name)).filter fun node =>
    arena.outline.documentOf node = some document)

/-- The arena as a host. -/
def host : Host Handle where
  toOutline := arena.outline
  property := arena.property
  style node := (arena.element? node).map (·.style)
  boundingRect node := (arena.element? node).bind (·.rect)
  clientSize node := (arena.element? node).bind (·.clientSize)
  contentDocument node := (arena.element? node).bind (·.frame)
  elementById := arena.elementById
  elementsByClassName scope name := some (arena.elementsByClassName scope name)
  selectByClass document name := some (arena.selectByClass document name)

end ElementSearch.Arena
