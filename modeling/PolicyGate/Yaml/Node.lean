import PolicyGate.Yaml.Event

/-!
# Node trees

The events of a document make a tree of nodes. A node that is used again by an alias stands in the
tree as a number under which it is kept beside it. Where the text broke off the tree ends in a
`cut`; what stands before the cut can still be looked at.
-/

namespace PolicyGate.Yaml

inductive Node where
  | scalar (mark : Mark) (tag : Option String) (style : Style) (text : String)
  | sequence (mark : Mark) (items : List Node)
  | mapping (mark : Mark) (entries : List (Node × Node))
  /-- A node that is kept beside the tree. -/
  | shared (number : Nat)
  /-- An empty document. -/
  | void
  /-- The text broke off here. -/
  | cut

/-- The first document of a text. -/
structure Document where
  root : Node
  /-- The nodes that aliases stand for. -/
  shared : List (Nat × Node) := []
  /-- Why it is not a well-formed document, the only one of its text. -/
  flaw : Option Refusal := none

namespace Document

/-- What a node is once its alias is followed. No alias stands for an alias. -/
def resolve (d : Document) : Node → Node
  | .shared n => (d.shared.lookup n).getD .cut
  | n => n

end Document

/-! ## Building -/

/-- A collection that is being read, its parts in reverse. -/
inductive OpenNode where
  | sequence (mark : Mark) (items : List Node)
  | mapping (mark : Mark) (entries : List (Node × Node)) (key : Option Node)

namespace OpenNode

def add (n : Node) : OpenNode → OpenNode
  | .sequence m items => .sequence m (n :: items)
  | .mapping m entries none => .mapping m entries (some n)
  | .mapping m entries (some k) => .mapping m ((k, n) :: entries) none

def close : OpenNode → Node
  | .sequence m items => .sequence m items.reverse
  | .mapping m entries _ => .mapping m entries.reverse

/-- The collection if the text broke off inside it. -/
def breakOff (inner : Node) : OpenNode → Node
  | .sequence m items => .sequence m (inner :: items).reverse
  | .mapping m entries none => .mapping m ((inner, .cut) :: entries).reverse
  | .mapping m entries (some k) => .mapping m ((k, inner) :: entries).reverse

end OpenNode

/-- A document that is being read. -/
structure Builder where
  /-- The open collections, the innermost first, with the places of their anchors. -/
  stack : List (OpenNode × Option Nat) := []
  root : Option Node := none
  /-- The numbers of the anchors. -/
  anchors : List (String × Nat) := []
  /-- Where the node of a number starts, the latest first. -/
  places : List (Nat × Nat) := []
  /-- The nodes that have an anchor, by their places. -/
  finished : List (Nat × Node) := []
  place : Nat := 0

namespace Builder

/-- Notes an anchor. Its number is the count of names before it, even if its name comes again. -/
def anchor (b : Builder) : Option String → Builder × Option Nat
  | none => (b, none)
  | some a =>
    let number := b.anchors.length
    ({ b with
        anchors := (a, number) :: b.anchors.filter (·.1 != a)
        places := (number, b.place) :: b.places },
      some b.place)

/-- Adds a complete node to the innermost collection. -/
def add (b : Builder) (n : Node) (place : Option Nat) : Builder :=
  let b := match place with
    | none => b
    | some p => { b with finished := (p, n) :: b.finished }
  match b.stack with
  | [] => { b with root := some n }
  | (o, p) :: rest => { b with stack := (o.add n, p) :: rest }

def openNode (b : Builder) (p : Properties) (o : OpenNode) : Builder :=
  let (b, place) := b.anchor p.anchor
  { b with stack := (o, place) :: b.stack }

def closeNode (b : Builder) : Builder :=
  match b.stack with
  | [] => b
  | (o, place) :: rest => { b with stack := rest }.add o.close place

/-- Takes an event of the document, unless it is an alias of nothing. -/
def take (b : Builder) (e : Located Event) : Option Builder :=
  let b := { b with place := b.place + 1 }
  match e.item with
  | .reference name => (b.anchors.lookup name).map fun n => b.add (.shared n) none
  | .scalar p style text =>
    let (b, place) := b.anchor p.anchor
    some (b.add (.scalar e.mark p.tag style text) place)
  | .sequenceStart p => some (b.openNode p (.sequence e.mark []))
  | .mappingStart p => some (b.openNode p (.mapping e.mark [] none))
  | .sequenceEnd | .mappingEnd => some b.closeNode
  | .documentStart | .documentEnd | .streamEnd => some b

/-- The nodes that aliases stand for. -/
def shared (b : Builder) : List (Nat × Node) :=
  b.places.filterMap fun p => (b.finished.lookup p.2).map (p.1, ·)

def document (b : Builder) (flaw : Option Refusal) : Document :=
  ⟨b.root.getD .cut, b.shared, flaw⟩

/-- Breaks the open collections off, from the innermost to the root. -/
def breakOffAll (b : Builder) (inner : Node) : List (OpenNode × Option Nat) → Builder
  | [] => { b with root := some inner }
  | (o, place) :: rest =>
    let n := o.breakOff inner
    let b := match place with
      | none => b
      | some p => { b with finished := (p, n) :: b.finished }
    breakOffAll b n rest

def breakOff (b : Builder) (flaw : Refusal) : Document :=
  let b := match b.root with
    | none => b.breakOffAll .cut b.stack
    | some _ => b
  b.document (some flaw)

/-- Builds the first document from the events behind its start, which end for a reason. -/
def run (broken : Refusal) (b : Builder) : List (Located Event) → Document
  | [] => b.breakOff broken
  | e :: es =>
    match e.item with
    | .documentEnd =>
      b.document (if es.map (·.item) == [.streamEnd] then none else some { problem := .moreDocuments })
    | _ =>
      match b.take e with
      | none => b.breakOff { problem := .unknownAnchor, mark := e.mark }
      | some b => b.run broken es

end Builder

/-- The first document of a text. -/
def load (text : String) : Document :=
  match events text with
  | ([], broken) => ⟨.cut, [], some broken⟩
  | (e :: es, broken) =>
    if e.item == .streamEnd then ⟨.void, [], none⟩ else ({} : Builder).run broken es

end PolicyGate.Yaml
