import TableGateway.Yaml.Token

/-!
# YAML documents

A `Node` is the tree that a document stands for.  Scalars keep their text and whether it was
written plainly, because only a plain `true` is a truth value and only a plain `~` is nothing; with
a tag they keep the tag and the whole form.  The tags of collections say nothing to a reader and
are dropped.

* `Node.nodeFrom` — the node at the head of a list of tokens, and the tokens after it.
* `Node.parse?` — the single document of a text; a text without one has no node.
* `Node.text?`, `truth?`, `items?`, `pairs?`, `isNull?` — what a node says to a reader that expects
  a text, a truth value, a list, a record, or perhaps nothing.
* `Node.anchors`, `Node.target` — what the anchors of a document stand at, and the node that an
  alias stands for.

Where a node may be left out, an empty plain scalar stands for it.

An alias is looked up only where it is read, so one inside the node that it names does no harm
there.  That a document may not be read through too many aliases is left out.
-/

namespace TableGateway.Yaml

/-- A YAML document. -/
inductive Node where
  | scalar (text : String) (plain : Bool)
  | tagged (tag : Tag) (text : String) (form : Form)
  | sequence (items : List Node)
  | mapping (pairs : List (Node × Node))
  | anchored (number : Nat) (node : Node)
  | alias (number : Nat)

namespace Node

/-- The node that stands where none is written. -/
def empty : Node := .scalar "" true

/-- A scalar with its tag, if it has one that says what it is. -/
def ofScalar (tag : Option Tag) (text : String) (form : Form) : Node :=
  match tag.filter (· ≠ .unspecific) with
  | some tag => .tagged tag text form
  | none => .scalar text (form = .plain)

/-! ## What a node says -/

/-- The text of a scalar, whatever its form. -/
def text? : Node → Option String
  | .scalar text _ | .tagged _ text _ => some text
  | _ => none

/-- The truth value of a word. -/
def truthOf? (text : String) : Option Bool :=
  if ["true", "True", "TRUE"].contains text then some true
  else if ["false", "False", "FALSE"].contains text then some false
  else none

/-- The truth value of a plain scalar, or of a block that is tagged as one. -/
def truth? : Node → Option Bool
  | .scalar text true => truthOf? text
  | .tagged _ text .plain => truthOf? text
  | .tagged tag text .literal => if tag = .bool then truthOf? text else none
  | _ => none

/-- The words for nothing. -/
def nullWords : List String := ["~", "null", "Null", "NULL"]

/-- Whether a node says that there is nothing.  A plain scalar that is tagged so must be a word for
it. -/
def isNull? : Node → Option Bool
  | .scalar text true => some (text = "" || nullWords.contains text)
  | .tagged tag text .plain =>
    if tag = .null then if nullWords.contains text then some true else none else some false
  | _ => some false

/-- Whether a node is an empty plain scalar, with any tag. -/
def isLeftOut : Node → Bool
  | .scalar text plain => plain && text = ""
  | .tagged _ text form => form = .plain && text = ""
  | _ => false

/-- The items of a sequence; a node that is left out has none. -/
def items? : Node → Option (List Node)
  | .sequence items => some items
  | node => if node.isLeftOut then some [] else none

/-- The pairs of a mapping; a node that is left out has none. -/
def pairs? : Node → Option (List (Node × Node))
  | .mapping pairs => some pairs
  | node => if node.isLeftOut then some [] else none

/-! ## Anchors -/

mutual

/-- The nodes at the anchors of a node, in front of those found before; the last one comes first. -/
def anchorsFrom (found : List (Nat × Node)) : Node → List (Nat × Node)
  | .anchored number node => anchorsFrom ((number, node) :: found) node
  | .sequence items => anchorsOfItems found items
  | .mapping pairs => anchorsOfPairs found pairs
  | _ => found

/-- The nodes at the anchors of a list of nodes. -/
def anchorsOfItems (found : List (Nat × Node)) : List Node → List (Nat × Node)
  | [] => found
  | item :: rest => anchorsOfItems (anchorsFrom found item) rest

/-- The nodes at the anchors of a list of pairs. -/
def anchorsOfPairs (found : List (Nat × Node)) : List (Node × Node) → List (Nat × Node)
  | [] => found
  | (key, value) :: rest => anchorsOfPairs (anchorsFrom (anchorsFrom found key) value) rest

end

/-- The nodes at the anchors of a document.  Of two anchors with one number the later comes
first. -/
def anchors (node : Node) : List (Nat × Node) := anchorsFrom [] node

/-- The node that a node stands for. -/
def target (anchors : List (Nat × Node)) : Node → Node
  | .alias number => (anchors.lookup number).getD (.alias number)
  | .anchored _ node => node
  | node => node

/-! ## Reading a document -/

/-- The positions of a node, which differ in what may stand there. -/
inductive Place where
  /-- Inside a flow collection: flow collections and scalars. -/
  | flow
  /-- An entry of a block sequence: any node. -/
  | block
  /-- A key or a value of a block mapping: any node, and a block sequence that is not indented. -/
  | pair
  deriving DecidableEq

/-- Whether a token ends a place of a block mapping that was left empty. -/
def endsPair : Option Token → Bool
  | some .key | some .value | some .closeBlock => true
  | _ => false

/-- Whether a token ends an entry of a block sequence that was left empty. -/
def endsEntry (indented : Bool) : Option Token → Bool
  | some .entry | some .closeBlock => true
  | some .key | some .value => !indented
  | _ => false

/-- Whether a token ends a place of a flow collection that was left empty. -/
def endsFlow (closing : Token) (t : Option Token) : Bool :=
  t == some .comma || t == some closing

/-- Whether a token starts the content of a node. -/
def startsContent (place : Place) : Option Token → Bool
  | some (.scalar _ _) | some .openFlowSequence | some .openFlowMapping => true
  | some .openBlockSequence | some .openBlockMapping => place ≠ .flow
  | some .entry => place = .pair
  | _ => false

/-- What stands before the content of a node. -/
structure Properties where
  anchor : Option Nat
  tag : Option Tag

namespace Properties

/-- The properties at the head of the tokens, in either order, and the tokens after them. -/
def ofTokens : List Token → Properties × List Token
  | .anchor number :: .tag tag :: ts => (⟨number, tag⟩, ts)
  | .tag tag :: .anchor number :: ts => (⟨number, tag⟩, ts)
  | .anchor number :: ts => (⟨number, none⟩, ts)
  | .tag tag :: ts => (⟨none, tag⟩, ts)
  | ts => (⟨none, none⟩, ts)

/-- A node at its anchor. -/
def anchored (p : Properties) (node : Node) : Node :=
  match p.anchor with
  | some number => .anchored number node
  | none => node

/-- The node that has properties and no content. -/
def alone? (p : Properties) : Option Node :=
  match p.tag, p.anchor with
  | some tag, _ => some (p.anchored (.tagged tag "" .plain))
  | none, some number => some (.anchored number empty)
  | none, none => none

end Properties

mutual

/-- The node at the head of the tokens, and the tokens after it. -/
def nodeFrom : Nat → Place → List Token → Option (Node × List Token)
  | 0, _, _ => none
  | fuel + 1, place, ts =>
    match ts with
    | .alias number :: ts => some (.alias number, ts)
    | ts =>
      let (properties, ts) := Properties.ofTokens ts
      if startsContent place ts.head? then do
        let (node, ts) ← contentFrom fuel properties.tag ts
        some (properties.anchored node, ts)
      else properties.alone?.map (·, ts)

/-- The content of a node at the head of the tokens, and the tokens after it. -/
def contentFrom : Nat → Option Tag → List Token → Option (Node × List Token)
  | 0, _, _ => none
  | fuel + 1, tag, ts =>
    match ts with
    | .scalar text form :: ts => some (ofScalar tag text form, ts)
    | .openFlowSequence :: ts => do
      let (items, ts) ← flowItems fuel true ts
      some (.sequence items, ts)
    | .openFlowMapping :: ts => do
      let (pairs, ts) ← flowPairs fuel true ts
      some (.mapping pairs, ts)
    | .openBlockSequence :: ts => do
      let (items, ts) ← blockItems fuel true ts
      some (.sequence items, ts)
    | .openBlockMapping :: ts => do
      let (pairs, ts) ← blockPairs fuel ts
      some (.mapping pairs, ts)
    | .entry :: _ => do
      let (items, ts) ← blockItems fuel false ts
      some (.sequence items, ts)
    | _ => none

/-- The node at the head of the tokens, or an empty one where it was left out. -/
def nodeOrEmpty : Nat → Place → (Option Token → Bool) → List Token → Option (Node × List Token)
  | 0, _, _, _ => none
  | fuel + 1, place, ends, ts =>
    if ends ts.head? then some (empty, ts) else nodeFrom fuel place ts

/-- The entries of a block sequence.  Only an indented one has a closing token. -/
def blockItems : Nat → Bool → List Token → Option (List Node × List Token)
  | 0, _, _ => none
  | fuel + 1, indented, ts =>
    match indented, ts with
    | _, .entry :: ts => do
      let (item, ts) ← nodeOrEmpty fuel .block (endsEntry indented) ts
      let (items, ts) ← blockItems fuel indented ts
      some (item :: items, ts)
    | true, .closeBlock :: ts => some ([], ts)
    | true, _ => none
    | false, ts => some ([], ts)

/-- The pairs of a block mapping. -/
def blockPairs : Nat → List Token → Option (List (Node × Node) × List Token)
  | 0, _ => none
  | fuel + 1, ts =>
    match ts with
    | .key :: ts => do
      let (key, ts) ← nodeOrEmpty fuel .pair endsPair ts
      let (value, ts) ← valueFrom fuel .pair endsPair ts
      let (pairs, ts) ← blockPairs fuel ts
      some ((key, value) :: pairs, ts)
    | .closeBlock :: ts => some ([], ts)
    | _ => none

/-- The value after a key; without a colon it is empty. -/
def valueFrom : Nat → Place → (Option Token → Bool) → List Token → Option (Node × List Token)
  | 0, _, _, _ => none
  | fuel + 1, place, ends, ts =>
    match ts with
    | .value :: ts => nodeOrEmpty fuel place ends ts
    | ts => some (empty, ts)

/-- The entries of a flow sequence, with a comma before all but the first.  A pair may stand for a
mapping that has only it; where its key is left out, the token after it is passed over. -/
def flowItems : Nat → Bool → List Token → Option (List Node × List Token)
  | 0, _, _ => none
  | fuel + 1, first, ts =>
    match first, ts with
    | _, .closeFlowSequence :: ts => some ([], ts)
    | false, .comma :: ts => flowItems fuel true ts
    | true, .key :: ts => do
      let ends := ts.head? == some .value || endsFlow .closeFlowSequence ts.head?
      let (key, ts) ← if ends then some (empty, ts.tail) else nodeFrom fuel .flow ts
      let (value, ts) ← valueFrom fuel .flow (endsFlow .closeFlowSequence) ts
      let (items, ts) ← flowItems fuel false ts
      some (.mapping [(key, value)] :: items, ts)
    | true, ts => do
      let (item, ts) ← nodeFrom fuel .flow ts
      let (items, ts) ← flowItems fuel false ts
      some (item :: items, ts)
    | false, _ => none

/-- The pairs of a flow mapping, with a comma before all but the first.  A node alone is a key with
an empty value. -/
def flowPairs : Nat → Bool → List Token → Option (List (Node × Node) × List Token)
  | 0, _, _ => none
  | fuel + 1, first, ts =>
    match first, ts with
    | _, .closeFlowMapping :: ts => some ([], ts)
    | false, .comma :: ts => flowPairs fuel true ts
    | true, .key :: ts => do
      let ends := fun t => t == some .value || endsFlow .closeFlowMapping t
      let (key, ts) ← nodeOrEmpty fuel .flow ends ts
      let (value, ts) ← valueFrom fuel .flow (endsFlow .closeFlowMapping) ts
      let (pairs, ts) ← flowPairs fuel false ts
      some ((key, value) :: pairs, ts)
    | true, ts => do
      let (key, ts) ← nodeFrom fuel .flow ts
      let (pairs, ts) ← flowPairs fuel false ts
      some ((key, empty) :: pairs, ts)
    | false, _ => none

end

/-- The node of a document, or an empty one where the document has only its marks.  After directives
there must be a mark. -/
def documentFrom (ts : List Token) : Option (Node × List Token) :=
  match ts.dropWhile (· == .directive) with
  | .documentStart :: ts =>
    let ends (t : Option Token) := t.isNone || t == some .documentStart || t == some .documentEnd
    nodeOrEmpty (6 * ts.length + 6) .block ends ts
  | _ => nodeFrom (6 * ts.length + 6) .block ts

/-- The document of a text.  Of a text without tokens there is none, and a text with more than one
document is refused. -/
def parse? (s : String) : Option (Option Node) := do
  match ← tokens? s with
  | [] => some none
  | ts =>
    let (node, rest) ← documentFrom ts
    if rest.all (· == .documentEnd) then some (some node) else none

end Node

end TableGateway.Yaml
