import MetricFeed.Yaml.Lexer

/-!
# Documents

A document is a tree of nodes.  A text that breaks off with an error still gives the tree of what came before, with
`cut` where it ends, so that a reader meets the faults of a text in their order.  An alias stands for the anchored
node by number, and the numbers of the anchors are settled when the whole document is known.
-/

namespace MetricFeed.Yaml

inductive Node where
  | scalar (style : Style) (tag : Option Tag) (text : String)
  | sequence (items : List Node)
  | mapping (entries : List (Node × Node))
  | alias (anchor : Nat)
  /-- Nothing at all. -/
  | void
  /-- The text breaks off here. -/
  | cut

/-- A scalar that is left out. -/
def Node.absent : Node := .scalar .plain none ""

/-- What is known while the nodes of a document are read. -/
structure Builder where
  lexer : Lexer
  /-- What tags begin with, by their handle. -/
  handles : List (String × Tag) := []
  /-- The number of the anchor that a name stands for. -/
  names : List (String × Nat) := []
  /-- For an anchor number, the position of its node; the newest entry holds. -/
  positions : List (Nat × Nat) := []
  /-- Anchored nodes by position. -/
  nodes : List (Nat × Node) := []
  position : Nat := 0
  failed : Bool := false

namespace Builder

def fail (b : Builder) : Builder :=
  { b with failed := true }

/-- The next token; none after an error, and none is an error. -/
def peek (b : Builder) : Option Token × Builder :=
  if b.failed then (none, b)
  else match b.lexer.peek? with
    | some (t, lexer) => (some t, { b with lexer })
    | none => (none, b.fail)

def advance (b : Builder) : Builder :=
  { b with lexer := b.lexer.advance }

/-- The position of a node that begins here. -/
def nextPosition (b : Builder) : Nat × Builder :=
  (b.position, { b with position := b.position + 1 })

/-- Give a name to the node at a position.  The number of an anchor is how many different names there were before. -/
def bindAnchor (b : Builder) (name : Option String) (position : Nat) : Builder :=
  match name with
  | none => b
  | some name =>
    let number := b.names.length
    { b with
      names := (name, number) :: b.names.filter fun n => n.1 ≠ name
      positions := (number, position) :: b.positions }

def keep (b : Builder) (name : Option String) (position : Nat) (node : Node) : Builder :=
  if name.isSome then { b with nodes := (position, node) :: b.nodes } else b

/-! ### Properties of a node -/

structure Properties where
  anchor : Option String := none
  tag : Option (String × Tag) := none

/-- An anchor and a tag, in either order. -/
def takeProperties (b : Builder) : Properties × Builder :=
  let (t, b) := b.peek
  match t with
  | some (.anchor a) =>
    let (t, b) := b.advance.peek
    match t with
    | some (.tag h s) => (⟨some a, some (h, s)⟩, b.advance)
    | _ => (⟨some a, none⟩, b)
  | some (.tag h s) =>
    let (t, b) := b.advance.peek
    match t with
    | some (.anchor a) => (⟨some a, some (h, s)⟩, b.advance)
    | _ => (⟨none, some (h, s)⟩, b)
  | _ => ({}, b)

/-- A tag with its handle replaced by what it stands for. -/
def fullTag? (b : Builder) : Option (String × Tag) → Option (Option Tag)
  | none => some none
  | some (handle, suffix) =>
    if handle.isEmpty then some (some suffix)
    else (b.handles.lookup handle).map fun front => some (front ++ suffix)

/-- A scalar that is left out, at its own position. -/
def absentAt (b : Builder) : Node × Builder :=
  (.absent, b.nextPosition.2)

/-! ### Nodes

Each function reads up to the end of what it reads; the first argument bounds the number of steps.  The items and
entries read so far stand in `done`, newest first. -/

def endSequence (done : List Node) (b : Builder) : Node × Builder :=
  if b.failed then (.sequence (.cut :: done).reverse, b) else (.sequence done.reverse, b.nextPosition.2)

def endMapping (done : List (Node × Node)) (b : Builder) : Node × Builder :=
  if b.failed then (.mapping ((.cut, .cut) :: done).reverse, b) else (.mapping done.reverse, b.nextPosition.2)

mutual

/-- A node, which may be a block collection if `block` and the entries of a sequence without indentation of its own
if `compact`. -/
def readNode : Nat → Bool → Bool → Builder → Node × Builder
  | 0, _, _, b => (.cut, b.fail)
  | fuel + 1, block, compact, b =>
    let (t, b) := b.peek
    match t with
    | some (.alias name) =>
      match b.names.lookup name with
      | some number => (.alias number, b.advance.nextPosition.2)
      | none => (.cut, b.fail)
    | _ =>
      let (properties, b) := b.takeProperties
      let (t, b) := b.peek
      match b.failed, b.fullTag? properties.tag with
      | false, some tag =>
        let (position, b') := b.nextPosition
        let named := b'.bindAnchor properties.anchor position
        let finish := fun (r : Node × Builder) => (r.1, r.2.keep properties.anchor position r.1)
        match t with
        | some (.scalar style text) =>
          finish (.scalar style tag text, named.advance)
        | some .flowSequenceStart => finish (readFlowItems fuel [] named.advance)
        | some .flowMappingStart => finish (readFlowEntries fuel [] named.advance)
        | some .blockSequenceStart =>
          if block then finish (readBlockItems fuel [] named.advance) else (.cut, b.fail)
        | some .blockMappingStart =>
          if block then finish (readBlockEntries fuel [] named.advance) else (.cut, b.fail)
        | some .blockEntry =>
          if compact then finish (readCompactItems fuel [] named)
          else if properties.anchor.isSome || properties.tag.isSome then
            finish (.scalar .plain tag "", named)
          else (.cut, b.fail)
        | _ =>
          if properties.anchor.isSome || properties.tag.isSome then finish (.scalar .plain tag "", named)
          else (.cut, b.fail)
      | _, _ => (.cut, b.fail)

/-- The items of a block sequence, each after its dash. -/
def readBlockItems : Nat → List Node → Builder → Node × Builder
  | 0, done, b => endSequence done b.fail
  | fuel + 1, done, b =>
    let (t, b) := b.peek
    match t with
    | some .blockEntry =>
      let (t, b) := b.advance.peek
      let (item, b) := match t with
        | some .blockEntry => b.absentAt
        | some .blockEnd => b.absentAt
        | _ => readNode fuel true false b
      if b.failed then endSequence (item :: done) b else readBlockItems fuel (item :: done) b
    | some .blockEnd => endSequence done b.advance
    | _ => endSequence done b.fail

/-- The items of a sequence that stands at the column of the mapping around it. -/
def readCompactItems : Nat → List Node → Builder → Node × Builder
  | 0, done, b => endSequence done b.fail
  | fuel + 1, done, b =>
    let (t, b) := b.peek
    match t with
    | some .blockEntry =>
      let (t, b) := b.advance.peek
      let (item, b) := match t with
        | some .blockEntry => b.absentAt
        | some .key => b.absentAt
        | some .value => b.absentAt
        | some .blockEnd => b.absentAt
        | _ => readNode fuel true false b
      if b.failed then endSequence (item :: done) b else readCompactItems fuel (item :: done) b
    | _ => endSequence done b

/-- The entries of a block mapping. -/
def readBlockEntries : Nat → List (Node × Node) → Builder → Node × Builder
  | 0, done, b => endMapping done b.fail
  | fuel + 1, done, b =>
    let (t, b) := b.peek
    match t with
    | some .key =>
      let (t, b) := b.advance.peek
      let (key, b) := match t with
        | some .key => b.absentAt
        | some .value => b.absentAt
        | some .blockEnd => b.absentAt
        | _ => readNode fuel true true b
      if b.failed then endMapping ((key, .cut) :: done) b
      else
        let (value, b) := readBlockValue fuel b
        if b.failed then endMapping ((key, value) :: done) b else readBlockEntries fuel ((key, value) :: done) b
    | some .blockEnd => endMapping done b.advance
    | _ => endMapping done b.fail

/-- The value of an entry of a block mapping, if it has one. -/
def readBlockValue : Nat → Builder → Node × Builder
  | 0, b => (.cut, b.fail)
  | fuel + 1, b =>
    let (t, b) := b.peek
    match t with
    | some .value =>
      let (t, b) := b.advance.peek
      match t with
      | some .key => b.absentAt
      | some .value => b.absentAt
      | some .blockEnd => b.absentAt
      | _ => readNode fuel true true b
    | some _ => b.absentAt
    | none => (.cut, b)

/-- The items of a flow sequence; an item may be a mapping of a single entry. -/
def readFlowItems : Nat → List Node → Builder → Node × Builder
  | 0, done, b => endSequence done b.fail
  | fuel + 1, done, b =>
    let (t, b) := b.peek
    match t with
    | some .flowSequenceEnd => endSequence done b.advance
    | _ =>
      let (t, b) := if done.isEmpty then (t, b) else
        match t with
        | some .flowEntry => b.advance.peek
        | _ => (none, b.fail)
      match t with
      | some .flowSequenceEnd => endSequence done b.advance
      | some .key =>
        let (item, b) := readFlowPair fuel b.advance
        if b.failed then endSequence (item :: done) b else readFlowItems fuel (item :: done) b
      | _ =>
        let (item, b) := readNode fuel false false b
        if b.failed then endSequence (item :: done) b else readFlowItems fuel (item :: done) b

/-- A mapping of a single entry in a flow sequence, after the indicator of its key. -/
def readFlowPair : Nat → Builder → Node × Builder
  | 0, b => (.cut, b.fail)
  | fuel + 1, b =>
    let b := b.nextPosition.2
    let (t, b) := b.peek
    let (key, b) := match t with
      | some .value => b.advance.absentAt
      | some .flowEntry => b.advance.absentAt
      | some .flowSequenceEnd => b.advance.absentAt
      | _ => readNode fuel false false b
    if b.failed then endMapping [(key, .cut)] b
    else
      let (t, b) := b.peek
      let (value, b) := match t with
        | some .value =>
          let (t, b) := b.advance.peek
          match t with
          | some .flowEntry => b.absentAt
          | some .flowSequenceEnd => b.absentAt
          | _ => readNode fuel false false b
        | some _ => b.absentAt
        | none => (.cut, b)
      if b.failed then endMapping [(key, value)] b else endMapping [(key, value)] b.peek.2

/-- The entries of a flow mapping. -/
def readFlowEntries : Nat → List (Node × Node) → Builder → Node × Builder
  | 0, done, b => endMapping done b.fail
  | fuel + 1, done, b =>
    let (t, b) := b.peek
    match t with
    | some .flowMappingEnd => endMapping done b.advance
    | _ =>
      let (t, b) := if done.isEmpty then (t, b) else
        match t with
        | some .flowEntry => b.advance.peek
        | _ => (none, b.fail)
      match t with
      | some .flowMappingEnd => endMapping done b.advance
      | some .key =>
        let (t, b) := b.advance.peek
        let (key, b) := match t with
          | some .value => b.absentAt
          | some .flowEntry => b.absentAt
          | some .flowMappingEnd => b.absentAt
          | _ => readNode fuel false false b
        if b.failed then endMapping ((key, .cut) :: done) b
        else
          let (t, b) := b.peek
          let (value, b) := match t with
            | some .value =>
              let (t, b) := b.advance.peek
              match t with
              | some .flowEntry => b.absentAt
              | some .flowMappingEnd => b.absentAt
              | _ => readNode fuel false false b
            | some _ => b.absentAt
            | none => (.cut, b)
          if b.failed then endMapping ((key, value) :: done) b else readFlowEntries fuel ((key, value) :: done) b
      | _ =>
        let (key, b) := readNode fuel false false b
        if b.failed then endMapping ((key, .cut) :: done) b
        else
          let (_, b) := b.peek
          if b.failed then endMapping ((key, .cut) :: done) b
          else
            let (value, b) := b.absentAt
            readFlowEntries fuel ((key, value) :: done) b

end

/-! ### Directives and the marks around a document -/

/-- What the handles stand for that need no directive. -/
def defaultHandles : List (String × Tag) :=
  [("!", Text.bytes "!"), ("!!", Text.bytes "tag:yaml.org,2002:")]

/-- The directives before a document: at most one version, 1.1 or 1.2, and a handle at most once. -/
def takeDirectives : Nat → Bool → Builder → Builder
  | 0, _, b => b.fail
  | fuel + 1, versioned, b =>
    let (t, b) := b.peek
    match t with
    | some (.version major minor) =>
      if versioned || major ≠ 1 || (minor ≠ 1 && minor ≠ 2) then b.fail
      else takeDirectives fuel true b.advance
    | some (.tagDirective handle uri) =>
      if (b.handles.lookup handle).isSome then b.fail
      else takeDirectives fuel versioned { b.advance with handles := b.handles ++ [(handle, uri)] }
    | _ => { b with handles := b.handles ++ defaultHandles }

/-- The node of an explicit document, which may be left out. -/
def readContent (fuel : Nat) (b : Builder) : Node × Builder :=
  let (t, b) := b.peek
  match t with
  | some (.version _ _) => b.absentAt
  | some (.tagDirective _ _) => b.absentAt
  | some .documentStart => b.absentAt
  | some .documentEnd => b.absentAt
  | some .streamEnd => b.absentAt
  | _ => b.readNode fuel true false

/-- The root of the first document. -/
def readRoot (fuel : Nat) (b : Builder) : Node × Builder :=
  let (t, b) := b.peek
  match t with
  | some .streamEnd => (.void, b)
  | some (.version _ _) | some (.tagDirective _ _) | some .documentStart =>
    let b := b.takeDirectives fuel false
    let (t, b) := b.peek
    match t with
    | some .documentStart => b.advance.readContent fuel
    | _ => (.cut, b.fail)
  | _ => { b with handles := defaultHandles }.readNode fuel true false

/-- Past the marks that end a document. -/
def skipDocumentEnds : Nat → Builder → Builder
  | 0, b => b
  | fuel + 1, b =>
    let (t, b) := b.peek
    match t with
    | some .documentEnd => skipDocumentEnds fuel b.advance
    | _ => b

end Builder

structure Document where
  root : Node
  positions : List (Nat × Nat)
  nodes : List (Nat × Node)
  /-- Nothing but this document is in the text, and it does not break off. -/
  whole : Bool

namespace Document

/-- The first document of a text. -/
def ofText (s : String) : Document :=
  let fuel := 8 * s.length + 16
  let (root, b) := Builder.readRoot fuel { lexer := Lexer.ofText s }
  let b := b.skipDocumentEnds fuel
  let (t, b) := b.peek
  ⟨root, b.positions, b.nodes, !b.failed && t = some .streamEnd⟩

/-- The node an alias stands for. -/
def anchored? (d : Document) (number : Nat) : Option Node :=
  (d.positions.lookup number).bind fun position => d.nodes.lookup position

/-- A node, or what it is an alias of. -/
def resolve (d : Document) (n : Node) : Node :=
  match n with
  | .alias number => (d.anchored? number).getD .cut
  | n => n

end Document

end MetricFeed.Yaml
