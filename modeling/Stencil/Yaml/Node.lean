import Stencil.Yaml.Token

/-!
Nodes of YAML texts.

Owns `Node`, the tree that a text denotes, in which an alias is left as a reference, and `Tree`, the
root with what the references stand for. `TreeBuilder` builds the tree from the tokens: it keeps the
open collections in a stack beside the task that comes next, so a text may be nested to any depth.

A text holds one document at most.
-/

namespace Stencil.Yaml

/-- A node. Of tags only those of scalars are kept. -/
inductive Node where
  | scalar (text : String) (style : Style) (tag : Option (List Char))
  | sequence (items : List Node)
  | mapping (entries : List (Node × Node))
  | alias (reference : Nat)
deriving Repr, Inhabited

/-- The node that stands where nothing is written. -/
def Node.absent : Node := .scalar "" .plain none

/-- An anchor that was set: the number by which aliases refer to it, and how many anchors were set
before it. -/
structure Anchor where
  reference : Nat
  order : Nat
deriving Repr, DecidableEq

/-- An open collection with what it holds so far, latest first. -/
inductive Open where
  | blockSequence (items : List Node)
  /-- A sequence whose entries stand in the column of the mapping around it. -/
  | flatSequence (items : List Node)
  | blockMapping (entries : List (Node × Node)) (key : Option Node)
  | flowSequence (items : List Node)
  /-- A mapping in braces; a key without a sign is bare and has no value. -/
  | flowMapping (entries : List (Node × Node)) (key : Option Node) (bare : Bool)
  /-- A mapping of one entry that is an item of a flow sequence. -/
  | pair (key value : Option Node)
deriving Repr

/-- What is to be done next. -/
inductive Task where
  /-- To read a node, which may be a block collection or a flat sequence where these are allowed. -/
  | node (block flat : Bool)
  /-- To read an entry of the innermost collection, or its end. -/
  | entry (first : Bool)
  | pairKey
  /-- To read the value of the key that was read last. -/
  | value
  /-- To put the pair into the sequence around it. -/
  | closePair
  /-- Nothing: the document is complete. -/
  | nothing (root : Node)
deriving Repr

/-- What has been read. -/
structure TreeBuilder where
  tokens : List Token
  task : Task
  /-- The open collections with their anchors, innermost first. -/
  opened : List (Open × Option Anchor) := []
  handles : List (List Char × List Char)
  names : List (List Char × Nat) := []
  /-- How many anchors were set. -/
  anchors : Nat := 0
  /-- The nodes whose anchors were set. -/
  anchored : List (Anchor × Node) := []
deriving Repr

namespace TreeBuilder

def nextIn (builder : TreeBuilder) (tokens : List Token) : Bool :=
  builder.tokens.head?.any tokens.contains

/-- Passes over a token. -/
def skip (builder : TreeBuilder) : TreeBuilder := { builder with tokens := builder.tokens.drop 1 }

/-- Sets the task that comes next. -/
def goTo (builder : TreeBuilder) (task : Task) : TreeBuilder := { builder with task }

/-- Replaces the innermost collection. -/
def replace (builder : TreeBuilder) (opened : Open) (task : Task) : TreeBuilder :=
  { builder with
    opened := (opened, (builder.opened.head?.map Prod.snd).getD none) :: builder.opened.drop 1
    task }

/-- Puts a finished node where it belongs. -/
def place (builder : TreeBuilder) (node : Node) : TreeBuilder :=
  match builder.opened with
  | [] => builder.goTo (.nothing node)
  | (.blockSequence items, _) :: _ =>
    builder.replace (.blockSequence (node :: items)) (.entry false)
  | (.flatSequence items, _) :: _ =>
    builder.replace (.flatSequence (node :: items)) (.entry false)
  | (.flowSequence items, _) :: _ =>
    builder.replace (.flowSequence (node :: items)) (.entry false)
  | (.blockMapping entries none, _) :: _ =>
    builder.replace (.blockMapping entries (some node)) .value
  | (.blockMapping entries (some key), _) :: _ =>
    builder.replace (.blockMapping ((key, node) :: entries) none) (.entry false)
  | (.flowMapping entries none true, _) :: _ =>
    builder.replace (.flowMapping ((node, Node.absent) :: entries) none false) (.entry false)
  | (.flowMapping entries none false, _) :: _ =>
    builder.replace (.flowMapping entries (some node) false) .value
  | (.flowMapping entries (some key) _, _) :: _ =>
    builder.replace (.flowMapping ((key, node) :: entries) none false) (.entry false)
  | (.pair none _, _) :: _ => builder.replace (.pair (some node) none) .value
  | (.pair (some key) _, _) :: _ => builder.replace (.pair (some key) (some node)) .closePair

/-- Puts a finished node where it belongs and notes what its anchor stands for. -/
def placeAnchored (builder : TreeBuilder) (anchor : Option Anchor) (node : Node) : TreeBuilder :=
  match anchor with
  | some anchor => { builder with anchored := (anchor, node) :: builder.anchored }.place node
  | none => builder.place node

def enter (builder : TreeBuilder) (anchor : Option Anchor) (opened : Open) (task : Task) :
    TreeBuilder :=
  { builder with opened := (opened, anchor) :: builder.opened, task }

/-- Closes the innermost collection, which is the given node. -/
def close (builder : TreeBuilder) (node : Node) : TreeBuilder :=
  { builder with opened := builder.opened.drop 1 }.placeAnchored
    ((builder.opened.head?.map Prod.snd).getD none) node

/-- Reads a node unless one of the given tokens comes, before which none is written. -/
def nodeUnless (builder : TreeBuilder) (tokens : List Token) (block flat : Bool) : TreeBuilder :=
  if builder.nextIn tokens then builder.place Node.absent else builder.goTo (.node block flat)

/-! ### Nodes -/

/-- Sets an anchor. A name that was set before refers to the later node from here on. -/
def setAnchor (builder : TreeBuilder) (name : List Char) : TreeBuilder × Anchor :=
  let anchor : Anchor := ⟨builder.names.length, builder.anchors⟩
  let others := builder.names.filter fun entry => entry.1 != name
  let names :=
    if others.length < builder.names.length then
      builder.names.map fun entry => if entry.1 = name then (name, anchor.reference) else entry
    else (name, anchor.reference) :: builder.names
  ({ builder with names, anchors := builder.anchors + 1 }, anchor)

/-- The tag with the given parts, if its handle is defined. The tag `!` is none. -/
def resolveTag (builder : TreeBuilder) (handle suffix : List Char) : Option (Option (List Char)) :=
  if handle.isEmpty then some (if suffix = ['!'] then none else some suffix)
  else
    match builder.handles.find? fun entry => entry.1 == handle with
    | some entry => some (some (entry.2 ++ suffix))
    | none => none

/-- What stands before a node. -/
structure Properties where
  tag : Option (List Char) := none
  anchor : Option Anchor := none
  /-- Whether anything stands there. -/
  present : Bool := false

/-- Reads a tag, if one comes. -/
def takeTag (builder : TreeBuilder) (properties : Properties) : Option (TreeBuilder × Properties) :=
  match builder.tokens with
  | .tag handle suffix :: tokens => do
    let tag ← builder.resolveTag handle suffix
    pure ({ builder with tokens }, { properties with tag, present := true })
  | _ => some (builder, properties)

/-- Reads an anchor, if one comes. -/
def takeAnchor (builder : TreeBuilder) (properties : Properties) : TreeBuilder × Properties :=
  match builder.tokens with
  | .anchor name :: tokens =>
    let (builder, anchor) := { builder with tokens }.setAnchor name
    (builder, { properties with anchor := some anchor, present := true })
  | _ => (builder, properties)

/-- Reads a tag and an anchor, in either order. -/
def takeProperties (builder : TreeBuilder) : Option (TreeBuilder × Properties) :=
  match builder.tokens with
  | .anchor _ :: _ =>
    let (builder, properties) := builder.takeAnchor {}
    builder.takeTag properties
  | _ => do
    let (builder, properties) ← builder.takeTag {}
    if properties.present then pure (builder.takeAnchor properties)
    else pure (builder, properties)

/-- Reads what a node begins with after its tag and its anchor. -/
def takeContent (builder : TreeBuilder) (properties : Properties) (block flat : Bool) :
    Option TreeBuilder :=
  let anchor := properties.anchor
  let absent : Option TreeBuilder :=
    if properties.present then
      some (builder.placeAnchored anchor (.scalar "" .plain properties.tag))
    else none
  match builder.tokens with
  | .scalar text style :: _ =>
    some (builder.skip.placeAnchored anchor (.scalar text style properties.tag))
  | .flowSequenceStart :: _ =>
    some (builder.skip.enter anchor (.flowSequence []) (.entry true))
  | .flowMappingStart :: _ =>
    some (builder.skip.enter anchor (.flowMapping [] none false) (.entry true))
  | .blockEntry :: _ =>
    if flat then some (builder.enter anchor (.flatSequence []) (.entry true)) else absent
  | .blockSequenceStart :: _ =>
    if block then some (builder.skip.enter anchor (.blockSequence []) (.entry true)) else absent
  | .blockMappingStart :: _ =>
    if block then some (builder.skip.enter anchor (.blockMapping [] none) (.entry true)) else absent
  | _ => absent

/-- Reads a node, or begins it if it is a collection. -/
def takeNode (builder : TreeBuilder) (block flat : Bool) : Option TreeBuilder :=
  match builder.tokens with
  | .alias name :: _ =>
    (builder.names.find? fun entry => entry.1 == name).map fun entry =>
      builder.skip.place (.alias entry.2)
  | _ => do
    let (builder, properties) ← builder.takeProperties
    builder.takeContent properties block flat

/-! ### Entries -/

/-- The tokens before which a block mapping has no key or no value written. -/
def blockStops : List Token := [.key, .value, .blockEnd]

/-- Passes over the comma before an entry of a flow collection; the first has none. -/
def takeComma (builder : TreeBuilder) (first : Bool) : Option TreeBuilder :=
  if first then some builder
  else if builder.nextIn [.flowEntry] then some builder.skip
  else none

/-- Reads an entry of a flow sequence, or its end. -/
def takeFlowItem (builder : TreeBuilder) (items : List Node) (first : Bool) : Option TreeBuilder :=
  let finished (builder : TreeBuilder) : TreeBuilder :=
    builder.skip.close (.sequence items.reverse)
  if builder.nextIn [.flowSequenceEnd] then some (finished builder)
  else do
    let builder ← builder.takeComma first
    if builder.nextIn [.key] then pure (builder.skip.enter none (.pair none none) .pairKey)
    else if builder.nextIn [.flowSequenceEnd] then pure (finished builder)
    else pure (builder.goTo (.node false false))

/-- Reads an entry of a flow mapping, or its end. -/
def takeFlowEntry (builder : TreeBuilder) (entries : List (Node × Node)) (first : Bool) :
    Option TreeBuilder :=
  let finished (builder : TreeBuilder) : TreeBuilder :=
    builder.skip.close (.mapping entries.reverse)
  if builder.nextIn [.flowMappingEnd] then some (finished builder)
  else do
    let builder ← builder.takeComma first
    if builder.nextIn [.key] then
      pure (builder.skip.nodeUnless [.value, .flowEntry, .flowMappingEnd] false false)
    else if builder.nextIn [.flowMappingEnd] then pure (finished builder)
    else pure (builder.replace (.flowMapping entries none true) (.node false false))

/-- Reads an entry of the innermost collection, or its end. -/
def takeEntry (builder : TreeBuilder) (first : Bool) : Option TreeBuilder :=
  match builder.opened with
  | (.blockSequence items, _) :: _ =>
    if builder.nextIn [.blockEntry] then
      some (builder.skip.nodeUnless [.blockEntry, .blockEnd] true false)
    else if builder.nextIn [.blockEnd] then
      some (builder.skip.close (.sequence items.reverse))
    else none
  | (.flatSequence items, _) :: _ =>
    if builder.nextIn [.blockEntry] then
      some (builder.skip.nodeUnless (.blockEntry :: blockStops) true false)
    else some (builder.close (.sequence items.reverse))
  | (.blockMapping entries _, _) :: _ =>
    if builder.nextIn [.key] then some (builder.skip.nodeUnless blockStops true true)
    else if builder.nextIn [.blockEnd] then
      some (builder.skip.close (.mapping entries.reverse))
    else none
  | (.flowSequence items, _) :: _ => builder.takeFlowItem items first
  | (.flowMapping entries _ _, _) :: _ => builder.takeFlowEntry entries first
  | _ => none

/-- Reads the value of a key, which may be absent. -/
def takeValue (builder : TreeBuilder) : Option TreeBuilder :=
  if builder.nextIn [.value] then
    match builder.opened with
    | (.blockMapping _ _, _) :: _ => some (builder.skip.nodeUnless blockStops true true)
    | (.flowMapping _ _ _, _) :: _ =>
      some (builder.skip.nodeUnless [.flowEntry, .flowMappingEnd] false false)
    | (.pair _ _, _) :: _ =>
      some (builder.skip.nodeUnless [.flowEntry, .flowSequenceEnd] false false)
    | _ => none
  else some (builder.place Node.absent)

/-- Reads the key of a pair. Where it is absent, the token that comes instead is passed over. -/
def takePairKey (builder : TreeBuilder) : TreeBuilder :=
  if builder.nextIn [.value, .flowEntry, .flowSequenceEnd] then builder.skip.place Node.absent
  else builder.goTo (.node false false)

/-- Puts a finished pair into the sequence around it. -/
def closePair (builder : TreeBuilder) : Option TreeBuilder :=
  match builder.opened with
  | (.pair (some key) (some value), _) :: _ => some (builder.close (.mapping [(key, value)]))
  | _ => none

/-- Does what is to be done next. -/
def step (builder : TreeBuilder) : Option TreeBuilder :=
  match builder.task with
  | .node block flat => builder.takeNode block flat
  | .entry first => builder.takeEntry first
  | .pairKey => some builder.takePairKey
  | .value => builder.takeValue
  | .closePair => builder.closePair
  | .nothing _ => some builder

/-- Goes on until the document is complete: its root, and the builder at its end. A token leads to
a few rounds at most, which bounds them. -/
def run : (rounds : Nat) → TreeBuilder → Option (Node × TreeBuilder)
  | 0, _ => none
  | rounds + 1, builder =>
    match builder.task with
    | .nothing root => some (root, builder)
    | _ => do run rounds (← builder.step)

end TreeBuilder

/-! ### Documents -/

/-- The directives before a document: whether a version was given, and the handles of tags. -/
structure Directives where
  versioned : Bool := false
  handles : List (List Char × List Char) := []
deriving Repr

/-- Reads the directives before a document. Neither the version nor a handle may come twice, and the
version must be 1.1 or 1.2. -/
def Directives.read (directives : Directives) : List Token → Option (Directives × List Token)
  | .version major minor :: tokens =>
    if directives.versioned || major != 1 || !(minor == 1 || minor == 2) then none
    else read { directives with versioned := true } tokens
  | .tagHandle handle tagStart :: tokens =>
    if directives.handles.any fun entry => entry.1 == handle then none
    else read { directives with handles := directives.handles ++ [(handle, tagStart)] } tokens
  | tokens => some (directives, tokens)

def coreTagStart : List Char := "tag:yaml.org,2002:".toList

/-- The handles that are defined where no directive defines them. -/
def defaultHandles : List (List Char × List Char) := [(['!'], ['!']), (['!', '!'], coreTagStart)]

def isBetweenDocuments : Token → Bool
  | .version _ _ => true
  | .tagHandle _ _ => true
  | .documentStart => true
  | .documentEnd => true
  | _ => false

/-- Whether a token begins a document that is not bare. -/
def beginsDocument (token : Token) : Bool := isBetweenDocuments token && token != .documentEnd

/-- A document: its root, if anything is written, and the nodes that references stand for. -/
structure Tree where
  root : Option Node
  anchored : List (Anchor × Node)
deriving Repr

/-- The node that a reference stands for. Of several under one number the one whose anchor was set
last counts. -/
def Tree.refer? (tree : Tree) (reference : Nat) : Option Node :=
  let candidates := tree.anchored.filter fun entry => entry.1.reference == reference
  (candidates.find? fun entry =>
    candidates.all fun other => other.1.order ≤ entry.1.order).map Prod.snd

/-- The document of the tokens after its directives. Nothing but signs of its end may follow it. -/
def treeFrom? (handles : List (List Char × List Char)) (task : Option Task) (tokens : List Token) :
    Option Tree := do
  let start : TreeBuilder :=
    { tokens, task := task.getD (.nothing Node.absent), handles := handles ++ defaultHandles }
  let (root, builder) ← TreeBuilder.run (8 * (tokens.length + 1)) start
  if (builder.tokens.dropWhile fun token => token == .documentEnd).isEmpty
  then pure ⟨some root, builder.anchored⟩
  else none

def tree? (text : String) : Option Tree := do
  let tokens ← tokens? text.toList
  match tokens with
  | [] => pure ⟨none, []⟩
  | token :: _ =>
    if beginsDocument token then
      let (directives, rest) ← Directives.read {} tokens
      match rest with
      | .documentStart :: content =>
        let task := if content.head?.all isBetweenDocuments then none else some (.node true false)
        treeFrom? directives.handles task content
      | _ => none
    else treeFrom? [] (some (.node true false)) tokens

end Stencil.Yaml
