import ServiceSpec.Yaml.Token.Stream

/-!
# The events of a YAML text

Tokens are grouped into values: scalars, and the starts and ends of lists and maps.  A list or map
that is not at its end is kept on a stack, with what is expected in it next.

## Main definitions

* `Yaml.Event` : a part of a value, or the end of a document or text.
* `Yaml.Expect` : what may come next.
* `Yaml.Grouping.next` : the next event.
-/

namespace ServiceSpec.Yaml

/-- A part of a value, or the start or end of a document or text. -/
inductive Event where
  | documentStart
  | documentEnd
  | streamEnd
  | aliasOf (name : String)
  | scalar (anchor : Option String) (tag : Option Tag) (text : String) (style : ScalarStyle)
  | listStart (anchor : Option String) (tag : Option Tag)
  | listEnd
  | mapStart (anchor : Option String) (tag : Option Tag)
  | mapEnd
  deriving DecidableEq, Repr

/-- What may come next. -/
inductive Expect where
  | firstDocument
  | document
  | documentContent
  | documentEnd
  | node
  | blockListFirst
  | blockListEntry
  | looseListEntry
  | blockMapFirst
  | blockMapKey
  | blockMapValue
  | flowListFirst
  | flowListEntry
  | flowPairKey
  | flowPairValue
  | flowPairEnd
  | flowMapFirst
  | flowMapKey
  | flowMapValue
  | flowMapNoValue
  | nothing
  deriving DecidableEq, Repr

/-- The state of grouping tokens. -/
structure Grouping where
  tokens : List Token
  /-- The fault behind the last token. -/
  fault : Option Fault
  expect : Expect := .firstDocument
  /-- What is expected behind the value that is being read, innermost first. -/
  outer : List Expect := []
  /-- The starts of the open lists and maps, innermost first. -/
  starts : List Mark := []
  /-- The tag handles that directives define. -/
  handles : List (String × Tag) := []

/-- A step of grouping. -/
abbrev Group : Type → Type :=
  StateT Grouping (Except Fault)

namespace Group

/-- The next token. -/
def peek : Group Token := do
  let g ← get
  match g.tokens with
  | t :: _ => return t
  | [] => throw (g.fault.getD { defect := .noContent, mark := {} })

/-- Passes the next token. -/
def skip : Group Unit :=
  modify fun g => { g with tokens := g.tokens.drop 1 }

/-- Passes the next token and gives the one behind it. -/
def skipAndPeek : Group Token := do
  skip
  peek

/-- Sets what is expected next. -/
def expect (e : Expect) : Group Unit :=
  modify fun g => { g with expect := e }

/-- Puts off what is expected until a value is read. -/
def expectAfter (e : Expect) : Group Unit :=
  modify fun g => { g with outer := e :: g.outer }

/-- Goes back to what was put off last. -/
def resume : Group Unit :=
  modify fun g => { g with expect := g.outer.head?.getD .nothing, outer := g.outer.drop 1 }

/-- Notes where a list or map starts. -/
def noteStart (m : Mark) : Group Unit :=
  modify fun g => { g with starts := m :: g.starts }

/-- Forgets where the innermost list or map starts. -/
def dropStart : Group Unit :=
  modify fun g => { g with starts := g.starts.drop 1 }

/-- A fault inside the innermost list or map. -/
def faultInside {α : Type} (activity : Activity) (defect : Defect) (mark : Mark) : Group α := do
  throw { defect, mark, activity := some (activity, (← get).starts.head?.getD {}) }

/-- A value that is not written: an empty scalar. -/
def emptyScalar (m : Mark) : Group (Event × Mark) :=
  return (.scalar none none "" .plain, m)

/-! ## Nodes -/

/-- The anchor and the tag of a value, as they are written. -/
structure Properties where
  anchor : Option String := none
  tag : Option (String × Tag × Mark) := none
  /-- The start of the first and the end of the last of them. -/
  place : Option (Mark × Mark) := none

/-- An anchor before a value. -/
def anchorBefore (p : Properties) : Group Properties := do
  let t ← peek
  match t.kind with
  | .anchor name =>
    skip
    return { p with
      anchor := some name
      place := some ((p.place.map (·.1)).getD t.start, t.stop) }
  | _ => return p

/-- A tag before a value. -/
def tagBefore (p : Properties) : Group Properties := do
  let t ← peek
  match t.kind with
  | .tag handle suffix =>
    skip
    return { p with
      tag := some (handle, suffix, t.start)
      place := some ((p.place.map (·.1)).getD t.start, t.stop) }
  | _ => return p

/-- The anchor and the tag before a value, in either order. -/
def properties : Group Properties := do
  match (← peek).kind with
  | .anchor _ => tagBefore (← anchorBefore {})
  | .tag .. => anchorBefore (← tagBefore {})
  | _ => return {}

/-- The handles that need no directive. -/
def standardHandles : List (String × Tag) :=
  [("!", .ofString "!"), ("!!", .core "")]

/-- The tag that a handle and a suffix stand for. -/
def resolveTag (start : Mark) (tag : Option (String × Tag × Mark)) : Group (Option Tag) := do
  match tag with
  | none => return none
  | some (handle, suffix, mark) =>
    if handle = "" then return some suffix
    else
      match ((← get).handles ++ standardHandles).lookup handle with
      | some front => return some (front.append suffix)
      | none =>
        throw { defect := .unknownTagHandle, mark, activity := some (.node, start) }

/-- A value.  In a map a list may have the indentation of its key. -/
def node (inBlock inMap : Bool) : Group (Event × Mark) := do
  let first ← peek
  match first.kind with
  | .aliasOf name =>
    skip
    resume
    return (.aliasOf name, first.start)
  | _ =>
    let p ← properties
    let t ← peek
    let start := (p.place.map (·.1)).getD t.start
    let tag ← resolveTag start p.tag
    match t.kind, inBlock, inMap with
    | .blockEntry, _, true =>
      expect .looseListEntry
      return (.listStart p.anchor tag, start)
    | .scalar text style, _, _ =>
      skip
      resume
      return (.scalar p.anchor tag text style, start)
    | .flowListStart, _, _ =>
      expect .flowListFirst
      return (.listStart p.anchor tag, start)
    | .flowMapStart, _, _ =>
      expect .flowMapFirst
      return (.mapStart p.anchor tag, start)
    | .blockListStart, true, _ =>
      expect .blockListFirst
      return (.listStart p.anchor tag, start)
    | .blockMapStart, true, _ =>
      expect .blockMapFirst
      return (.mapStart p.anchor tag, start)
    | _, _, _ =>
      if p.place.isSome then
        resume
        return (.scalar p.anchor tag "" .plain, start)
      else
        throw
          { defect := .noContent
            mark := t.start
            activity := some (if inBlock then .blockNode else .flowNode, start) }

/-- A value, after which something is expected. -/
def nodeThen (e : Expect) (inBlock inMap : Bool) : Group (Event × Mark) := do
  expectAfter e
  node inBlock inMap

/-- A value that is not written, after which something is expected. -/
def emptyThen (e : Expect) (m : Mark) : Group (Event × Mark) := do
  expect e
  emptyScalar m

/-! ## Documents -/

/-- The directives before a document. -/
def directives : Nat → Bool → Group Unit
  | 0, _ => return
  | fuel + 1, hasVersion => do
    let t ← peek
    match t.kind with
    | .version major minor =>
      if hasVersion then throw { defect := .secondVersion, mark := t.start }
      else if major ≠ 1 ∨ (minor ≠ 1 ∧ minor ≠ 2) then
        throw { defect := .badVersion, mark := t.start }
      else
        skip
        directives fuel true
    | .tagHandle handle front =>
      if ((← get).handles.lookup handle).isSome then
        throw { defect := .secondTagHandle, mark := t.start }
      else
        modify fun g => { g with handles := g.handles ++ [(handle, front)] }
        skip
        directives fuel hasVersion
    | _ => return

/-- Passes marks at the end of documents. -/
def skipDocumentEnds : Nat → Group Unit
  | 0 => return
  | fuel + 1 => do
    match (← peek).kind with
    | .documentEnd =>
      skip
      skipDocumentEnds fuel
    | _ => return

/-- The start of a document that may have directives and a mark. -/
def markedDocument : Group (Event × Mark) := do
  let t ← peek
  match t.kind with
  | .streamEnd =>
    skip
    expect .nothing
    return (.streamEnd, t.start)
  | _ =>
    directives ((← get).tokens.length + 1) false
    let t' ← peek
    match t'.kind with
    | .documentStart =>
      skip
      expectAfter .documentEnd
      expect .documentContent
      return (.documentStart, t.start)
    | _ => throw { defect := .noDocumentStart, mark := t'.start }

/-- The start of the first document, which needs no mark. -/
def firstDocument : Group (Event × Mark) := do
  let t ← peek
  match t.kind with
  | .version .. | .tagHandle .. | .documentStart | .streamEnd => markedDocument
  | _ =>
    expectAfter .documentEnd
    expect .node
    return (.documentStart, t.start)

/-- The start of a further document. -/
def nextDocument : Group (Event × Mark) := do
  skipDocumentEnds ((← get).tokens.length + 1)
  markedDocument

/-- The value of a document behind its mark. -/
def documentContent : Group (Event × Mark) := do
  let t ← peek
  match t.kind with
  | .version .. | .tagHandle .. | .documentStart | .documentEnd | .streamEnd =>
    resume
    emptyScalar t.start
  | _ => node true false

/-- The end of a document. -/
def documentEnd : Group (Event × Mark) := do
  let t ← peek
  if t.kind = .documentEnd then skip
  modify fun g => { g with handles := [] }
  expect .document
  return (.documentEnd, t.start)

/-! ## Blocks -/

/-- An item of a list in a block, or its end. -/
def blockListEntry : Group (Event × Mark) := do
  let t ← peek
  match t.kind with
  | .blockEntry =>
    match (← skipAndPeek).kind with
    | .blockEntry | .blockEnd => emptyThen .blockListEntry t.stop
    | _ => nodeThen .blockListEntry true false
  | .blockEnd =>
    skip
    resume
    dropStart
    return (.listEnd, t.start)
  | _ => faultInside .blockList .noDash t.start

/-- An item of a list at the indentation of its key, or its end. -/
def looseListEntry : Group (Event × Mark) := do
  let t ← peek
  match t.kind with
  | .blockEntry =>
    match (← skipAndPeek).kind with
    | .blockEntry | .key | .value | .blockEnd => emptyThen .looseListEntry t.stop
    | _ => nodeThen .looseListEntry true false
  | _ =>
    resume
    return (.listEnd, t.start)

/-- A key of a map in a block, or its end. -/
def blockMapKey : Group (Event × Mark) := do
  let t ← peek
  match t.kind with
  | .key =>
    match (← skipAndPeek).kind with
    | .key | .value | .blockEnd => emptyThen .blockMapValue t.stop
    | _ => nodeThen .blockMapValue true true
  | .blockEnd =>
    skip
    resume
    dropStart
    return (.mapEnd, t.start)
  | _ => faultInside .blockMap .noKey t.start

/-- A value of a map in a block. -/
def blockMapValue : Group (Event × Mark) := do
  let t ← peek
  match t.kind with
  | .value =>
    match (← skipAndPeek).kind with
    | .key | .value | .blockEnd => emptyThen .blockMapKey t.stop
    | _ => nodeThen .blockMapKey true true
  | _ => emptyThen .blockMapKey t.start

/-! ## Flow style -/

/-- The end of a list in flow style at the next token. -/
def flowListEnd : Group (Event × Mark) := do
  let t ← peek
  skip
  resume
  dropStart
  return (.listEnd, t.start)

/-- An item of a list in flow style, or its end.  A key makes the item a map of one pair. -/
def flowListItem : Group (Event × Mark) := do
  let t ← peek
  match t.kind with
  | .key =>
    skip
    expect .flowPairKey
    return (.mapStart none none, t.start)
  | .flowListEnd => flowListEnd
  | _ => nodeThen .flowListEntry false false

/-- A further item of a list in flow style, or its end. -/
def flowListEntry : Group (Event × Mark) := do
  let t ← peek
  match t.kind with
  | .flowListEnd => flowListEnd
  | .flowEntry =>
    skip
    flowListItem
  | _ => faultInside .flowList .noFlowListEnd t.start

/-- The key of a single pair.  Where it is not written, the next token is passed too. -/
def flowPairKey : Group (Event × Mark) := do
  let t ← peek
  match t.kind with
  | .value | .flowEntry | .flowListEnd =>
    skip
    emptyThen .flowPairValue t.stop
  | _ => nodeThen .flowPairValue false false

/-- The value of a single pair. -/
def flowPairValue : Group (Event × Mark) := do
  let t ← peek
  match t.kind with
  | .value =>
    let t' ← skipAndPeek
    match t'.kind with
    | .flowEntry | .flowListEnd => emptyThen .flowPairEnd t'.start
    | _ => nodeThen .flowPairEnd false false
  | _ => emptyThen .flowPairEnd t.start

/-- The end of a single pair. -/
def flowPairEnd : Group (Event × Mark) := do
  expect .flowListEntry
  return (.mapEnd, (← peek).start)

/-- The end of a map in flow style at the next token. -/
def flowMapEnd : Group (Event × Mark) := do
  let t ← peek
  skip
  resume
  dropStart
  return (.mapEnd, t.start)

/-- A key of a map in flow style, or its end. -/
def flowMapItem : Group (Event × Mark) := do
  let t ← peek
  match t.kind with
  | .key =>
    let t' ← skipAndPeek
    match t'.kind with
    | .value | .flowEntry | .flowMapEnd => emptyThen .flowMapValue t'.start
    | _ => nodeThen .flowMapValue false false
  | .flowMapEnd => flowMapEnd
  | _ => nodeThen .flowMapNoValue false false

/-- A further key of a map in flow style, or its end. -/
def flowMapKey : Group (Event × Mark) := do
  let t ← peek
  match t.kind with
  | .flowMapEnd => flowMapEnd
  | .flowEntry =>
    skip
    flowMapItem
  | _ => faultInside .flowMap .noFlowMapEnd t.start

/-- A value of a map in flow style. -/
def flowMapValue : Group (Event × Mark) := do
  let t ← peek
  match t.kind with
  | .value =>
    let t' ← skipAndPeek
    match t'.kind with
    | .flowEntry | .flowMapEnd => emptyThen .flowMapKey t'.start
    | _ => nodeThen .flowMapKey false false
  | _ => emptyThen .flowMapKey t.start

/-- Enters a list or map whose start is at the next token. -/
def enter (inside : Group (Event × Mark)) : Group (Event × Mark) := do
  noteStart (← peek).start
  skip
  inside

/-- The next event. -/
def next : Group (Event × Mark) := do
  match (← get).expect with
  | .firstDocument => firstDocument
  | .document => nextDocument
  | .documentContent => documentContent
  | .documentEnd => documentEnd
  | .node => node true false
  | .blockListFirst => enter blockListEntry
  | .blockListEntry => blockListEntry
  | .looseListEntry => looseListEntry
  | .blockMapFirst => enter blockMapKey
  | .blockMapKey => blockMapKey
  | .blockMapValue => blockMapValue
  | .flowListFirst => enter flowListItem
  | .flowListEntry => flowListEntry
  | .flowPairKey => flowPairKey
  | .flowPairValue => flowPairValue
  | .flowPairEnd => flowPairEnd
  | .flowMapFirst => enter flowMapItem
  | .flowMapKey => flowMapKey
  | .flowMapValue => flowMapValue
  | .flowMapNoValue => emptyThen .flowMapKey (← peek).start
  | .nothing => return (.streamEnd, {})

end Group

end ServiceSpec.Yaml
