import PegParser.Yaml.Token

namespace PegParser.Yaml

structure Properties where
  anchor : Option String := none
  tag : Option String := none
deriving DecidableEq, Inhabited, Repr

inductive Event
  | alias (name : String)
  | scalar (props : Properties) (text : String) (plain : Bool)
  | sequenceStart (props : Properties)
  | sequenceEnd
  | mappingStart (props : Properties)
  | mappingEnd
deriving DecidableEq, Inhabited, Repr

structure Progress where
  tokens : List Token
  events : Array Event := #[]
  -- What the handles of tags stand for.
  handles : List (String × String) := []

abbrev Compose := StateT Progress Option

namespace Compose

def peek : Compose (Option Token) := do
  return (← get).tokens.head?

def skip : Compose Unit :=
  modify fun p => { p with tokens := p.tokens.tail }

def take? (t : Token) : Compose Bool := do
  if (← peek) == some t then
    skip
    return true
  else
    return false

def nextIn (ts : List Token) : Compose Bool := do
  return (← peek).any ts.contains

def emit (e : Event) : Compose Unit :=
  modify fun p => { p with events := p.events.push e }

def emptyScalar : Compose Unit :=
  emit (.scalar {} "" true)

def resolveTag (handle suffix : String) : Compose String := do
  if handle.isEmpty then
    return suffix
  else
    return (← (← get).handles.lookup handle) ++ suffix

def anchor? : Compose (Option String) := do
  match ← peek with
  | some (.anchor name) =>
    skip
    return some name
  | _ => return none

def tag? : Compose (Option String) := do
  match ← peek with
  | some (.tag handle suffix) =>
    skip
    return some (← resolveTag handle suffix)
  | _ => return none

def properties : Compose Properties := do
  match ← anchor? with
  | some anchor => return { anchor := some anchor, tag := ← tag? }
  | none =>
    let tag ← tag?
    if tag.isNone then return {}
    return { anchor := ← anchor?, tag }

mutual

-- A node; `block` is whether it may be a block, and `indentless` whether its items may stand in the
-- column of the key before it.
def node : (steps : Nat) → (block indentless : Bool) → Compose Unit
  | 0, _, _ => failure
  | steps + 1, block, indentless => do
    if let some (.alias name) ← peek then
      skip
      emit (.alias name)
      return
    let props ← properties
    match ← peek, block with
    | some (.scalar text plain), _ =>
      skip
      emit (.scalar (if props.tag == some "!" then { props with tag := none } else props) text plain)
    | some .flowSequenceStart, _ =>
      skip
      emit (.sequenceStart props)
      flowSequence steps true
    | some .flowMappingStart, _ =>
      skip
      emit (.mappingStart props)
      flowMapping steps true
    | some .blockSequenceStart, true =>
      skip
      emit (.sequenceStart props)
      blockSequence steps
    | some .blockMappingStart, true =>
      skip
      emit (.mappingStart props)
      blockMapping steps
    | some .blockEntry, _ =>
      if indentless then
        emit (.sequenceStart props)
        indentlessSequence steps
      else
        emptyNode props
    | _, _ => emptyNode props

def emptyNode (props : Properties) : Compose Unit := do
  if props.anchor.isNone && props.tag.isNone then failure
  emit (.scalar props "" true)

def nodeUnless (steps : Nat) (block indentless : Bool) (ends : List Token) : Compose Unit := do
  if ← nextIn ends then emptyScalar else node steps block indentless

def blockSequence : (steps : Nat) → Compose Unit
  | 0 => failure
  | steps + 1 => do
    if ← take? .blockEntry then
      nodeUnless steps true false [.blockEntry, .blockEnd]
      blockSequence steps
    else if ← take? .blockEnd then
      emit .sequenceEnd
    else
      failure

def indentlessSequence : (steps : Nat) → Compose Unit
  | 0 => failure
  | steps + 1 => do
    if ← take? .blockEntry then
      nodeUnless steps true false [.blockEntry, .key, .value, .blockEnd]
      indentlessSequence steps
    else
      emit .sequenceEnd

def blockMapping : (steps : Nat) → Compose Unit
  | 0 => failure
  | steps + 1 => do
    let ends := [Token.key, .value, .blockEnd]
    if ← take? .key then
      nodeUnless steps true true ends
      if ← take? .value then nodeUnless steps true true ends else emptyScalar
      blockMapping steps
    else if ← take? .blockEnd then
      emit .mappingEnd
    else
      failure

def flowSequence : (steps : Nat) → (first : Bool) → Compose Unit
  | 0, _ => failure
  | steps + 1, first => do
    if ← take? .flowSequenceEnd then
      emit .sequenceEnd
    else
      if !first && !(← take? .flowEntry) then failure
      if ← take? .key then
        emit (.mappingStart {})
        pair steps
        emit .mappingEnd
        flowSequence steps false
      else if ← take? .flowSequenceEnd then
        emit .sequenceEnd
      else
        node steps false false
        flowSequence steps false

def pair (steps : Nat) : Compose Unit := do
  let ends := [Token.flowEntry, .flowSequenceEnd]
  if ← nextIn (.value :: ends) then
    skip
    emptyScalar
  else
    node steps false false
  if ← take? .value then nodeUnless steps false false ends else emptyScalar

def flowMapping : (steps : Nat) → (first : Bool) → Compose Unit
  | 0, _ => failure
  | steps + 1, first => do
    let ends := [Token.flowEntry, .flowMappingEnd]
    if ← take? .flowMappingEnd then
      emit .mappingEnd
    else
      if !first && !(← take? .flowEntry) then failure
      if ← take? .key then
        nodeUnless steps false false (.value :: ends)
        if ← take? .value then nodeUnless steps false false ends else emptyScalar
        flowMapping steps false
      else if ← take? .flowMappingEnd then
        emit .mappingEnd
      else
        node steps false false
        emptyScalar
        flowMapping steps false

end

def addHandle (handle replacement : String) : Compose Unit := do
  if ((← get).handles.lookup handle).isSome then failure
  modify fun p => { p with handles := (handle, replacement) :: p.handles }

def directives : (steps : Nat) → (versioned : Bool) → Compose Unit
  | 0, _ => failure
  | steps + 1, versioned => do
    match ← peek with
    | some (.versionDirective major minor) =>
      if versioned || major != 1 || (minor != 1 && minor != 2) then failure
      skip
      directives steps true
    | some (.tagDirective handle replacement) =>
      skip
      addHandle handle replacement
      directives steps versioned
    | _ => return

def addDefaultHandles : Compose Unit :=
  modify fun p => { p with
    handles := p.handles ++ [("!", "!"), ("!!", "tag:yaml.org,2002:")] }

def document (steps : Nat) : Compose Unit := do
  if (← peek).isNone then
    emptyScalar
  else
    let explicit ←
      match ← peek with
      | some (.versionDirective _ _) | some (.tagDirective _ _) | some .documentStart => pure true
      | _ => pure false
    directives steps false
    addDefaultHandles
    if explicit then
      if !(← take? .documentStart) then failure
      match ← peek with
      | none | some (.versionDirective _ _) | some (.tagDirective _ _) | some .documentStart
      | some .documentEnd => emptyScalar
      | _ => node steps true false
    else
      node steps true false
    let rest := (← get).tokens.dropWhile (· == .documentEnd)
    if !rest.isEmpty then failure

end Compose

def events? (text : String) : Option (Array Event) := do
  let tokens ← tokens? text
  let (_, p) ← (Compose.document (3 * tokens.length + 3)).run { tokens }
  return p.events

end PegParser.Yaml
