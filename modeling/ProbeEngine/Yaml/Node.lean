import ProbeEngine.OrderedTable
import ProbeEngine.Yaml.Token

/-!
# Nodes

A YAML document as a tree of nodes. An anchor gives a node a number: how many names
had been given to nodes before. A name that is given once more thus shares its
number with the next new name, and of the nodes with one number the last one has it.
An alias refers to the node with the number that its name has there. The node may
contain the alias, so a document keeps its anchored nodes apart. A node that is left
out counts as an empty plain scalar.
-/

namespace ProbeEngine.Yaml

/-- A node. The tag of a scalar is the text of its tag, if it has one. An alias refers
to an anchored node by its number. -/
inductive Node
  | scalar (style : ScalarStyle) (tag : Option String) (text : String)
  | sequence (items : List Node)
  | mapping (entries : List (Node × Node))
  | alias (anchor : Nat)
  deriving Inhabited

/-- The node that stands where none is written. -/
def Node.empty (tag : Option String) : Node := .scalar .plain tag ""

/-- A node with an anchor: its number, and how many anchored nodes start before it. -/
structure AnchoredNode where
  number : Nat
  place : Nat
  node : Node
  deriving Inhabited

/-- A document: its root, and the anchored nodes. -/
structure Document where
  root : Node
  anchored : List AnchoredNode

/-! ## Reading nodes -/

/-- What is left to read, the expansions of tag handles, and the anchors so far: the
number that a name has now, how many nodes had one, and those of them that are
complete. -/
structure NodeReader where
  tokens : List Token
  handles : List (String × Option String) := []
  names : OrderedTable String Nat := OrderedTable.empty
  count : Nat := 0
  anchored : List AnchoredNode := []

/-- A computation that reads nodes. -/
abbrev Reading := StateT NodeReader Option

namespace Reading

/-- The next token, if there is one. -/
def peek : Reading (Option Token) := do return (← get).tokens.head?

/-- Takes the next token. -/
def skip : Reading Unit := modify fun r => { r with tokens := r.tokens.drop 1 }

/-- Fails: the text is no document. -/
def refuse {α : Type} : Reading α := fun _ => none

/-- What a tag handle stands for, if it is one; this may have no text. -/
def expand? (handles : List (String × Option String)) (handle : String) :
    Option (Option String) :=
  match handles.find? fun h => h.1 == handle with
  | some h => some h.2
  | none =>
    if handle = "" then some (some "")
    else if handle = "!" then some (some "!")
    else if handle = "!!" then some (some "tag:yaml.org,2002:")
    else none

/-- The text of a tag from those of its two parts. -/
def joinTag (expansion suffix : Option String) : Option String := do
  return (← expansion) ++ (← suffix)

/-- Takes a tag, if the next token is one; a tag may have no text. -/
def takeTag : Reading (Option (Option String)) := do
  match ← peek with
  | some (.tag handle suffix) =>
    skip
    match expand? (← get).handles handle with
    | some expansion => return some (joinTag expansion suffix)
    | none => refuse
  | _ => return none

/-- Takes an anchor, if the next token is one. -/
def takeAnchor : Reading (Option String) := do
  match ← peek with
  | some (.anchor name) =>
    skip
    return some name
  | _ => return none

/-- Takes an anchor and a tag, each if there is one, in either order. -/
def takeProperties : Reading (Option String × Option (Option String)) := do
  match ← takeAnchor with
  | some name => return (some name, ← takeTag)
  | none =>
    let tag ← takeTag
    return (← takeAnchor, tag)

/-- Gives an anchor that is met a number: how many names there are. Answers what is
known of the node. -/
def openAnchor : Option String → Reading (Option AnchoredNode)
  | none => return none
  | some name => do
    let r ← get
    let number := r.names.keys.length
    set { r with names := r.names.put name number, count := r.count + 1 }
    return some ⟨number, r.count, .empty none⟩

/-- Keeps a node if it is anchored. -/
def keep (anchor : Option AnchoredNode) (n : Node) : Reading Node := do
  match anchor with
  | some a => modify fun r => { r with anchored := { a with node := n } :: r.anchored }
  | none => pure ()
  return n

/-- Whether a token ends or separates the entries of a block mapping. -/
def endsEntry : Option Token → Bool
  | some .key => true
  | some .value => true
  | some .blockEnd => true
  | _ => false

/-- Whether a token ends an item of a block sequence that has dashes of its own. -/
def endsItem : Option Token → Bool
  | some .item => true
  | some .blockEnd => true
  | _ => false

mutual

/-- Reads a node. Block collections are read in block context alone, and a
sequence without indentation where one may stand as a value. -/
def node : Nat → Bool → Bool → Reading Node
  | 0, _, _ => refuse
  | fuel + 1, inBlock, mayBeItems => do
    match ← peek with
    | some (.alias name) =>
      skip
      match (← get).names.get? name with
      | some k => return .alias k
      | none => refuse
    | _ =>
      let (anchorName, tag) ← takeProperties
      let t ← peek
      if t == some .item && mayBeItems then
        let anchor ← openAnchor anchorName
        keep anchor (.sequence (← looseItems fuel))
      else
        match t with
        | some (.scalar style text) =>
          skip
          let anchor ← openAnchor anchorName
          keep anchor (.scalar style tag.join text)
        | some .flowSequenceStart =>
          skip
          let anchor ← openAnchor anchorName
          keep anchor (.sequence (← flowItems fuel true))
        | some .flowMappingStart =>
          skip
          let anchor ← openAnchor anchorName
          keep anchor (.mapping (← flowEntries fuel true))
        | _ =>
          if t == some .sequenceStart && inBlock then
            skip
            let anchor ← openAnchor anchorName
            keep anchor (.sequence (← blockItems fuel))
          else if t == some .mappingStart && inBlock then
            skip
            let anchor ← openAnchor anchorName
            keep anchor (.mapping (← blockEntries fuel))
          else if anchorName.isSome || tag.isSome then
            let anchor ← openAnchor anchorName
            keep anchor (.empty tag.join)
          else refuse

/-- Reads the items of an indented sequence to its end. -/
def blockItems : Nat → Reading (List Node)
  | 0 => refuse
  | fuel + 1 => do
    match ← peek with
    | some .item =>
      skip
      let n ← if endsItem (← peek) then pure (.empty none) else node fuel true false
      return n :: (← blockItems fuel)
    | some .blockEnd =>
      skip
      return []
    | _ => refuse

/-- Reads the items of a sequence that is not indented, as long as there are any. -/
def looseItems : Nat → Reading (List Node)
  | 0 => refuse
  | fuel + 1 => do
    match ← peek with
    | some .item =>
      skip
      let t ← peek
      let n ←
        if t == some .item || endsEntry t then pure (.empty none) else node fuel true false
      return n :: (← looseItems fuel)
    | _ => return []

/-- Reads the entries of a block mapping to its end. -/
def blockEntries : Nat → Reading (List (Node × Node))
  | 0 => refuse
  | fuel + 1 => do
    match ← peek with
    | some .key =>
      skip
      let k ← if endsEntry (← peek) then pure (.empty none) else node fuel true true
      let v ← blockValue fuel
      return (k, v) :: (← blockEntries fuel)
    | some .blockEnd =>
      skip
      return []
    | _ => refuse

/-- Reads the value of an entry of a block mapping, if there is one. -/
def blockValue : Nat → Reading Node
  | 0 => refuse
  | fuel + 1 => do
    match ← peek with
    | some .value =>
      skip
      if endsEntry (← peek) then return .empty none else node fuel true true
    | _ => return .empty none

/-- Reads the items of a flow sequence to its bracket. An item may be a mapping of
one entry. -/
def flowItems : Nat → Bool → Reading (List Node)
  | 0, _ => refuse
  | fuel + 1, isFirst => do
    let t ← peek
    if t == some .flowSequenceEnd then
      skip
      return []
    else
      if !isFirst then
        if t == some .comma then skip else refuse
      match ← peek with
      | some .flowSequenceEnd =>
        skip
        return []
      | some .key =>
        skip
        let entry ← flowPair fuel
        return .mapping [entry] :: (← flowItems fuel false)
      | _ =>
        let n ← node fuel false false
        return n :: (← flowItems fuel false)

/-- Reads the entry of a mapping that is an item of a flow sequence. -/
def flowPair : Nat → Reading (Node × Node)
  | 0 => refuse
  | fuel + 1 => do
    let t ← peek
    let k ←
      if t == some .value || t == some .comma || t == some .flowSequenceEnd then do
        skip
        pure (.empty none)
      else node fuel false false
    match ← peek with
    | some .value =>
      skip
      let u ← peek
      if u == some .comma || u == some .flowSequenceEnd then return (k, .empty none)
      else return (k, ← node fuel false false)
    | _ => return (k, .empty none)

/-- Reads the entries of a flow mapping to its brace. -/
def flowEntries : Nat → Bool → Reading (List (Node × Node))
  | 0, _ => refuse
  | fuel + 1, isFirst => do
    let t ← peek
    if t == some .flowMappingEnd then
      skip
      return []
    else
      if !isFirst then
        if t == some .comma then skip else refuse
      match ← peek with
      | some .flowMappingEnd =>
        skip
        return []
      | some .key =>
        skip
        let u ← peek
        let k ←
          if u == some .value || u == some .comma || u == some .flowMappingEnd then
            pure (.empty none)
          else node fuel false false
        let v ← flowValue fuel
        return (k, v) :: (← flowEntries fuel false)
      | _ =>
        let k ← node fuel false false
        return (k, .empty none) :: (← flowEntries fuel false)

/-- Reads the value of an entry of a flow mapping, if there is one. -/
def flowValue : Nat → Reading Node
  | 0 => refuse
  | fuel + 1 => do
    match ← peek with
    | some .value =>
      skip
      let t ← peek
      if t == some .comma || t == some .flowMappingEnd then return .empty none
      else node fuel false false
    | _ => return .empty none

end

/-- Takes the directives in front of a document: at most one version, which must be
1.1 or 1.2, and each tag handle once. -/
def directives : Nat → Bool → List (String × Option String) →
    Reading (List (String × Option String))
  | 0, _, _ => refuse
  | fuel + 1, hasVersion, handles => do
    match ← peek with
    | some (.version major minor) =>
      if hasVersion || major != 1 || (minor != 1 && minor != 2) then refuse
      else
        skip
        directives fuel true handles
    | some (.tagHandle handle expansion) =>
      if handles.any fun h => h.1 == handle then refuse
      else
        skip
        directives fuel hasVersion (handles ++ [(handle, expansion)])
    | _ => return handles

/-- Reads the content of a document that is announced: nothing may follow. -/
def content (fuel : Nat) : Reading Node := do
  match ← peek with
  | none => return .empty none
  | some .documentEnd => return .empty none
  | some .documentStart => return .empty none
  | some (.version _ _) => return .empty none
  | some (.tagHandle _ _) => return .empty none
  | some _ => node fuel true false

/-- Takes all marks at the end of a document; further tokens are refused, as there
is one document only. -/
def finish : Nat → Reading Unit
  | 0 => refuse
  | fuel + 1 => do
    match ← peek with
    | none => return ()
    | some .documentEnd =>
      skip
      finish fuel
    | some _ => refuse

/-- Reads the single document of a text: one that is announced by a mark, with
directives in front, or the content alone. A text without any tokens is an empty
document. -/
def document (fuel : Nat) : Reading Node := do
  match ← peek with
  | none => return .empty none
  | some t =>
    let isAnnounced := match t with
      | .version _ _ => true
      | .tagHandle _ _ => true
      | .documentStart => true
      | _ => false
    let n ←
      if isAnnounced then do
        let handles ← directives fuel false []
        modify fun r => { r with handles := handles }
        if (← peek) == some .documentStart then do
          skip
          content fuel
        else refuse
      else node fuel true false
    finish fuel
    return n

end Reading

/-- The single document of a list of tokens. -/
def Document.ofTokens? (ts : List Token) : Option Document :=
  (Reading.document (4 * ts.length + 4) { tokens := ts }).map fun r => ⟨r.1, r.2.anchored⟩

/-- The single document of a text. -/
def Document.ofText? (s : String) : Option Document :=
  (Token.ofText? s).bind Document.ofTokens?

end ProbeEngine.Yaml
