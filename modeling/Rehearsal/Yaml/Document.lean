import Rehearsal.Yaml.Lexer

/-!
# YAML documents

The tree that the tokens of a document describe. A node may have a name, and an
alias stands for the number that its name has there. A number is how many
different names were given before, so it may belong to several nodes when a
name is given again, and then it means the last of them to begin, wherever the
alias is. So a document is a tree with references, and a table of the nodes
that are referred to.
-/

namespace Rehearsal.Yaml

open Text

/-- A node of a document. An alias has the number of the node it stands for. -/
inductive Node where
  | scalar (tag : Option Bytes) (written : Written) (text : String)
  | sequence (items : List Node)
  | mapping (fields : List (Node × Node))
  | alias (number : Nat)

namespace Node

instance : Inhabited Node := ⟨.sequence []⟩

/-- What stands where nothing is written. -/
def nothing : Node := .scalar none .plain ""

end Node

/-- A document: its root, if it has one, and the nodes with names, by number. -/
structure Document where
  root : Option Node
  named : List (Nat × Node)

/-- A named node that is finished: its number, how many names were given before it, and the
node. -/
structure NamedNode where
  number : Nat
  begun : Nat
  node : Node

/-- What a document's nodes need to know: what the handles of tags stand for, which number
each name has, how many times a name was given, and the named nodes that are finished. -/
structure Context where
  handles : List (String × Bytes)
  numbers : List (String × Nat)
  given : Nat
  named : List NamedNode

/-- The handles that every document has. -/
def commonHandles : List (String × Bytes) :=
  [("!", Utf8.encode ['!']), ("!!", Utf8.encode "tag:yaml.org,2002:".toList)]

namespace Context

/-- Gives a name, for the first time or again. -/
def withName (c : Context) (name : String) : Context :=
  let others := c.numbers.filter fun pair => pair.1 != name
  { c with numbers := (name, c.numbers.length) :: others, given := c.given + 1 }

/-- Finishes a node, which began after `begun` names were given, if it has a name. -/
def finish (c : Context) (name : Option (Nat × Nat)) (t : Node) : Context :=
  name.elim c fun (number, begun) => { c with named := ⟨number, begun, t⟩ :: c.named }

/-- The node of each number, the last to begin first. -/
def table (c : Context) : List (Nat × Node) :=
  (c.named.mergeSort fun a b => b.begun ≤ a.begun).map fun n => (n.number, n.node)

end Context

/-- The full tag for a handle and a rest. A tag without a handle is full already. -/
def fullTag (c : Context) (handle : String) (rest : Bytes) : Except String Bytes :=
  if handle.isEmpty then .ok rest
  else
    match c.handles.lookup handle with
    | some meaning => .ok (meaning ++ rest)
    | none => .error "found undefined tag handle"

/-- The properties of a node, in either order: its name and its tag. -/
def properties (c : Context) : List Token → Except String (Option String × Option Bytes × List Token)
  | .anchor n :: .tag h r :: rest => do return (some n, some (← fullTag c h r), rest)
  | .tag h r :: .anchor n :: rest => do return (some n, some (← fullTag c h r), rest)
  | .anchor n :: rest => .ok (some n, none, rest)
  | .tag h r :: rest => do return (none, some (← fullTag c h r), rest)
  | rest => .ok (none, none, rest)

/-- Tells whether nothing is written for a node of a block, because the block goes on or ends. -/
def isMissing : List Token → Bool
  | .key :: _ => true
  | .value :: _ => true
  | .blockEnd :: _ => true
  | [] => false
  | _ => false

mutual

/-- A node. In a block it may be a block itself, and as a part of a mapping also a sequence
that is no further in. Each level takes a token, or is followed by one that does, so four
times the number of tokens is enough fuel. -/
def node (inBlock inMapping : Bool) : Nat → Context → List Token → Except String (Node × Context × List Token)
  | 0, _, _ => .error "nested too deeply"
  | fuel + 1, c, ts =>
    match ts with
    | .alias name :: rest =>
      match c.numbers.lookup name with
      | some number => .ok (.alias number, c, rest)
      | none => .error s!"unknown anchor {name}"
    | ts => do
      let (name, tag, ts) ← properties c ts
      let number := name.map fun _ => (c.numbers.length, c.given)
      let c := name.elim c c.withName
      let finished (t : Node) (c : Context) (rest : List Token) : Except String (Node × Context × List Token) :=
        .ok (t, c.finish number t, rest)
      match ts with
      | .scalar text written :: rest => finished (.scalar tag written text) c rest
      | .flowSequenceStart :: rest =>
        let (items, c, rest) ← flowItems true fuel c rest
        finished (.sequence items) c rest
      | .flowMappingStart :: rest =>
        let (fields, c, rest) ← flowFields true fuel c rest
        finished (.mapping fields) c rest
      | .dash :: rest =>
        if inMapping then
          let (items, c, rest) ← looseItems fuel c (.dash :: rest)
          finished (.sequence items) c rest
        else if name.isSome || tag.isSome then finished (.scalar tag .plain "") c (.dash :: rest)
        else .error "did not find expected node content"
      | .sequenceStart :: rest =>
        if inBlock then
          let (items, c, rest) ← blockItems fuel c rest
          finished (.sequence items) c rest
        else .error "did not find expected node content"
      | .mappingStart :: rest =>
        if inBlock then
          let (fields, c, rest) ← blockFields fuel c rest
          finished (.mapping fields) c rest
        else .error "did not find expected node content"
      | ts =>
        if name.isSome || tag.isSome then finished (.scalar tag .plain "") c ts
        else .error "did not find expected node content"

/-- The items of a block sequence up to its end. -/
def blockItems : Nat → Context → List Token → Except String (List Node × Context × List Token)
  | 0, _, _ => .error "nested too deeply"
  | fuel + 1, c, ts =>
    match ts with
    | .blockEnd :: rest => .ok ([], c, rest)
    | .dash :: rest => do
      let (item, c, rest) ←
        match rest with
        | .dash :: _ => .ok (.nothing, c, rest)
        | .blockEnd :: _ => .ok (.nothing, c, rest)
        | _ => node true false fuel c rest
      let (items, c, rest) ← blockItems fuel c rest
      return (item :: items, c, rest)
    | _ => .error "did not find expected '-' indicator"

/-- The items of a sequence that is no further in than the key it belongs to. -/
def looseItems : Nat → Context → List Token → Except String (List Node × Context × List Token)
  | 0, _, _ => .error "nested too deeply"
  | fuel + 1, c, ts =>
    match ts with
    | .dash :: rest => do
      let (item, c, rest) ←
        match rest with
        | .dash :: _ => .ok (.nothing, c, rest)
        | rest => if isMissing rest then .ok (.nothing, c, rest) else node true false fuel c rest
      let (items, c, rest) ← looseItems fuel c rest
      return (item :: items, c, rest)
    | ts => .ok ([], c, ts)

/-- The fields of a block mapping up to its end. -/
def blockFields : Nat → Context → List Token → Except String (List (Node × Node) × Context × List Token)
  | 0, _, _ => .error "nested too deeply"
  | fuel + 1, c, ts =>
    match ts with
    | .blockEnd :: rest => .ok ([], c, rest)
    | .key :: rest => do
      let (key, c, rest) ←
        if isMissing rest then .ok (.nothing, c, rest) else node true true fuel c rest
      let (value, c, rest) ←
        match rest with
        | .value :: rest =>
          if isMissing rest then .ok (.nothing, c, rest) else node true true fuel c rest
        | rest => .ok (.nothing, c, rest)
      let (fields, c, rest) ← blockFields fuel c rest
      return ((key, value) :: fields, c, rest)
    | _ => .error "did not find expected key"

/-- The items of a sequence in brackets. A pair with a colon is a mapping of its own. -/
def flowItems (first : Bool) : Nat → Context → List Token → Except String (List Node × Context × List Token)
  | 0, _, _ => .error "nested too deeply"
  | fuel + 1, c, ts =>
    match ts with
    | .flowSequenceEnd :: rest => .ok ([], c, rest)
    | ts => do
      let ts ←
        match first, ts with
        | true, ts => .ok ts
        | false, .comma :: rest => .ok rest
        | false, _ => .error "did not find expected ',' or ']'"
      match ts with
      | .flowSequenceEnd :: rest => return ([], c, rest)
      | .key :: rest =>
        let (pair, c, rest) ← flowPair fuel c rest
        let (items, c, rest) ← flowItems false fuel c rest
        return (.mapping [pair] :: items, c, rest)
      | ts =>
        let (item, c, rest) ← node false false fuel c ts
        let (items, c, rest) ← flowItems false fuel c rest
        return (item :: items, c, rest)

/-- A key and its value among the items of a sequence. Where no key is written, the token in
its place is passed over. -/
def flowPair : Nat → Context → List Token → Except String ((Node × Node) × Context × List Token)
  | 0, _, _ => .error "nested too deeply"
  | fuel + 1, c, ts => do
    let (key, c, rest) ←
      match ts with
      | .value :: rest => .ok (.nothing, c, rest)
      | .comma :: rest => .ok (.nothing, c, rest)
      | .flowSequenceEnd :: rest => .ok (.nothing, c, rest)
      | ts => node false false fuel c ts
    match rest with
    | .value :: .comma :: rest => return ((key, .nothing), c, .comma :: rest)
    | .value :: .flowSequenceEnd :: rest => return ((key, .nothing), c, .flowSequenceEnd :: rest)
    | .value :: rest =>
      let (value, c, rest) ← node false false fuel c rest
      return ((key, value), c, rest)
    | rest => return ((key, .nothing), c, rest)

/-- The fields of a mapping in braces. A key without a mark has no value. -/
def flowFields (first : Bool) : Nat → Context → List Token → Except String (List (Node × Node) × Context × List Token)
  | 0, _, _ => .error "nested too deeply"
  | fuel + 1, c, ts =>
    match ts with
    | .flowMappingEnd :: rest => .ok ([], c, rest)
    | ts => do
      let ts ←
        match first, ts with
        | true, ts => .ok ts
        | false, .comma :: rest => .ok rest
        | false, _ => .error "did not find expected ',' or '\x7d'"
      match ts with
      | .flowMappingEnd :: rest => return ([], c, rest)
      | .key :: rest =>
        let (key, c, rest) ←
          match rest with
          | .value :: _ => .ok (.nothing, c, rest)
          | .comma :: _ => .ok (.nothing, c, rest)
          | .flowMappingEnd :: _ => .ok (.nothing, c, rest)
          | rest => node false false fuel c rest
        let (value, c, rest) ←
          match rest with
          | .value :: .comma :: rest => .ok (.nothing, c, .comma :: rest)
          | .value :: .flowMappingEnd :: rest => .ok (.nothing, c, .flowMappingEnd :: rest)
          | .value :: rest => node false false fuel c rest
          | rest => .ok (.nothing, c, rest)
        let (fields, c, rest) ← flowFields false fuel c rest
        return ((key, value) :: fields, c, rest)
      | ts =>
        let (key, c, rest) ← node false false fuel c ts
        let (fields, c, rest) ← flowFields false fuel c rest
        return ((key, .nothing) :: fields, c, rest)

end

/-- The directives before a document: whether there was a version, and the handles. -/
def directives (versioned : Bool) (handles : List (String × Bytes)) :
    List Token → Except String (Bool × List (String × Bytes) × List Token)
  | .version major minor :: rest =>
    if versioned then .error "found duplicate %YAML directive"
    else if major == 1 && (minor == 1 || minor == 2) then directives true handles rest
    else .error "found incompatible YAML document"
  | .tagHandle handle meaning :: rest =>
    if (handles.lookup handle).isSome then .error "found duplicate %TAG directive"
    else directives versioned (handles ++ [(handle, meaning)]) rest
  | rest => .ok (versioned, handles, rest)

/-- The root of a document, and what is behind it. -/
def bareRoot (c : Context) (ts : List Token) : Except String (Node × Context × List Token) :=
  node true false (4 * ts.length + 4) c ts

/-- The root of a document behind its mark, where nothing needs to be written. -/
def markedRoot (c : Context) : List Token → Except String (Node × Context × List Token)
  | [] => .ok (.nothing, c, [])
  | .documentStart :: rest => .ok (.nothing, c, .documentStart :: rest)
  | .documentEnd :: rest => .ok (.nothing, c, .documentEnd :: rest)
  | .version m n :: rest => .ok (.nothing, c, .version m n :: rest)
  | .tagHandle h m :: rest => .ok (.nothing, c, .tagHandle h m :: rest)
  | ts => bareRoot c ts

/-- Holds of the end of a text with one document: nothing but marks of its end. -/
def isOver (ts : List Token) : Bool := ts.all (· == .documentEnd)

/-- The document of tokens, which must not hold two. -/
def Document.ofTokens (ts : List Token) : Except String Document := do
  if ts.isEmpty then return ⟨none, []⟩
  let (versioned, handles, rest) ← directives false [] ts
  let c : Context := ⟨handles ++ commonHandles, [], 0, []⟩
  let (tree, c, rest) ←
    match rest with
    | .documentStart :: rest => markedRoot c rest
    | rest =>
      if versioned || !handles.isEmpty then .error "did not find expected <document start>"
      else bareRoot c rest
  if isOver rest then return ⟨some tree, c.table⟩
  else throw "more than one document"

/-- The document of a text. -/
def Document.parse (s : List Char) : Except String Document :=
  match tokens s with
  | .ok ts => Document.ofTokens ts
  | .error fault => .error fault.message

end Rehearsal.Yaml
