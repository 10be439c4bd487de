import GuardedPlan.Yaml.Token

/-!
# YAML nodes

The tree that the tokens of one document describe. A text holds at most one document; directives and marks around it are checked and dropped. A node may be named by an anchor and stand in again by an alias; a tag is given in full, with its handle written out.
-/

namespace GuardedPlan.Yaml

/-- The names that go with a node: its anchor and its tag. -/
structure Properties where
  anchor : Option (List Char) := none
  tag : Option (List Char) := none

inductive Node where
  | alias (name : List Char)
  | scalar (properties : Properties) (style : ScalarStyle) (text : List Char)
  | sequence (properties : Properties) (items : List Node)
  | mapping (properties : Properties) (entries : List (Node × Node))

namespace Node

abbrev Handles := List (List Char × List Char)

def standardHandles : Handles :=
  [(['!'], ['!']), (['!', '!'], "tag:yaml.org,2002:".toList)]

/-- A tag with its handle written out; an error for a handle that stands for nothing. -/
def expandTag (handles : Handles) (name : TagName) : Option (List Char) :=
  if name.handle.isEmpty then some name.suffix
  else (handles.lookup name.handle).map fun meaning => meaning ++ name.suffix

/-- Reads the anchor and the tag before a node, in either order. -/
def readProperties (handles : Handles) : List Token → Option (Properties × List Token)
  | .anchor name :: .tag tag :: rest =>
    (expandTag handles tag).map fun tag => ({ anchor := some name, tag := some tag }, rest)
  | .tag tag :: .anchor name :: rest =>
    (expandTag handles tag).map fun tag => ({ anchor := some name, tag := some tag }, rest)
  | .anchor name :: rest => some ({ anchor := some name }, rest)
  | .tag tag :: rest => (expandTag handles tag).map fun tag => ({ tag := some tag }, rest)
  | tokens => some ({}, tokens)

/-- The node that stands where nothing is written. -/
def blank : Node :=
  scalar {} .plain []

def nextIs (tokens : List Token) (p : Token → Bool) : Bool :=
  tokens.head?.any p

/-- A token before which a block value is left out. -/
def endsBlockValue : Token → Bool
  | .key => true
  | .value => true
  | .blockEnd => true
  | _ => false

/-- A token before which the value in a flow sequence is left out. -/
def endsSequenceValue : Token → Bool
  | .flowEntry => true
  | .flowSequenceEnd => true
  | _ => false

/-- A token before which the value in a flow mapping is left out. -/
def endsMappingValue : Token → Bool
  | .flowEntry => true
  | .flowMappingEnd => true
  | _ => false

/-- What collections may stand where a node is read. -/
inductive Place where
  | flow
  | block
  | blockOrDashes
deriving DecidableEq

mutual

def read (handles : Handles) : Nat → Place → List Token → Option (Node × List Token)
  | 0, _, _ => none
  | fuel + 1, place, tokens =>
    match tokens with
    | .alias name :: rest => some (.alias name, rest)
    | _ =>
      (readProperties handles tokens).bind fun (properties, tokens) =>
        match tokens, place with
        | .blockEntry :: _, .blockOrDashes =>
          (readDashes handles fuel tokens).map fun (items, rest) => (sequence properties items, rest)
        | .scalar style text :: rest, _ => some (scalar properties style text, rest)
        | .flowSequenceStart :: rest, _ =>
          (readFlowItems handles fuel true rest).map fun (items, rest) => (sequence properties items, rest)
        | .flowMappingStart :: rest, _ =>
          (readFlowEntries handles fuel true rest).map fun (entries, rest) => (mapping properties entries, rest)
        | _, .flow => unwritten properties tokens
        | .blockSequenceStart :: rest, _ =>
          (readBlockItems handles fuel rest).map fun (items, rest) => (sequence properties items, rest)
        | .blockMappingStart :: rest, _ =>
          (readBlockEntries handles fuel rest).map fun (entries, rest) => (mapping properties entries, rest)
        | _, _ => unwritten properties tokens

/-- The empty node that properties alone describe. -/
def unwritten (properties : Properties) (tokens : List Token) : Option (Node × List Token) :=
  if properties.anchor.isSome || properties.tag.isSome then some (scalar properties .plain [], tokens) else none

/-- Reads a node unless the next token says that it is left out. -/
def readUnless (handles : Handles) : Nat → Place → (Token → Bool) → List Token → Option (Node × List Token)
  | 0, _, _, _ => none
  | fuel + 1, place, isEnd, tokens =>
    if nextIs tokens isEnd then some (blank, tokens) else read handles fuel place tokens

/-- Reads the value after a key, which is left out when its indicator is. -/
def readValue (handles : Handles) : Nat → Place → (Token → Bool) → List Token → Option (Node × List Token)
  | 0, _, _, _ => none
  | fuel + 1, place, isEnd, tokens =>
    match tokens with
    | .value :: rest => readUnless handles fuel place isEnd rest
    | _ => some (blank, tokens)

/-- Reads the entries of a block sequence up to its end. -/
def readBlockItems (handles : Handles) : Nat → List Token → Option (List Node × List Token)
  | 0, _ => none
  | fuel + 1, tokens =>
    match tokens with
    | .blockEntry :: rest =>
      (readUnless handles fuel .block (fun token => token = .blockEntry || token = .blockEnd) rest).bind
        fun (item, rest) => (readBlockItems handles fuel rest).map fun (items, rest) => (item :: items, rest)
    | .blockEnd :: rest => some ([], rest)
    | _ => none

/-- Reads the entries of a block sequence that is indented like the mapping around it. -/
def readDashes (handles : Handles) : Nat → List Token → Option (List Node × List Token)
  | 0, _ => none
  | fuel + 1, tokens =>
    match tokens with
    | .blockEntry :: rest =>
      (readUnless handles fuel .block (fun token => token = .blockEntry || endsBlockValue token) rest).bind
        fun (item, rest) => (readDashes handles fuel rest).map fun (items, rest) => (item :: items, rest)
    | rest => some ([], rest)

/-- Reads the entries of a block mapping up to its end. -/
def readBlockEntries (handles : Handles) : Nat → List Token → Option (List (Node × Node) × List Token)
  | 0, _ => none
  | fuel + 1, tokens =>
    match tokens with
    | .key :: rest =>
      (readUnless handles fuel .blockOrDashes endsBlockValue rest).bind fun (key, rest) =>
        (readValue handles fuel .blockOrDashes endsBlockValue rest).bind fun (value, rest) =>
          (readBlockEntries handles fuel rest).map fun (entries, rest) => ((key, value) :: entries, rest)
    | .blockEnd :: rest => some ([], rest)
    | _ => none

/-- Reads the entries of a flow sequence up to its end; one with an indicator for its key is a mapping of its own. -/
def readFlowItems (handles : Handles) : Nat → Bool → List Token → Option (List Node × List Token)
  | 0, _, _ => none
  | fuel + 1, isFirst, tokens =>
    let entry := match isFirst, tokens with
      | true, tokens => some tokens
      | false, .flowEntry :: rest => some rest
      | false, .flowSequenceEnd :: rest => some (.flowSequenceEnd :: rest)
      | false, _ => none
    entry.bind fun tokens =>
      match tokens with
      | .flowSequenceEnd :: rest => some ([], rest)
      | .key :: rest =>
        (readPair handles fuel rest).bind fun (pair, rest) =>
          (readFlowItems handles fuel false rest).map fun (items, rest) => (mapping {} [pair] :: items, rest)
      | _ =>
        (read handles fuel .flow tokens).bind fun (item, rest) =>
          (readFlowItems handles fuel false rest).map fun (items, rest) => (item :: items, rest)

/-- Reads the one pair of a mapping inside a flow sequence. A key that is left out takes the token after it away. -/
def readPair (handles : Handles) : Nat → List Token → Option ((Node × Node) × List Token)
  | 0, _ => none
  | fuel + 1, tokens =>
    (if nextIs tokens fun token => token = .value || endsSequenceValue token then some (blank, tokens.drop 1)
      else read handles fuel .flow tokens).bind fun (key, rest) =>
        (readValue handles fuel .flow endsSequenceValue rest).map fun (value, rest) => ((key, value), rest)

/-- Reads the entries of a flow mapping up to its end. -/
def readFlowEntries (handles : Handles) : Nat → Bool → List Token → Option (List (Node × Node) × List Token)
  | 0, _, _ => none
  | fuel + 1, isFirst, tokens =>
    let entry := match isFirst, tokens with
      | true, tokens => some tokens
      | false, .flowEntry :: rest => some rest
      | false, .flowMappingEnd :: rest => some (.flowMappingEnd :: rest)
      | false, _ => none
    entry.bind fun tokens =>
      match tokens with
      | .flowMappingEnd :: rest => some ([], rest)
      | .key :: rest =>
        (readUnless handles fuel .flow (fun token => token = .value || endsMappingValue token) rest).bind
          fun (key, rest) =>
            (readValue handles fuel .flow endsMappingValue rest).bind fun (value, rest) =>
              (readFlowEntries handles fuel false rest).map fun (entries, rest) => ((key, value) :: entries, rest)
      | _ =>
        (read handles fuel .flow tokens).bind fun (key, rest) =>
          (readFlowEntries handles fuel false rest).map fun (entries, rest) => ((key, blank) :: entries, rest)

end

/-- Reads the directives before a document: at most one version, which is 1.1 or 1.2, and no handle twice. -/
def readDirectives (versioned : Bool) (handles : Handles) : List Token → Option (Handles × List Token)
  | .version major minor :: rest =>
    if versioned || major ≠ 1 || (minor ≠ 1 && minor ≠ 2) then none else readDirectives true handles rest
  | .tagDirective handle meaning :: rest =>
    if (handles.lookup handle).isSome then none else readDirectives versioned ((handle, meaning) :: handles) rest
  | rest => some (handles, rest)

def endsDocument : Token → Bool
  | .version .. => true
  | .tagDirective .. => true
  | .documentStart => true
  | .documentEnd => true
  | .streamEnd => true
  | _ => false

/-- Reads the one document of a text; nothing but ends of documents may follow it. -/
def readDocument (handles : Handles) (mayBeEmpty : Bool) (tokens : List Token) : Option Node :=
  let found :=
    if mayBeEmpty && nextIs tokens endsDocument then some (blank, tokens)
    else read handles (4 * tokens.length + 4) .block tokens
  found.bind fun (node, rest) =>
    match rest.dropWhile (· = .documentEnd) with
    | [.streamEnd] => some node
    | _ => none

/-- The tree that tokens describe; an empty text describes the empty node. -/
def ofTokens? (tokens : List Token) : Option Node :=
  match tokens with
  | [.streamEnd] => some blank
  | _ =>
    if nextIs tokens fun token => token = .documentStart || (endsDocument token && token ≠ .documentEnd) then
      (readDirectives false [] tokens).bind fun (handles, rest) =>
        match rest with
        | .documentStart :: rest => readDocument (handles ++ standardHandles) true rest
        | _ => none
    else readDocument standardHandles false tokens

end Node

end GuardedPlan.Yaml
