import Concordance.Yaml.Token
import Concordance.Yaml.Node

/-!
# Reading YAML

From the tokens of a YAML text to the node they lay out.

A text holds one document. Directives may come before it, which then begins
with a mark; a second document is refused, whatever it holds. Where a key or
an entry has nothing behind it, an empty plain scalar stands.

An anchor names a node for the rest of the document, and an alias stands for
the node that the anchor named last.

## Main definitions

* `Scope`: The tag handles and anchors of a document.
* `Scope.resolveTag?`: The tag that a handle and a suffix make.
* `node?`: Reads one node from the front of some tokens.
* `read?`: The document of a text.
-/

namespace Concordance

namespace Yaml

/-- The tag handles and the anchored nodes of a document. -/
structure Scope where
  handles : List (String × String)
  anchors : List (String × Node)

namespace Scope

/-- The handles that need no directive. -/
def standardHandles : List (String × String) :=
  [("!", "!"), ("!!", coreTag "")]

/-- The tag that a handle and a suffix make. A tag without a handle is its
    suffix. -/
def resolveTag? (scope : Scope) (handle suffix : String) : Option String :=
  if handle.isEmpty then some suffix
  else (scope.handles.lookup handle).map (· ++ suffix)

/-- Name a node. -/
def name (scope : Scope) (anchor : Option String) (n : Node) : Scope :=
  match anchor with
  | none => scope
  | some a => { scope with anchors := (a, n) :: scope.anchors }

end Scope

/-- The anchor and tag in front of a node, in either order. -/
def properties? (scope : Scope) :
    List Token → Option (Option String × Option String × List Token)
  | .anchor a :: .tag h s :: rest => do return (some a, some (← scope.resolveTag? h s), rest)
  | .tag h s :: .anchor a :: rest => do return (some a, some (← scope.resolveTag? h s), rest)
  | .anchor a :: rest => some (some a, none, rest)
  | .tag h s :: rest => do return (none, some (← scope.resolveTag? h s), rest)
  | rest => some (none, none, rest)

/-- A scalar with its tag. The bare mark `!` says no more than no tag. -/
def scalarNode (text : String) (style : Style) (tag : Option String) : Node :=
  .scalar ⟨text, style, if tag = some "!" then none else tag⟩

/-- Whether the next token begins another entry of a mapping, so that nothing
    stands here. -/
def leavesOut : List Token → Bool
  | .key :: _ => true
  | .value :: _ => true
  | .closeBlock :: _ => true
  | [] => true
  | _ => false

mutual

/-- One node. `block` says whether a block collection may stand here, and
    `indentless` whether a sequence may do without indentation. -/
def node? : Nat → Bool → Bool → Scope → List Token → Option (Node × Scope × List Token)
  | 0, _, _, _, _ => none
  | fuel + 1, block, indentless, scope, tokens => do
    if let .alias a :: rest := tokens then
      return (← scope.anchors.lookup a, scope, rest)
    let (anchor, tag, tokens) ← properties? scope tokens
    let finish (n : Node) (scope : Scope) (rest : List Token) :=
      some (n, scope.name anchor n, rest)
    match tokens with
    | .scalar text style :: rest => finish (scalarNode text style tag) scope rest
    | .openFlowSequence :: rest =>
      let (items, scope, rest) ← flowItems? fuel true scope rest
      finish (.sequence tag items) scope rest
    | .openFlowMapping :: rest =>
      let (entries, scope, rest) ← flowEntries? fuel true scope rest
      finish (.mapping tag entries) scope rest
    | .entry :: _ =>
      if indentless then
        let (items, scope, rest) ← loneItems? fuel scope tokens
        finish (.sequence tag items) scope rest
      else if anchor.isSome || tag.isSome then finish (scalarNode "" .plain tag) scope tokens
      else none
    | t :: rest =>
      if block && t = .openSequence then
        let (items, scope, rest) ← items? fuel scope rest
        finish (.sequence tag items) scope rest
      else if block && t = .openMapping then
        let (entries, scope, rest) ← entries? fuel scope rest
        finish (.mapping tag entries) scope rest
      else if anchor.isSome || tag.isSome then finish (scalarNode "" .plain tag) scope tokens
      else none
    | [] =>
      if anchor.isSome || tag.isSome then finish (scalarNode "" .plain tag) scope [] else none

/-- The items of a block sequence up to its end. -/
def items? : Nat → Scope → List Token → Option (List Node × Scope × List Token)
  | 0, _, _ => none
  | fuel + 1, scope, tokens =>
    match tokens with
    | .closeBlock :: rest => some ([], scope, rest)
    | .entry :: rest => do
      let nothing := match rest with
        | .entry :: _ => true
        | .closeBlock :: _ => true
        | _ => false
      let (n, scope, rest) ←
        if nothing then some (Node.empty, scope, rest) else node? fuel true false scope rest
      let (more, scope, rest) ← items? fuel scope rest
      return (n :: more, scope, rest)
    | _ => none

/-- The items of a sequence that stands at the column of its key. It ends
    where no entry follows. -/
def loneItems? : Nat → Scope → List Token → Option (List Node × Scope × List Token)
  | 0, _, _ => none
  | fuel + 1, scope, tokens =>
    match tokens with
    | .entry :: rest => do
      let nothing := match rest with
        | .entry :: _ => true
        | _ => leavesOut rest
      let (n, scope, rest) ←
        if nothing then some (Node.empty, scope, rest) else node? fuel true false scope rest
      let (more, scope, rest) ← loneItems? fuel scope rest
      return (n :: more, scope, rest)
    | _ => some ([], scope, tokens)

/-- The entries of a block mapping up to its end. -/
def entries? : Nat → Scope → List Token → Option (List (Node × Node) × Scope × List Token)
  | 0, _, _ => none
  | fuel + 1, scope, tokens =>
    match tokens with
    | .closeBlock :: rest => some ([], scope, rest)
    | .key :: rest => do
      let (k, scope, rest) ←
        if leavesOut rest then some (Node.empty, scope, rest) else node? fuel true true scope rest
      let (v, scope, rest) ← blockValue? fuel scope rest
      let (more, scope, rest) ← entries? fuel scope rest
      return ((k, v) :: more, scope, rest)
      | _ => none

/-- The value of an entry of a block mapping, if there is one. -/
def blockValue? : Nat → Scope → List Token → Option (Node × Scope × List Token)
  | 0, _, _ => none
  | fuel + 1, scope, tokens =>
    match tokens with
    | .value :: rest =>
      if leavesOut rest then some (Node.empty, scope, rest) else node? fuel true true scope rest
    | _ => some (Node.empty, scope, tokens)

/-- The items of a bracketed sequence up to its closing bracket. A key inside
    makes a mapping of one entry. -/
def flowItems? : Nat → Bool → Scope → List Token → Option (List Node × Scope × List Token)
  | 0, _, _, _ => none
  | fuel + 1, first, scope, tokens =>
    match tokens with
    | .closeFlowSequence :: rest => some ([], scope, rest)
    | _ => do
      let tokens ← match first, tokens with
        | true, _ => some tokens
        | false, .flowEntry :: rest => some rest
        | _, _ => none
      match tokens with
      | .closeFlowSequence :: rest => return ([], scope, rest)
      | .key :: rest =>
        let nothing := match rest with
          | .value :: _ => true
          | .flowEntry :: _ => true
          | .closeFlowSequence :: _ => true
          | _ => false
        let (k, scope, rest) ←
          if nothing then some (Node.empty, scope, rest) else node? fuel false false scope rest
        let (v, scope, rest) ← flowValue? fuel scope rest
        let (more, scope, rest) ← flowItems? fuel false scope rest
        return (.mapping none [(k, v)] :: more, scope, rest)
      | _ =>
        let (n, scope, rest) ← node? fuel false false scope tokens
        let (more, scope, rest) ← flowItems? fuel false scope rest
        return (n :: more, scope, rest)

/-- The entries of a bracketed mapping up to its closing brace. A node that is
    not marked as a key is one without a value. -/
def flowEntries? : Nat → Bool → Scope → List Token →
    Option (List (Node × Node) × Scope × List Token)
  | 0, _, _, _ => none
  | fuel + 1, first, scope, tokens =>
    match tokens with
    | .closeFlowMapping :: rest => some ([], scope, rest)
    | _ => do
      let tokens ← match first, tokens with
        | true, _ => some tokens
        | false, .flowEntry :: rest => some rest
        | _, _ => none
      match tokens with
      | .closeFlowMapping :: rest => return ([], scope, rest)
      | .key :: rest =>
        let nothing := match rest with
          | .value :: _ => true
          | .flowEntry :: _ => true
          | .closeFlowMapping :: _ => true
          | _ => false
        let (k, scope, rest) ←
          if nothing then some (Node.empty, scope, rest) else node? fuel false false scope rest
        let (v, scope, rest) ← flowValue? fuel scope rest
        let (more, scope, rest) ← flowEntries? fuel false scope rest
        return ((k, v) :: more, scope, rest)
      | _ =>
        let (k, scope, rest) ← node? fuel false false scope tokens
        let (more, scope, rest) ← flowEntries? fuel false scope rest
        return ((k, Node.empty) :: more, scope, rest)

/-- The value of an entry inside brackets, if there is one. -/
def flowValue? : Nat → Scope → List Token → Option (Node × Scope × List Token)
  | 0, _, _ => none
  | fuel + 1, scope, tokens =>
    match tokens with
    | .value :: rest =>
      let nothing := match rest with
        | .flowEntry :: _ => true
        | .closeFlowMapping :: _ => true
        | .closeFlowSequence :: _ => true
        | _ => false
      if nothing then some (Node.empty, scope, rest) else node? fuel false false scope rest
    | _ => some (Node.empty, scope, tokens)

end

/-- The handles that the directives of a document introduce, and what follows
    the directives. A handle or a version must not be given twice, and only
    two versions are known. -/
def directives? : Bool → List (String × String) → List Token →
    Option (List (String × String) × List Token)
  | versioned, handles, .version major minor :: rest =>
    if versioned || !(major = 1 && (minor = 1 || minor = 2)) then none
    else directives? true handles rest
  | versioned, handles, .tagHandle handle start :: rest =>
    if (handles.lookup handle).isSome then none
    else directives? versioned ((handle, start) :: handles) rest
  | _, handles, rest => some (handles, rest)

/-- Whether a document begins with a mark, or directives in front of one. -/
def isMarked : List Token → Bool
  | .documentStart :: _ => true
  | .version _ _ :: _ => true
  | .tagHandle _ _ :: _ => true
  | _ => false

/-- Whether a document that has begun with a mark holds nothing. -/
def holdsNothing : List Token → Bool
  | [] => true
  | .documentEnd :: _ => true
  | rest => isMarked rest

/-- The document that some tokens lay out. Every call either uses up a token
    or is followed within three by one that does. -/
def ofTokens? (tokens : List Token) : Option Node := do
  let fuel := 4 * tokens.length + 8
  if tokens.isEmpty then return .missing
  let (n, rest) ←
    if isMarked tokens then do
      match ← directives? false [] tokens with
      | (handles, .documentStart :: rest) =>
        let scope : Scope := ⟨handles ++ Scope.standardHandles, []⟩
        if holdsNothing rest then some (Node.empty, rest)
        else do
          let (n, _, rest) ← node? fuel true false scope rest
          some (n, rest)
      | _ => none
    else do
      let (n, _, rest) ← node? fuel true false ⟨Scope.standardHandles, []⟩ tokens
      some (n, rest)
  match rest.dropWhile (· = .documentEnd) with
  | [] => return n
  | _ => none

/-- The document of a text. -/
def read? (text : String) : Option Node :=
  (tokens? text).bind ofTokens?

end Yaml

end Concordance
