import ClusterMonitor.Yaml.Lexer

/-!
# YAML trees

How the tokens of a document nest. Anchors, aliases and tags are kept as they are written, tags with
their handles resolved.

* `Tree` — scalars, sequences and mappings, and aliases to any of them.
* `Parser.node?` — the tree that starts at a token, and the tokens behind it.
* `Tree.ofTokens?` — the tree of a text with at most one document.
-/

namespace ClusterMonitor.Yaml

/-- What is noted before a node. -/
structure Mark where
  anchor : Option String := none
  tag : Option String := none
deriving DecidableEq, Repr

/-- A node as it is written. -/
inductive Tree where
  | alias (name : String)
  | scalar (mark : Mark) (text : String) (plain : Bool)
  | sequence (mark : Mark) (items : List Tree)
  | mapping (mark : Mark) (pairs : List (Tree × Tree))
deriving Inhabited

/-- A scalar that is not there. -/
def Tree.empty : Tree := .scalar {} "" true

/-- The prefixes that tag handles stand for. -/
abbrev Handles := List (String × String)

/-- The handles that every document has. -/
def standardHandles : Handles := [("!", "!"), ("!!", "tag:yaml.org,2002:")]

namespace Parser

/-- What has been parsed, and the tokens behind it. -/
abbrev Step (α : Type) := Option (α × List Token)

/-- The tag that a handle and a suffix make. -/
def resolveTag? (handles : Handles) (handle suffix : String) : Option String :=
  if handle.isEmpty then some suffix
  else (handles.lookup handle).map (· ++ suffix)

/-- The anchor and the tag before a node, in either order. -/
def mark? (handles : Handles) : List Token → Step Mark
  | .anchor name :: .tag handle suffix :: rest =>
    (resolveTag? handles handle suffix).map fun tag => (⟨some name, some tag⟩, rest)
  | .anchor name :: rest => some (⟨some name, none⟩, rest)
  | .tag handle suffix :: .anchor name :: rest =>
    (resolveTag? handles handle suffix).map fun tag => (⟨some name, some tag⟩, rest)
  | .tag handle suffix :: rest =>
    (resolveTag? handles handle suffix).map fun tag => (⟨none, some tag⟩, rest)
  | rest => some ({}, rest)

/-- Where a node stands, which decides the forms it may have. -/
inductive Context where
  | flow
  | block
  /-- In a block mapping, whose column the items of a sequence may share. -/
  | member
deriving DecidableEq, Repr

mutual

/-- The node that starts here. -/
def node? (handles : Handles) (fuel : Nat) (context : Context) (tokens : List Token) : Step Tree :=
  match fuel with
  | 0 => none
  | fuel + 1 =>
    match tokens with
    | .alias name :: rest => some (.alias name, rest)
    | _ =>
      match mark? handles tokens with
      | none => none
      | some (mark, rest) => content? handles fuel context mark rest

/-- The content of a node behind its mark. A marked node may have none. -/
def content? (handles : Handles) (fuel : Nat) (context : Context) (mark : Mark)
    (tokens : List Token) : Step Tree :=
  match fuel with
  | 0 => none
  | fuel + 1 =>
    let ended : Step Tree :=
      if mark.anchor.isSome || mark.tag.isSome then some (.scalar mark "" true, tokens) else none
    match tokens with
    | .scalar text plain :: rest =>
      let mark := if mark.tag = some "!" then { mark with tag := none } else mark
      some (.scalar mark text plain, rest)
    | .flowSequenceStart :: rest =>
      (flowItems? handles fuel true rest).map fun (items, rest) => (.sequence mark items, rest)
    | .flowMappingStart :: rest =>
      (flowPairs? handles fuel true rest).map fun (pairs, rest) => (.mapping mark pairs, rest)
    | .blockEntry :: rest =>
      if context = .member then
        (sharedItems? handles fuel (.blockEntry :: rest)).map fun (items, rest) =>
          (.sequence mark items, rest)
      else ended
    | .blockSequenceStart :: rest =>
      if context = .flow then ended
      else
        (blockItems? handles fuel rest).map fun (items, rest) => (.sequence mark items, rest)
    | .blockMappingStart :: rest =>
      if context = .flow then ended
      else
        (blockPairs? handles fuel rest).map fun (pairs, rest) => (.mapping mark pairs, rest)
    | _ => ended

/-- The items of a block sequence, up to the end of the block. -/
def blockItems? (handles : Handles) (fuel : Nat) (tokens : List Token) : Step (List Tree) :=
  match fuel, tokens with
  | 0, _ => none
  | fuel + 1, .blockEntry :: rest =>
    let item? : Step Tree :=
      match rest with
      | .blockEntry :: _ => some (.empty, rest)
      | .blockEnd :: _ => some (.empty, rest)
      | _ => node? handles fuel .block rest
    match item? with
    | none => none
    | some (item, rest) =>
      (blockItems? handles fuel rest).map fun (items, rest) => (item :: items, rest)
  | _, .blockEnd :: rest => some ([], rest)
  | _, _ => none

/-- The items of a sequence that shares the column of the mapping around it. -/
def sharedItems? (handles : Handles) (fuel : Nat) (tokens : List Token) : Step (List Tree) :=
  match fuel, tokens with
  | 0, _ => none
  | fuel + 1, .blockEntry :: rest =>
    let item? : Step Tree :=
      match rest with
      | .blockEntry :: _ => some (.empty, rest)
      | .key :: _ => some (.empty, rest)
      | .value :: _ => some (.empty, rest)
      | .blockEnd :: _ => some (.empty, rest)
      | _ => node? handles fuel .block rest
    match item? with
    | none => none
    | some (item, rest) =>
      (sharedItems? handles fuel rest).map fun (items, rest) => (item :: items, rest)
  | _, rest => some ([], rest)

/-- A key or a value of a block mapping, which may be missing. -/
def member? (handles : Handles) (fuel : Nat) (tokens : List Token) : Step Tree :=
  match fuel, tokens with
  | 0, _ => none
  | _, .key :: _ => some (.empty, tokens)
  | _, .value :: _ => some (.empty, tokens)
  | _, .blockEnd :: _ => some (.empty, tokens)
  | fuel + 1, _ => node? handles fuel .member tokens

/-- The pairs of a block mapping, up to the end of the block. -/
def blockPairs? (handles : Handles) (fuel : Nat) (tokens : List Token) : Step (List (Tree × Tree)) :=
  match fuel, tokens with
  | 0, _ => none
  | fuel + 1, .key :: rest =>
    match member? handles fuel rest with
    | none => none
    | some (key, .value :: rest) =>
      match member? handles fuel rest with
      | none => none
      | some (value, rest) =>
        (blockPairs? handles fuel rest).map fun (pairs, rest) => ((key, value) :: pairs, rest)
    | some (key, rest) =>
      (blockPairs? handles fuel rest).map fun (pairs, rest) => ((key, .empty) :: pairs, rest)
  | _, .blockEnd :: rest => some ([], rest)
  | _, _ => none

/-- The items of a sequence in brackets; commas stand between them, and one may follow the last. -/
def flowItems? (handles : Handles) (fuel : Nat) (first : Bool) (tokens : List Token) :
    Step (List Tree) :=
  match fuel, tokens with
  | 0, _ => none
  | _, .flowSequenceEnd :: rest => some ([], rest)
  | fuel + 1, tokens =>
    let start? : Option (List Token) :=
      match first, tokens with
      | true, _ => some tokens
      | false, .flowEntry :: rest => some rest
      | false, _ => none
    match start? with
    | none => none
    | some (.flowSequenceEnd :: rest) => some ([], rest)
    | some rest =>
      let item? : Step Tree :=
        match rest with
        | .key :: rest =>
          (flowPair? handles fuel .flowSequenceEnd rest).map fun (pair, rest) =>
            (.mapping {} [pair], rest)
        | _ => node? handles fuel .flow rest
      match item? with
      | none => none
      | some (item, rest) =>
        (flowItems? handles fuel false rest).map fun (items, rest) => (item :: items, rest)

/-- A node inside brackets, which may be missing before a comma or before the closing one. -/
def flowPart? (handles : Handles) (fuel : Nat) (closing : Token) (tokens : List Token) :
    Step Tree :=
  match fuel, tokens with
  | 0, _ => none
  | fuel + 1, t :: rest =>
    if t = .flowEntry ∨ t = closing then some (.empty, t :: rest)
    else node? handles fuel .flow (t :: rest)
  | _, [] => none

/-- A key inside brackets, behind its sign, with its value if it has one. -/
def flowPair? (handles : Handles) (fuel : Nat) (closing : Token) (tokens : List Token) :
    Step (Tree × Tree) :=
  match fuel with
  | 0 => none
  | fuel + 1 =>
    let key? : Step Tree :=
      match tokens with
      | .value :: _ => some (.empty, tokens)
      | _ => flowPart? handles fuel closing tokens
    match key? with
    | none => none
    | some (key, .value :: rest) =>
      (flowPart? handles fuel closing rest).map fun (value, rest) => ((key, value), rest)
    | some (key, rest) => some ((key, .empty), rest)

/-- The pairs of a mapping in brackets. A node that is no key has no value. -/
def flowPairs? (handles : Handles) (fuel : Nat) (first : Bool) (tokens : List Token) :
    Step (List (Tree × Tree)) :=
  match fuel, tokens with
  | 0, _ => none
  | _, .flowMappingEnd :: rest => some ([], rest)
  | fuel + 1, tokens =>
    let start? : Option (List Token) :=
      match first, tokens with
      | true, _ => some tokens
      | false, .flowEntry :: rest => some rest
      | false, _ => none
    match start? with
    | none => none
    | some (.flowMappingEnd :: rest) => some ([], rest)
    | some rest =>
      let pair? : Step (Tree × Tree) :=
        match rest with
        | .key :: rest => flowPair? handles fuel .flowMappingEnd rest
        | _ => (node? handles fuel .flow rest).map fun (key, rest) => ((key, .empty), rest)
      match pair? with
      | none => none
      | some (pair, rest) =>
        (flowPairs? handles fuel false rest).map fun (pairs, rest) => (pair :: pairs, rest)

end

/-! ## Documents -/

/-- The directives before a document: one version at most, and each handle once. -/
def directives? (version : Bool) (handles : Handles) : List Token → Step Handles
  | .versionDirective major minor :: rest =>
    if version ∨ major ≠ 1 ∨ (minor ≠ 1 ∧ minor ≠ 2) then none
    else directives? true handles rest
  | .tagDirective handle start :: rest =>
    if (handles.lookup handle).isSome then none
    else directives? version ((handle, start) :: handles) rest
  | rest => some (handles, rest)

/-- The node of a document, which may be empty. -/
def document? (handles : Handles) (tokens : List Token) : Step Tree :=
  match tokens with
  | [] => some (.empty, [])
  | .versionDirective _ _ :: _ => some (.empty, tokens)
  | .tagDirective _ _ :: _ => some (.empty, tokens)
  | .documentStart :: _ => some (.empty, tokens)
  | .documentEnd :: _ => some (.empty, tokens)
  | _ => node? handles (4 * tokens.length + 8) .block tokens

/-- A first document, with its directives and its start mark if it has one. -/
def firstDocument? (tokens : List Token) : Step Tree :=
  let isExplicit : Bool :=
    match tokens with
    | .versionDirective _ _ :: _ => true
    | .tagDirective _ _ :: _ => true
    | .documentStart :: _ => true
    | _ => false
  if isExplicit then
    match directives? false [] tokens with
    | some (handles, .documentStart :: rest) => document? (handles ++ standardHandles) rest
    | _ => none
  else node? standardHandles (4 * tokens.length + 8) .block tokens

end Parser

/-- The tree of a text: nothing in it if there is no document; none if there is more than one. -/
def Tree.ofTokens? (tokens : List Token) : Option (Option Tree) :=
  if tokens.isEmpty then some none
  else
    match Parser.firstDocument? tokens with
    | none => none
    | some (tree, rest) =>
      if rest.all (· = .documentEnd) then some (some tree) else none

end ClusterMonitor.Yaml
