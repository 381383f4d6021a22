import ClusterMonitor.Decode.Node
import ClusterMonitor.Yaml.PlainValue
import ClusterMonitor.Yaml.Tree

/-!
# Reading YAML

A YAML text as a document node: aliases are replaced by what they refer to, scalars get their values.

* `Anchors` — what the names of anchors refer to. Anchors are numbered, each by how many names are
  known before it; of two with one number the later one counts.
* `Tree.resolve?` — the trees with their aliases replaced by numbers.
* `Expansion.node` — the node of a tree. What is nested too deep, or refers to others too often, is
  unreadable.
* `read?` — the node of a text.
-/

namespace ClusterMonitor.Yaml

/-- A tree whose aliases are numbers of anchors. -/
inductive Resolved where
  | alias (number : Nat)
  | scalar (tag : Option String) (text : String) (plain : Bool)
  | sequence (tag : Option String) (items : List Resolved)
  | mapping (tag : Option String) (pairs : List (Resolved × Resolved))
deriving Inhabited

/-- An anchored node: its number, its place in the document, and the node. -/
structure Anchored where
  number : Nat
  place : Nat
  node : Resolved

/-- The anchors met so far. -/
structure Anchors where
  /-- Names with their numbers, the newest first. -/
  names : List (String × Nat) := []
  /-- How many different names there are. -/
  known : Nat := 0
  /-- How many nodes have been met. -/
  place : Nat := 0
  anchored : List Anchored := []

namespace Anchors

/-- Notes the name before a node, and gives its number. -/
def note (a : Anchors) : Option String → Anchors × Option Nat
  | none => ({ a with place := a.place + 1 }, none)
  | some name =>
    let known := if (a.names.lookup name).isSome then a.known else a.known + 1
    ({ a with names := (name, a.known) :: a.names, known, place := a.place + 1 }, some a.known)

/-- Keeps a node under its number, if it has one. -/
def keep (a : Anchors) (number : Option Nat) (place : Nat) (node : Resolved) : Anchors :=
  match number with
  | none => a
  | some number => { a with anchored := ⟨number, place, node⟩ :: a.anchored }

/-- The last node with a number. -/
def node? (a : Anchors) (number : Nat) : Option Resolved :=
  let found := a.anchored.filter fun e => e.number == number
  (found.foldl
    (fun (best : Option Anchored) e =>
      match best with
      | some b => if b.place < e.place then some e else some b
      | none => some e) none).map Anchored.node

end Anchors

mutual

/-- Replaces the aliases of a tree; none if a name is unknown. -/
def Tree.resolve? (a : Anchors) : Tree → Option (Resolved × Anchors)
  | .alias name => (a.names.lookup name).map fun n => (.alias n, { a with place := a.place + 1 })
  | .scalar mark text plain =>
    let place := a.place
    let (a, number) := a.note mark.anchor
    let node := Resolved.scalar mark.tag text plain
    some (node, a.keep number place node)
  | .sequence mark items =>
    let place := a.place
    let (a, number) := a.note mark.anchor
    match Tree.resolveItems? a items with
    | none => none
    | some (items, a) =>
      let node := Resolved.sequence mark.tag items
      some (node, a.keep number place node)
  | .mapping mark pairs =>
    let place := a.place
    let (a, number) := a.note mark.anchor
    match Tree.resolvePairs? a pairs with
    | none => none
    | some (pairs, a) =>
      let node := Resolved.mapping mark.tag pairs
      some (node, a.keep number place node)

/-- Items one after another. -/
def Tree.resolveItems? (a : Anchors) : List Tree → Option (List Resolved × Anchors)
  | [] => some ([], a)
  | t :: rest =>
    match Tree.resolve? a t with
    | none => none
    | some (node, a) =>
      match Tree.resolveItems? a rest with
      | none => none
      | some (nodes, a) => some (node :: nodes, a)

/-- Pairs one after another. -/
def Tree.resolvePairs? (a : Anchors) : List (Tree × Tree) →
    Option (List (Resolved × Resolved) × Anchors)
  | [] => some ([], a)
  | (key, value) :: rest =>
    match Tree.resolve? a key with
    | none => none
    | some (key, a) =>
      match Tree.resolve? a value with
      | none => none
      | some (value, a) =>
        match Tree.resolvePairs? a rest with
        | none => none
        | some (pairs, a) => some ((key, value) :: pairs, a)

end

namespace Expansion

/-- How deep collections may be nested. -/
def deepest : Nat := 128

/-- How many aliases a document may follow for each of its nodes. -/
def aliasesPerNode : Nat := 100

/-- The node of a scalar without a tag. -/
def untaggedNode (text : String) (plain : Bool) : Node :=
  if plain then
    match plainValue? text with
    | some v => .scalar v (some text)
    | none => .unreadable (some text)
  else .scalar (.string text) none

/-- A node under its tag, if the tag is one of the document's own. -/
def underTag (tag : Option String) (content : Node) : Node :=
  match tag.bind localName? with
  | some name => .tagged name content
  | none => content

/-- The node of a scalar. -/
def scalarNode (tag : Option String) (text : String) (plain : Bool) : Node :=
  match tag with
  | none => untaggedNode text plain
  | some tag =>
    match localName? tag with
    | some name => .tagged name (untaggedNode text plain)
    | none =>
      match taggedValue? tag text with
      | some v => .scalar v (if plain then some text else none)
      | none => .unreadable (some text)

/-- What a node is when its aliases are followed, and how many further ones may be. -/
def follow (a : Anchors) (budget : Nat) : Resolved → Option Resolved × Nat
  | .alias number =>
    match budget with
    | 0 => (none, 0)
    | budget + 1 => (a.node? number, budget)
  | r => (some r, budget)

/-- The text of a key. -/
def keyText? (a : Anchors) (budget : Nat) (key : Resolved) : Option String × Nat :=
  match follow a budget key with
  | (some (.scalar _ text _), budget) => (some text, budget)
  | (_, budget) => (none, budget)

/-- Nodes one after another, each by `node`. -/
def nodes (node : Nat → Resolved → Node × Nat) (budget : Nat) : List Resolved → List Node × Nat
  | [] => ([], budget)
  | r :: rest =>
    let (n, budget) := node budget r
    let (ns, budget) := nodes node budget rest
    (n :: ns, budget)

/-- Members one after another; none if a key is no scalar. -/
def members (a : Anchors) (node : Nat → Resolved → Node × Nat) (budget : Nat) :
    List (Resolved × Resolved) → Option (List (String × Node)) × Nat
  | [] => (some [], budget)
  | (key, value) :: rest =>
    let (k, budget) := keyText? a budget key
    let (n, budget) := node budget value
    let (ms, budget) := members a node budget rest
    match k, ms with
    | some k, some ms => (some ((k, n) :: ms), budget)
    | _, _ => (none, budget)

/-- The node of a tree, with at most `depth - 1` levels of collections. -/
def node (a : Anchors) : Nat → Nat → Resolved → Node × Nat
  | 0, budget, _ => (.unreadable none, budget)
  | depth + 1, budget, r =>
    match follow a budget r with
    | (some (.scalar tag text plain), budget) => (scalarNode tag text plain, budget)
    | (some (.sequence tag items), budget) =>
      if depth = 0 then (.unreadable none, budget)
      else
        let (ns, budget) := nodes (node a depth) budget items
        (underTag tag (.sequence ns), budget)
    | (some (.mapping tag pairs), budget) =>
      if depth = 0 then (.unreadable none, budget)
      else
        match members a (node a depth) budget pairs with
        | (some ms, budget) => (underTag tag (.mapping ms), budget)
        | (none, budget) => (.unreadable none, budget)
    | (_, budget) => (.unreadable none, budget)

end Expansion

/-- The node of a text with one document. A text without a document is an empty mapping. -/
def read? (text : String) : Option Node := do
  let tokens ← Token.ofText? text
  match ← Tree.ofTokens? tokens with
  | none => return .mapping []
  | some tree =>
    let (root, anchors) ← tree.resolve? {}
    let budget := Expansion.aliasesPerNode * (anchors.place + 1)
    return (Expansion.node anchors (Expansion.deepest + 1) budget root).1

end ClusterMonitor.Yaml
