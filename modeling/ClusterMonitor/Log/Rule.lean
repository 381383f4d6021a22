import ClusterMonitor.Log.Pattern

/-!
# Processing rules

What a log source does with its lines: join several lines to one record, drop records, keep only
some records, or mask parts of them.
-/

namespace ClusterMonitor

/-- A processing rule of a log source. -/
inductive Rule where
  /-- A line that the pattern matches at its start begins a new record. -/
  | multiLine (name : String) (pattern : Pattern)
  /-- Records that the pattern matches are dropped. -/
  | excludeAtMatch (name : String) (pattern : Pattern)
  /-- Only records that the pattern matches are kept. -/
  | includeAtMatch (name : String) (pattern : Pattern)
  /-- Every match of the pattern is replaced. -/
  | maskSequences (name : String) (pattern : Pattern) (placeholder : String)

namespace Rule

def name : Rule → String
  | .multiLine name _ => name
  | .excludeAtMatch name _ => name
  | .includeAtMatch name _ => name
  | .maskSequences name _ _ => name

def pattern : Rule → Pattern
  | .multiLine _ pattern => pattern
  | .excludeAtMatch _ pattern => pattern
  | .includeAtMatch _ pattern => pattern
  | .maskSequences _ pattern _ => pattern

/-- The kind of the rule, as documents name it. -/
def kind : Rule → String
  | .multiLine _ _ => "multi_line"
  | .excludeAtMatch _ _ => "exclude_at_match"
  | .includeAtMatch _ _ => "include_at_match"
  | .maskSequences _ _ _ => "mask_sequences"

def isMultiLine : Rule → Bool
  | .multiLine _ _ => true
  | _ => false

def same : Rule → Rule → Bool
  | .multiLine n p, .multiLine m q => n == m && p == q
  | .excludeAtMatch n p, .excludeAtMatch m q => n == m && p == q
  | .includeAtMatch n p, .includeAtMatch m q => n == m && p == q
  | .maskSequences n p r, .maskSequences m q s => n == m && p == q && r == s
  | _, _ => false

instance : BEq Rule := ⟨same⟩

def toValue (r : Rule) : Value :=
  let common := [("type", Value.string r.kind), ("name", .string r.name),
    ("pattern", .string r.pattern.text)]
  match r with
  | .maskSequences _ _ placeholder =>
    .ofPairs (common ++ [("replace_placeholder", .string placeholder)])
  | _ => .ofPairs common

/-- The members of a rule while it is decoded. -/
structure Draft where
  name : String := ""
  pattern : Option Pattern := none
  placeholder : String := ""

def nameField : Decode.Field Draft :=
  { name := "name", write := fun d n => (Decode.text n).map fun x => { d with name := x } }

def patternField : Decode.Field Draft :=
  { name := "pattern"
    write := fun d n => (Pattern.decode n).map fun x => { d with pattern := some x } }

def placeholderField : Decode.Field Draft :=
  { name := "replace_placeholder"
    write := fun d n => (Decode.text n).map fun x => { d with placeholder := x } }

/-- A kind of rule: the shape and the fields it is decoded by, and the rule that they make. -/
structure Kind where
  shape : String
  fields : List (Decode.Field Draft)
  make : String → Pattern → String → Rule

/-- The kinds of rules by their names in documents. -/
def kinds : List (String × Kind) :=
  [("multi_line", ⟨"struct variant LogProcessingRule::MultiLine", [nameField, patternField],
      fun name pattern _ => .multiLine name pattern⟩),
    ("exclude_at_match", ⟨"struct variant LogProcessingRule::ExcludeAtMatch",
      [nameField, patternField], fun name pattern _ => .excludeAtMatch name pattern⟩),
    ("include_at_match", ⟨"struct variant LogProcessingRule::IncludeAtMatch",
      [nameField, patternField], fun name pattern _ => .includeAtMatch name pattern⟩),
    ("mask_sequences", ⟨"struct variant LogProcessingRule::MaskSequences",
      [nameField, patternField, placeholderField], .maskSequences⟩)]

/-- Decodes a rule from its document form. -/
def decode (n : Node) : Decoded Rule := do
  let (make, draft) ←
    Decode.tagged "internally tagged enum LogProcessingRule" "type" kinds
      (fun kind =>
        (kind.shape,
          kind.fields.map fun f =>
            { name := f.name
              write := fun (s : (String → Pattern → String → Rule) × Draft) n =>
                (f.write s.2 n).map fun d => (s.1, d) },
          (kind.make, ({} : Draft)))) n
  match draft.pattern with
  | some pattern => return make draft.name pattern draft.placeholder
  | none => .error (.missingField "pattern")

end Rule

end ClusterMonitor
