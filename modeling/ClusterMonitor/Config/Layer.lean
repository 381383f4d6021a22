import ClusterMonitor.Value

/-!
# Layers of a document

A document is put together from layers. Where two layers both have a mapping, they are merged member
by member; everything else in the later layer, sequences included, replaces what was there.
-/

namespace ClusterMonitor.Value

mutual

/-- Lays a value over another. -/
def overlay (base : Value) : Value → Value
  | .object members =>
    match base with
    | .object below => .object (overlayMembers below members)
    | _ => .object members
  | v => v

/-- Lays members over those of a mapping, one after another. -/
def overlayMembers (base : Dict Value) : List (String × Value) → Dict Value
  | [] => base
  | (k, v) :: rest =>
    match Dict.get? base k with
    | some below => overlayMembers (Dict.set base k (overlay below v)) rest
    | none => overlayMembers (Dict.set base k v) rest

end

end ClusterMonitor.Value
