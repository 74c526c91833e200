import DistrictAtlas.Value

/-!
# Overlays

Laying one document over another. Where both have a mapping their entries are united, and under a key
that both have the overlay goes on inside; everywhere else the overlay's value stands.
-/

namespace DistrictAtlas.Value

mutual

/-- The first document with the second laid over it. -/
def overlay (base : Value) : Value → Value
  | .mapping entries =>
    match base with
    | .mapping below => .mapping (overlayEntries below entries)
    | _ => .mapping entries
  | .list items => .list items
  | .scalar value => .scalar value

/-- The entries with others laid over them one by one. -/
def overlayEntries (below : List (Scalar × Value)) : List (Scalar × Value) → List (Scalar × Value)
  | [] => below
  | (key, value) :: rest =>
    match Entries.get? key below with
    | some found => overlayEntries (Entries.put key (overlay found value) below) rest
    | none => overlayEntries (Entries.put key value below) rest

end

/-- A scalar takes the place of whatever it is laid over. -/
@[simp] theorem overlay_scalar (base : Value) (value : Scalar) :
    overlay base (.scalar value) = .scalar value := by
  simp [overlay]

end DistrictAtlas.Value
