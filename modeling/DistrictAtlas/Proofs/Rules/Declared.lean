import DistrictAtlas.Proofs.Rules.Coherence

/-!
# Declared territories

What territories the rows of a table declare, said of the rows alone. Only the rows with an id take
part, and each of them takes its turn: it declares one territory in the color whose turn it is. What
is known under an id in the end is what the last of these rows with the id has declared.
-/

namespace DistrictAtlas

namespace Record

/-- Whether the row has an id, and so declares a territory. -/
def isNamed (record : Record) : Bool :=
  !(Text.trim record.id).isEmpty

end Record

/-- The territory that a row declares at its turn. -/
def Territory.atTurn (palette : Palette) (turn : Record × Nat) : Territory :=
  ofRecord (palette.color turn.2) turn.1

namespace Draft

variable (palette : Palette)

/-- One more row declares a territory if it has an id. -/
theorem declared_addRow (draft : Draft) (row : Nat) (record : Record) :
    (addRow palette draft row record).declared.toList = draft.declared.toList ++
      (([record].filter Record.isNamed).zipIdx draft.declared.size).map
        (Territory.atTurn palette) := by
  unfold addRow Record.isNamed
  cases hid : (Text.trim record.id).isEmpty with
  | true => rw [if_pos rfl, List.filter_cons, hid]; exact (List.append_nil _).symm
  | false =>
    rw [if_neg Bool.false_ne_true, List.filter_cons, hid]
    exact Array.toList_push

/-- Rows declare territories at their turns, behind those that were there. -/
theorem declared_addRows (draft : Draft) (row : Nat) (records : List Record) :
    (addRows palette draft row records).declared.toList = draft.declared.toList ++
      ((records.filter Record.isNamed).zipIdx draft.declared.size).map
        (Territory.atTurn palette) := by
  induction records generalizing draft row with
  | nil => exact (List.append_nil _).symm
  | cons record rest ih =>
    have hstep := declared_addRow palette draft row record
    have hsize : (addRow palette draft row record).declared.size =
        draft.declared.size + ([record].filter Record.isNamed).length := by
      have hlength := congrArg List.length hstep
      rwa [List.length_append, List.length_map, List.length_zipIdx, Array.length_toList,
        Array.length_toList] at hlength
    have hrows : (record :: rest).filter Record.isNamed =
        [record].filter Record.isNamed ++ rest.filter Record.isNamed :=
      List.filter_append [record] rest
    rw [addRows, ih, hstep, hsize, hrows, List.zipIdx_append, List.map_append, List.append_assoc]

end Draft

namespace Rulebook

variable (palette : Palette) (records : List Record)

/-- The rulebook of rows knows under an id what the last row with this id declared at its turn. -/
theorem territory?_ofRecords (id : String) :
    (ofRecords palette records).territory? id =
      (((records.filter Record.isNamed).zipIdx.filter
        fun turn => Text.trim turn.1.id == id).getLast?).map (Territory.atTurn palette) := by
  have hdeclared := Draft.declared_addRows palette {} 1 records
  unfold ofRecords
  dsimp only
  rw [territory?_ofTerritories, hdeclared, List.nil_append, List.filter_map, List.getLast?_map]
  rfl

/-- Whatever a territory has from its row, and not from its turn, is that of the last row with its
id. -/
theorem map_territory?_ofRecords {α : Type} {fact : Territory → α} {stated : Record → α}
    (h : ∀ color record, fact (Territory.ofRecord color record) = stated record) (id : String) :
    ((ofRecords palette records).territory? id).map fact =
      (((records.filter Record.isNamed).filter
        fun record => Text.trim record.id == id).getLast?).map stated := by
  have hfact : fact ∘ Territory.atTurn palette = stated ∘ Prod.fst :=
    funext fun turn => h (palette.color turn.2) turn.1
  have hrows : (records.filter Record.isNamed).filter (fun record => Text.trim record.id == id) =
      ((records.filter Record.isNamed).zipIdx.filter
        fun turn => Text.trim turn.1.id == id).map Prod.fst := by
    conv_lhs => rw [← List.zipIdx_map_fst 0 (records.filter Record.isNamed), List.filter_map]
    rfl
  rw [territory?_ofRecords, hrows, List.getLast?_map, Option.map_map, Option.map_map, hfact]

end Rulebook

end DistrictAtlas
