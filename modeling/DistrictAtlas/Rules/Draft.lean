import DistrictAtlas.Rules.Count
import DistrictAtlas.Rules.Palette
import DistrictAtlas.Rules.Rulebook
import DistrictAtlas.Table.Records
import DistrictAtlas.Text.Quoted

/-!
# Making a rulebook

A table is gone through row by row. A row without an id is passed over, and every other row declares a
territory. Nothing in a row can stop this; what is odd becomes a notice. In the rulebook that is made of
the declared territories each stands in place of earlier ones of the same id, a single code goes to the
territory that claims it last, and all other claims are kept in order.
-/

namespace DistrictAtlas

namespace Territory

/-- The territory that a record declares, painted in the given color. -/
def ofRecord (color : String) (record : Record) : Territory :=
  let label := Text.trim record.status
  let status := (Status.read label).1
  { id := Text.trim record.id
    region := Text.trim record.region
    population := (Count.read record.population).value
    businesses := (Count.read record.businesses).value
    income := Text.trim record.income
    status
    statusLabel := if label.isEmpty then status.word else label
    tokens := (Token.listed record.tokens).filter fun token => !token.isVoid
    color }

end Territory

namespace Rulebook

/-- The claims of the tokens of a kind. -/
def claims (kind : TokenKind) (territory : Territory) : List Rule :=
  (territory.tokens.filter (·.kind = kind)).map fun token => ⟨token.code, territory.id⟩

/-- The rulebook of territories in the order of their declaration. -/
def ofTerritories (declared : List Territory) (notices : List Notice) : Rulebook :=
  { territories := declared.foldl
      (fun table territory => Entries.put territory.id territory table) []
    exact := (declared.flatMap (claims .exact)).foldl
      (fun table claim => Entries.put claim.stem claim.territory table) []
    letter := declared.flatMap (claims .letter)
    any := declared.flatMap (claims .any)
    notices }

end Rulebook

/-- What the rows so far have brought for a rulebook. -/
structure Draft where
  /-- The territories that they declared, in order. -/
  declared : Array Territory := #[]
  /-- The ids of these territories, each once. -/
  ids : List String := []
  /-- What was odd about the rows. -/
  notices : Array Notice := #[]

namespace Draft

/-- The notices about the tokens of a cell that have no code. -/
def voidNotices (row : Nat) (id cell : String) : List Notice :=
  ((Token.texts cell).filter fun text => (Token.read text).isVoid).map fun text =>
    ⟨.voidToken, row, some id, "token " ++ Text.quote text ++ " has no code"⟩

/-- The notice about a count that was replaced by zero. -/
def countNotices (row : Nat) (id : String) (field : Field) (text : String) : List Notice :=
  if (Count.read text).replaced then
    [⟨.countReplaced, row, some id,
      field.name ++ " value " ++ Text.quote text ++ " coerced to 0"⟩]
  else []

/-- The notices about a row that declares a territory; `known` tells whether an earlier row declared
one of the same id. -/
def rowNotices (row : Nat) (known : Bool) (record : Record) (territory : Territory) : List Notice :=
  let id := territory.id
  let label := Text.trim record.status
  voidNotices row id record.tokens ++
  (if territory.tokens.isEmpty then
    [⟨.unreachable, row, some id, "territory has no postcode tokens"⟩] else []) ++
  (if (Status.read label).2 then
    [⟨.unknownStatus, row, some id,
      "status " ++ Text.quote label ++ " treated as " ++ Status.available.word⟩] else []) ++
  (if known then
    [⟨.duplicate, row, some id,
      "duplicate territory id; metadata and color replaced, rules appended"⟩] else []) ++
  countNotices row id .population record.population ++
  countNotices row id .businesses record.businesses

/-- The notice about a row without an id. -/
def skipNotice (row : Nat) : Notice :=
  ⟨.rowSkipped, row, none, "row has no territory id"⟩

/-- Takes one more row. -/
def addRow (palette : Palette) (draft : Draft) (row : Nat) (record : Record) : Draft :=
  if (Text.trim record.id).isEmpty then
    { draft with notices := draft.notices.push (skipNotice row) }
  else
    let territory := Territory.ofRecord (palette.color draft.declared.size) record
    let known := draft.ids.contains territory.id
    { declared := draft.declared.push territory
      ids := if known then draft.ids else territory.id :: draft.ids
      notices := draft.notices ++ rowNotices row known record territory }

/-- Takes rows one after the other, the first of them being number `row`. -/
def addRows (palette : Palette) (draft : Draft) (row : Nat) : List Record → Draft
  | [] => draft
  | record :: rest => addRows palette (addRow palette draft row record) (row + 1) rest

end Draft

namespace Rulebook

/-- The rulebook of a table's records. -/
def ofRecords (palette : Palette) (records : List Record) : Rulebook :=
  let draft := Draft.addRows palette {} 1 records
  ofTerritories draft.declared.toList draft.notices.toList

end Rulebook

end DistrictAtlas
