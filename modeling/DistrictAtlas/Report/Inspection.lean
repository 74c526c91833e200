import DistrictAtlas.Rules.Rulebook
import DistrictAtlas.Value

/-!
# Inspections

A rulebook as a document: what is known about each territory, how many rules there are of each kind,
and what was odd about the rows.
-/

namespace DistrictAtlas

/-- A territory as a document. -/
def Territory.toValue (territory : Territory) : Value :=
  .record [("region", .text territory.region), ("population", .int territory.population),
    ("business_count", .int territory.businesses), ("income", .text territory.income),
    ("status", .text territory.status.word),
    ("tokens", .list (territory.tokenTexts.map .text))]

/-- A notice as a document. -/
def Notice.toValue (notice : Notice) : Value :=
  .record [("kind", .text notice.kind.name), ("row", .int notice.row),
    ("territory_id", notice.territory.elim .null .text), ("detail", .text notice.detail)]

namespace Rulebook

/-- How many rules there are of each kind. -/
def ruleCounts (book : Rulebook) : Value :=
  .record [("exact", .int book.exact.length),
    ("letter_continuation", .int book.letter.length),
    ("any_continuation", .int book.any.length)]

/-- A rulebook as a document, with postcode areas if there are any to show. -/
def inspection (book : Rulebook) (areas : Option (List Wording)) : Value :=
  .record ([("territories",
      .record (book.territories.map fun entry => (entry.1, entry.2.toValue))),
    ("rule_counts", book.ruleCounts),
    ("diagnostics", .list (book.notices.map Notice.toValue))] ++
    (areas.map fun names => ("areas", Value.list (names.map .ofWording))).toList)

end Rulebook

end DistrictAtlas
