import DistrictAtlas.Entries
import DistrictAtlas.Text.Alphanumeric
import DistrictAtlas.Text.Blank
import DistrictAtlas.Text.Casing

/-!
# Columns

Which column of a table holds which field of a territory. Each field goes by several names, and a
header cell is compared with them in lower case and without anything but letters and digits. A field
takes the column of the first of its names that some cell has, and of several such cells the first.
-/

namespace DistrictAtlas

/-- A field of a territory. -/
inductive Field where
  /-- What the territory is known by. -/
  | id
  /-- The districts that it claims. -/
  | tokens
  /-- The region it lies in. -/
  | region
  /-- The number of people who live there. -/
  | population
  /-- The number of businesses. -/
  | businesses
  /-- The income of a household. -/
  | income
  /-- Whether the territory is taken. -/
  | status
deriving DecidableEq, Repr

namespace Field

/-- All fields in their usual order. -/
def all : List Field := [id, tokens, region, population, businesses, income, status]

/-- The name under which a field is reported. -/
def name : Field → String
  | id => "id"
  | tokens => "tokens"
  | region => "region"
  | population => "population"
  | businesses => "business_count"
  | income => "income"
  | status => "status"

/-- The names a header may use for a field, the preferred one first. -/
def aliases : Field → List String
  | id => ["territory_id", "id"]
  | tokens => ["postcode_prefixes", "postcodes", "prefixes"]
  | region => ["region"]
  | population => ["estimated_population", "population", "pop"]
  | businesses => ["indicative_business_count", "businesses", "biz", "business_count"]
  | income => ["average_household_income", "income", "avg_income"]
  | status => ["status"]

/-- The fields without which a table cannot be used. -/
def required : List Field := [id, tokens]

end Field

namespace Table

/-- A header cell in the form in which names are compared. -/
def plainName (name : String) : String :=
  String.ofList ((Text.lowerChars (Text.trimChars name.toList)).filter Text.isAlphanumeric)

/-- The position of the first of the names that the header has. -/
def findColumn (header : List String) : List String → Option Nat
  | [] => none
  | name :: rest =>
    match header.findIdx? (· = name) with
    | some index => some index
    | none => findColumn header rest

/-- The column of a field among plain header names. -/
def column? (plainHeader : List String) (field : Field) : Option Nat :=
  findColumn plainHeader (field.aliases.map plainName)

/-- The fields that a header has, each with its column. -/
def columns (header : List String) : List (Field × Nat) :=
  let plainHeader := header.map plainName
  Field.all.filterMap fun field => (column? plainHeader field).map fun index => (field, index)

/-- The required fields without a column. -/
def missingFields (columns : List (Field × Nat)) : List Field :=
  Field.required.filter fun field => !Entries.has field columns

end Table

end DistrictAtlas
