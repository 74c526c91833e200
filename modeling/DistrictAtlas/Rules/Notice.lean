/-!
# Notices

What was odd about a row of a table but did not stop it from being used: each notice names the row,
the territory if the row has one, and the fact.
-/

namespace DistrictAtlas

/-- The kinds of notices. -/
inductive NoticeKind where
  /-- The row was passed over. -/
  | rowSkipped
  /-- A count was replaced by zero. -/
  | countReplaced
  /-- The territory claims nothing. -/
  | unreachable
  /-- The status is not known. -/
  | unknownStatus
  /-- The territory was declared before. -/
  | duplicate
  /-- A token has no code. -/
  | voidToken
deriving DecidableEq, Repr

namespace NoticeKind

/-- All kinds. -/
def all : List NoticeKind :=
  [rowSkipped, countReplaced, unreachable, unknownStatus, duplicate, voidToken]

/-- The name under which a kind is reported. -/
def name : NoticeKind → String
  | rowSkipped => "ROW_SKIPPED"
  | countReplaced => "NUMERIC_COERCION"
  | unreachable => "UNREACHABLE_RULE"
  | unknownStatus => "STATUS_UNRECOGNIZED"
  | duplicate => "DUPLICATE_TERRITORY"
  | voidToken => "EMPTY_TOKEN"

/-- Whether a strict run counts the notice as a partial failure. -/
def isStrict : NoticeKind → Bool
  | unreachable => true
  | unknownStatus => true
  | duplicate => true
  | _ => false

end NoticeKind

/-- A fact about one row. -/
structure Notice where
  /-- The kind of fact. -/
  kind : NoticeKind
  /-- The row, the first one behind the header being 1. -/
  row : Nat
  /-- The territory that the row declares. -/
  territory : Option String
  /-- The fact in words. -/
  detail : String
deriving DecidableEq, Repr

end DistrictAtlas
