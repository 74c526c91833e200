import DistrictAtlas.Entries
import DistrictAtlas.Rules.Notice
import DistrictAtlas.Rules.Territory

/-!
# Rulebooks

A rulebook holds the declared territories and, in three tables, which territory claims what: single
codes, codes with their continuations by a letter, and codes with all their continuations. The first
table has one territory for a code; the other two keep every claim in the order of declaration.
-/

namespace DistrictAtlas

/-- A claim to a code and some of its continuations. -/
structure Rule where
  /-- The code. -/
  stem : String
  /-- The territory that claims it. -/
  territory : String
deriving DecidableEq, Repr

/-- Territories and their claims. -/
structure Rulebook where
  /-- The territories by their ids, in the order of their first declaration. -/
  territories : List (String × Territory) := []
  /-- The territory that claims a single code. -/
  exact : List (String × String) := []
  /-- Claims to a code and its continuations by a letter. -/
  letter : List Rule := []
  /-- Claims to a code and all its continuations. -/
  any : List Rule := []
  /-- What was odd about the rows. -/
  notices : List Notice := []
deriving DecidableEq, Repr

namespace Rulebook

/-- The rulebook that declares nothing. -/
def empty : Rulebook := {}

/-- The territory with the given id. -/
def territory? (book : Rulebook) (id : String) : Option Territory :=
  Entries.get? id book.territories

/-- The number of notices of a kind. -/
def countNotices (book : Rulebook) (kind : NoticeKind) : Nat :=
  book.notices.countP (·.kind = kind)

end Rulebook

end DistrictAtlas
