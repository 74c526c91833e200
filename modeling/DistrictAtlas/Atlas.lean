import DistrictAtlas.Fetch.Source
import DistrictAtlas.Journal
import DistrictAtlas.Report.Classification
import DistrictAtlas.Report.Description
import DistrictAtlas.Report.PaintSheet
import DistrictAtlas.Rules.Loading

/-!
# The atlas

The map that is in use: a look and the rulebook that answers questions about districts. Loading a table
puts a new rulebook in place of the old one, all at once; when the table cannot be loaded the old one
stays. Either way the journal hears of it.
-/

namespace DistrictAtlas

/-- The map that is in use. -/
structure Atlas where
  /-- Its look. -/
  theme : Theme := {}
  /-- The rulebook that answers. -/
  book : Rulebook := {}

/-- What became of loading a table. -/
structure Reloaded where
  /-- The atlas afterwards. -/
  atlas : Atlas
  /-- Why the table was not loaded, if it was not. -/
  failure : Option Failure
  /-- What is to be logged. -/
  events : List Event

namespace Atlas

/-- Whether a territory is known. -/
def isLoaded (atlas : Atlas) : Bool :=
  !atlas.book.territories.isEmpty

/-- The event at the end of a successful load. -/
def loadedEvent (book : Rulebook) : Event :=
  { stage := some "reload", name := some "RELOAD_END", status := some "ok",
    rowsOut := some book.territories.length, message := "rule set activated" }

/-- The events of a failed load; only foreseen failures are logged. -/
def failureEvents (failure : Failure) : List Event :=
  if failure.isForeseen then [failure.event "reload" "RELOAD_FAIL" ""] else []

/-- Loads a table. -/
def reload (atlas : Atlas) (text : String) : Reloaded :=
  match Rulebook.load atlas.theme.palette text with
  | .error failure => ⟨atlas, some failure, failureEvents failure⟩
  | .ok loaded =>
    ⟨{ atlas with book := loaded.book }, none,
      loaded.book.events loaded.rows ++ [loadedEvent loaded.book]⟩

/-- Describes a district, with as many tokens as the look asks for. -/
def describe (atlas : Atlas) (code : String) : Except Digits.Refusal Description :=
  atlas.book.describe code atlas.theme.shownTokens

/-- The tree of colors. -/
def colorTree (atlas : Atlas) : Tree :=
  atlas.book.colorTree atlas.theme

/-- The tree of opacities. -/
def opacityTree (atlas : Atlas) : Tree :=
  atlas.book.opacityTree atlas.theme

/-- The areas that are listed at a location, or those of the look. -/
def areas (atlas : Atlas) (library : Library) (files : Files) (location : String)
    (network : Network) : Fetched Failure AreaList :=
  Source.areas library files {} atlas.theme.fallbackAreas location network

/-- The events that a journal with the given least level keeps. -/
def kept (least : Level) (events : List Event) : List Event :=
  events.filter (Event.isKept least)

end Atlas

end DistrictAtlas
