import DistrictAtlas.Value

/-!
# Faults of settings

What can be wrong with the settings of a map's look, and how it is worded.
-/

namespace DistrictAtlas.Settings

/-- What is wrong with settings. -/
inductive Fault where
  /-- A part that has to be a mapping is not one. -/
  | notMapping (part : String)
  /-- A mapping lacks these keys. -/
  | missingKeys (part : String) (keys : List String)
  /-- A mapping has these keys, which mean nothing. -/
  | unknownKeys (part : String) (keys : List Wording)
  /-- The property that holds the codes is not named. -/
  | codeProperty
  /-- There are no colors for territories. -/
  | palette
  /-- A color is no color. -/
  | color (part shown : String)
  /-- An opacity is none. -/
  | opacity (part shown : String)
  /-- The list of areas is none. -/
  | areas
  /-- The number of tokens to show is none. -/
  | shownTokens
  /-- There is no settings file. -/
  | missingFile (path : String)
  /-- The overlay file holds something other than a mapping. -/
  | overlayNotMapping (path : String)
deriving DecidableEq, Repr

/-- The wording of a fault. -/
def Fault.message : Fault → String
  | notMapping part => part ++ " must be a mapping"
  | missingKeys part keys => "Missing keys in " ++ part ++ ": " ++ ", ".intercalate keys
  | unknownKeys part keys =>
    "Unknown keys in " ++ part ++ ": " ++ ", ".intercalate (keys.map Wording.mended)
  | codeProperty => "code_property must be a non-empty string"
  | palette => "palette must be a non-empty list"
  | color part shown => part ++ " must be a #rrggbb color, got " ++ shown
  | opacity part shown => part ++ " must be a number between 0 and 1, got " ++ shown
  | areas => "areas.fallback must be a list of non-empty strings"
  | shownTokens => "popup.max_tokens must be a positive integer"
  | missingFile path => "Missing config file: " ++ path
  | overlayNotMapping path => "Overlay config must be a mapping: " ++ path

/-- Why settings were refused. -/
inductive Refusal where
  /-- They are wrong. -/
  | fault (fault : Fault)
  /-- They are wrong, but a number in the complaint is too long to be written. -/
  | number (refusal : Digits.Refusal)
  /-- They have a key that is no text, so that the unknown keys cannot be listed. -/
  | keyKind (kind : String)
  /-- They have keys of two kinds that have no order. -/
  | keyOrder (second first : String)
deriving DecidableEq, Repr

/-- The wording of a refusal. -/
def Refusal.message : Refusal → String
  | .fault found => found.message
  | .number cause => cause.message
  | .keyKind found => "sequence item 0: expected str instance, " ++ found ++ " found"
  | .keyOrder second first =>
    "'<' not supported between instances of '" ++ second ++ "' and '" ++ first ++ "'"

end DistrictAtlas.Settings
