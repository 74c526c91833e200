import DistrictAtlas.Settings.Fault
import DistrictAtlas.Style.Theme

/-!
# The theme that settings describe

Settings are a mapping with six parts. They are checked from the top down, and the first fault found
is reported: that all parts are there and, unless unknown ones are allowed, no others; then each part
for itself. Keys beside the known ones inside a part are not looked at.
-/

namespace DistrictAtlas.Settings

/-- The keys of a mapping's entries. -/
abbrev Part := List (Scalar × Value)

/-- Stops with a fault. -/
def fail {α : Type} (fault : Fault) : Except Refusal α := .error (.fault fault)

/-- The entries of a part that has to be a mapping. -/
def mapping (part : String) : Value → Except Refusal Part
  | .mapping entries => .ok entries
  | _ => fail (.notMapping part)

/-- Checks that a mapping has all of the keys, which are listed in order. -/
def requireKeys (part : String) (keys : List String) (entries : Part) : Except Refusal Unit :=
  match keys.filter fun key => !Entries.has (.text key) entries with
  | [] => .ok ()
  | missing => fail (.missingKeys part missing)

/-- The least of the keys; where nothing is below the other, the first. -/
def leastKey (first : Scalar) (others : List Scalar) : Scalar :=
  others.foldl (fun least key => if key.isBelow least then key else least) first

/-- Why the keys cannot be listed in order: two of them have no common order, or they are no texts.
Then the least of them is named by its kind. -/
def keyTrouble : List Scalar → Option Refusal
  | [] => none
  | first :: others =>
    match others.find? fun key => (key.kind = "str") != (first.kind = "str") ||
        (key.kind = "NoneType") != (first.kind = "NoneType") with
    | some second => some (.keyOrder second.kind first.kind)
    | none => if first.kind = "str" then none else some (.keyKind (leastKey first others).kind)

/-- Checks that a mapping has none but the given keys. -/
def forbidOthers (part : String) (keys : List String) (entries : Part) : Except Refusal Unit :=
  let known := keys.map Scalar.text
  match (Entries.keys entries).filter fun key => !known.contains key with
  | [] => .ok ()
  | unknown =>
    match keyTrouble unknown with
    | some trouble => .error trouble
    | none => fail (.unknownKeys part ((unknown.filterMap Scalar.wording?).mergeSort Wording.le))

/-- The value under a key. -/
def item (key : String) (entries : Part) : Value :=
  (Entries.get? (.text key) entries).getD .null

/-- How a complaint shows a value. -/
def shown (value : Value) : Except Refusal String :=
  value.shown.mapError .number

/-- Whether a text is a color: a number sign and six hexadecimal digits; a line feed may follow. -/
def isColor (s : String) : Bool :=
  match s.toList with
  | '#' :: rest =>
    (rest.take 6).length = 6 && (rest.take 6).all Text.isHexDigit &&
      (rest.drop 6 = [] || rest.drop 6 = ['\n'])
  | _ => false

/-- Reads a color. -/
def color (part : String) (value : Value) : Except Refusal String :=
  match value with
  | .scalar (.text s) =>
    if isColor s then .ok s
    else do fail (.color part (← shown value))
  | _ => do fail (.color part (← shown value))

/-- Reads colors, the first of them being number `index`. -/
def colors (index : Nat) : List Value → Except Refusal (List String)
  | [] => .ok []
  | value :: rest => do
    let first ← color ("palette[" ++ toString index ++ "]") value
    return first :: (← colors (index + 1) rest)

/-- Reads an opacity. -/
def opacity (part : String) (value : Value) : Except Refusal Binary64 :=
  match value with
  | .scalar (.int n) =>
    if n = 0 ∨ n = 1 then .ok (Binary64.ofInt n)
    else do fail (.opacity part (← shown value))
  | .scalar (.real x) =>
    if x.isUnit then .ok x
    else do fail (.opacity part (← shown value))
  | _ => do fail (.opacity part (← shown value))

/-- The text that a value is, if it is one other than the empty text. -/
def fullText? (value : Value) : Option Wording :=
  value.wording?.filter fun text => !text.isEmpty

/-- The texts of a list that holds nothing but texts other than the empty one. -/
def fullTexts? : List Value → Option (List Wording)
  | [] => some []
  | value :: rest => do
    let text ← fullText? value
    return text :: (← fullTexts? rest)

/-- Reads the list of postcode areas. -/
def areas : Value → Except Refusal (List Wording)
  | .list values =>
    match fullTexts? values with
    | some areas => .ok areas
    | none => fail .areas
  | _ => fail .areas

/-- Reads the name of the property that holds the codes. -/
def codeProperty (value : Value) : Except Refusal Wording :=
  match fullText? value with
  | some name => .ok name
  | none => fail .codeProperty

/-- Reads a palette. -/
def palette : Value → Except Refusal (List String)
  | .list [] => fail .palette
  | .list values => colors 0 values
  | _ => fail .palette

/-- Reads the number of tokens to show. -/
def shownTokens : Value → Except Refusal Int
  | .scalar (.int n) => if n < 1 then fail .shownTokens else .ok n
  | _ => fail .shownTokens

/-- The names of the parts, in order. -/
def parts : List String := ["areas", "code_property", "colors", "opacity", "palette", "popup"]

/-- Checks that all parts are there and, unless unknown ones are allowed, no others. -/
def checkParts (allowUnknown : Bool) (entries : Part) : Except Refusal Unit := do
  requireKeys "style config" parts entries
  if allowUnknown then return () else forbidOthers "style config" parts entries

/-- The theme that settings describe. -/
def theme (allowUnknown : Bool) (settings : Value) : Except Refusal Theme := do
  let entries ← mapping "style config" settings
  checkParts allowUnknown entries
  let codeProperty ← codeProperty (item "code_property" entries)
  let palette ← palette (item "palette" entries)
  let colorPart ← mapping "colors" (item "colors" entries)
  requireKeys "colors" ["base", "fallback", "unmatched"] colorPart
  let unmatchedColor ← color "colors.unmatched" (item "unmatched" colorPart)
  let fallbackColor ← color "colors.fallback" (item "fallback" colorPart)
  let baseColor ← color "colors.base" (item "base" colorPart)
  let opacityPart ← mapping "opacity" (item "opacity" entries)
  requireKeys "opacity" ["dimmed", "normal"] opacityPart
  let normalOpacity ← opacity "opacity.normal" (item "normal" opacityPart)
  let dimmedOpacity ← opacity "opacity.dimmed" (item "dimmed" opacityPart)
  let areaPart ← mapping "areas" (item "areas" entries)
  requireKeys "areas" ["fallback"] areaPart
  let fallbackAreas ← areas (item "fallback" areaPart)
  let popupPart ← mapping "popup" (item "popup" entries)
  requireKeys "popup" ["max_tokens"] popupPart
  let shownTokens ← shownTokens (item "max_tokens" popupPart)
  return { codeProperty, palette, unmatchedColor, fallbackColor, baseColor, normalOpacity,
           dimmedOpacity, fallbackAreas, shownTokens }

end DistrictAtlas.Settings
