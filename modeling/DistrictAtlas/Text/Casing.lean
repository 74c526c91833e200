import DistrictAtlas.Text.CodeSpan
import DistrictAtlas.Text.Casing.Tables

/-!
# Upper and lower case

Full case conversion of texts. Upper-casing treats every character by itself, and one character may
become several. Lower-casing does too, but for the capital sigma, whose lower form at the end of a
word differs from its form elsewhere.
-/

namespace DistrictAtlas.Text

/-- The upper-case form of one character. -/
def upperChar (c : Char) : List Char :=
  if c.toNat < 0x80 then [c.toUpper]
  else match CaseRun.lookup upperRuns c.toNat with
    | some code => [Char.ofNat code]
    | none => match upperExpansions.lookup c.toNat with
      | some codes => codes.map Char.ofNat
      | none => [c]

/-- The upper-case form of a text, character by character. -/
def upperChars (cs : List Char) : List Char :=
  cs.flatMap upperChar

/-- The text in upper case. -/
def upper (s : String) : String :=
  String.ofList (upperChars s.toList)

/-- The characters of a text in upper case. -/
@[simp] theorem toList_upper (s : String) : (upper s).toList = upperChars s.toList :=
  String.toList_ofList

/-- No characters stay none. -/
@[simp] theorem upperChars_nil : upperChars [] = [] := rfl

/-- The first character is put in upper case on its own. -/
@[simp] theorem upperChars_cons (c : Char) (cs : List Char) :
    upperChars (c :: cs) = upperChar c ++ upperChars cs :=
  List.flatMap_cons

/-- Upper case is taken part by part, as no character looks at those around it. -/
@[simp] theorem upperChars_append (a b : List Char) :
    upperChars (a ++ b) = upperChars a ++ upperChars b :=
  List.flatMap_append

/-- Whether the character has case. -/
def isCased (c : Char) : Bool :=
  CodeSpan.covers casedSpans c.toNat

/-- Whether the character is passed over in looking for a cased neighbour. -/
def isCaseIgnorable (c : Char) : Bool :=
  CodeSpan.covers caseIgnorableSpans c.toNat

/-- Whether the nearest character that is not passed over has case. -/
def meetsCased (cs : List Char) : Bool :=
  match cs.dropWhile isCaseIgnorable with
  | [] => false
  | c :: _ => isCased c

/-- The capital sigma. -/
def capitalSigma : Char := Char.ofNat 0x3A3

/-- The lower form of a capital sigma: the final one after a cased character (`before` lists the
characters in front of it, nearest first) unless another follows. -/
def lowerSigma (before after : List Char) : Char :=
  if meetsCased before && !meetsCased after then Char.ofNat 0x3C2 else Char.ofNat 0x3C3

/-- The lower-case form of one character other than the capital sigma. -/
def lowerChar (c : Char) : List Char :=
  if c.toNat < 0x80 then [c.toLower]
  else if c.toNat = 0x130 then [Char.ofNat 0x69, Char.ofNat 0x307]
  else match CaseRun.lookup lowerRuns c.toNat with
    | some code => [Char.ofNat code]
    | none => [c]

/-- Lower-cases the characters that follow `before` (nearest first) and puts the result behind
`done`, which is kept in reverse. -/
def lowerAfter (before done : List Char) : List Char → List Char
  | [] => done.reverse
  | c :: rest =>
    let image := if c = capitalSigma then [lowerSigma before rest] else lowerChar c
    lowerAfter (c :: before) (image.reverse ++ done) rest

/-- The lower-case form of a text. -/
def lowerChars (cs : List Char) : List Char :=
  lowerAfter [] [] cs

/-- The text in lower case. -/
def lower (s : String) : String :=
  String.ofList (lowerChars s.toList)

/-- The characters of a text in lower case. -/
@[simp] theorem toList_lower (s : String) : (lower s).toList = lowerChars s.toList :=
  String.toList_ofList

end DistrictAtlas.Text
