import DistrictAtlas.Text.EastAsian.Guobiao
import DistrictAtlas.Text.EastAsian.JapaneseExtended
import DistrictAtlas.Text.EastAsian.Korean

/-!
# Switching between sets

Bytes of seven bits in which escape sequences designate the sets that the bytes behind them are to be
looked up in. One set is in use at first; another one can be shifted to until the end of the line, and a
third one gives single characters. Which sets may be designated, and whether there is shifting or a third
set, makes the difference between the ways to write texts like this.
-/

namespace DistrictAtlas.EastAsian

/-- A set that can be designated. -/
inductive Designated where
  /-- ASCII. -/
  | ascii
  /-- The letters of Latin Japanese, ASCII but for two signs. -/
  | latinJapanese
  /-- Narrow kana. -/
  | kana
  /-- The standard set of Japanese. -/
  | japanese
  /-- The standard set of Japanese by the name that its first issue had. -/
  | japaneseFirst
  /-- The supplementary set of Japanese. -/
  | supplement
  /-- The first plane of the extended set of Japanese. -/
  | firstPlane (edition : Japanese.Edition)
  /-- The second plane of the extended set of Japanese. -/
  | secondPlane
  /-- The standard set of Korean. -/
  | korean
  /-- The standard set of simplified Chinese. -/
  | chinese
  /-- The upper half of the western Latin set. -/
  | latin
  /-- The upper half of the Greek set. -/
  | greek
deriving DecidableEq, Repr

namespace Designated

/-- The set that the last byte of an escape sequence names among those of one byte. -/
def ofSingle? (b : Nat) : Option Designated :=
  [(0x42, ascii), (0x4A, latinJapanese), (0x49, kana), (0x41, latin), (0x46, greek)].lookup b

/-- The set that the last byte of an escape sequence names among those of two bytes. -/
def ofDouble? (b : Nat) : Option Designated :=
  [(0x42, japanese), (0x40, japaneseFirst), (0x44, supplement), (0x43, korean), (0x41, chinese),
    (0x4F, firstPlane .earlier), (0x51, firstPlane .later), (0x50, secondPlane)].lookup b

/-- The character of Latin Japanese that a byte writes. -/
def latinJapaneseChar (b : Nat) : Char :=
  if b = 0x5C then '¥' else if b = 0x7E then '‾' else Char.ofNat b

/-- The character of the Greek set that a byte with its high bit writes. -/
def greekChar? (b : Nat) : Option Char :=
  if b < 0xA0 || [0xA0, 0xA3, 0xA6, 0xA7, 0xA8, 0xA9, 0xAB, 0xAC, 0xAD, 0xB0, 0xB1, 0xB2, 0xB3, 0xB7,
      0xBB, 0xBD].contains b then some (Char.ofNat b)
  else if b = 0xA1 then some '‘'
  else if b = 0xA2 then some '’'
  else if b = 0xAF then some '―'
  else if 0xB4 ≤ b ∧ b ≤ 0xFE ∧ b ≠ 0xD2 then some (Char.ofNat (0x2D0 + b))
  else none

/-- The character that a byte alone writes, if the set has such characters. -/
def single? (set : Designated) (b : Nat) : Option Char :=
  match set with
  | ascii => if b < 0x80 then some (Char.ofNat b) else none
  | latin => if b < 0x80 then some (Char.ofNat (b + 0x80)) else none
  | greek => greekChar? (if b < 0x80 then b + 0x80 else b - 0x80)
  | _ => none

/-- What bytes of seven bits begin with in the set; the upper halves are for single characters only. -/
def lead (set : Designated) (a : Nat) (rest : List Nat) : Lead :=
  let texts (text? : Nat → Nat → Option (List Char)) : Lead :=
    match rest with
    | [] => .cut
    | b :: _ =>
      match text? a b with
      | some found => .chars found 1
      | none => .wrong 1
  let pair (char? : Nat → Nat → Option Char) : Lead := texts fun a b => (char? a b).map ([·])
  match set with
  | ascii => .chars [Char.ofNat a] 0
  | latinJapanese => .chars [latinJapaneseChar a] 0
  | kana => ((Japanese.narrow? (a + 0x80)).map fun found => .chars [found] 0).getD (.wrong 0)
  | japanese | japaneseFirst => pair fun a b => Japanese.pair? Japanese.standard (a + 0x80) (b + 0x80)
  | supplement => pair fun a b => Japanese.pair? Japanese.supplement (a + 0x80) (b + 0x80)
  | firstPlane edition => texts fun a b =>
    (Japanese.highCell? (a + 0x80) (b + 0x80)).bind fun (row, cell) =>
      Japanese.firstPlaneText? edition [Japanese.narrowTilde] row cell
  | secondPlane => pair fun a b =>
    (Japanese.highCell? (a + 0x80) (b + 0x80)).bind fun (row, cell) => Japanese.secondPlane.at? row cell
  | korean => pair fun a b => Korean.pair? (a + 0x80) (b + 0x80)
  | chinese => pair Guobiao.standardChar?
  | latin => .wrong 0
  | greek => .wrong 0

end Designated

/-- A way to write texts by switching between sets. -/
structure Switching where
  /-- The sets that may be designated beside ASCII. -/
  sets : List Designated
  /-- Whether two bytes shift to the second set and back. -/
  hasShift : Bool := false
  /-- Whether an escape sequence gives a single character of a third set. -/
  hasThird : Bool := false
  /-- Whether a sequence for a revision may stand before the one that it is about. -/
  hasRevision : Bool := true
deriving DecidableEq, Repr

namespace Switching

/-- What has been designated. -/
structure State where
  /-- The set in use. -/
  first : Designated := .ascii
  /-- The set to shift to. -/
  second : Designated := .ascii
  /-- The set for single characters. -/
  third : Designated := .ascii
  /-- Whether the second set was shifted to. -/
  isShifted : Bool := false
  /-- Whether an escape sequence goes on that designates nothing. -/
  isIdle : Bool := false

/-- Whether an escape sequence may end with the byte. -/
def endsEscape (b : Nat) : Bool := 0x40 ≤ b && b ≤ 0x5A

/-- The greatest number of bytes of an escape sequence, its first byte not counted. -/
def escapeLimit : Nat := 15

/-- The number of bytes of an escape sequence, its first byte not counted, of which `size` come before
these ones; zero if it is too long, and none if the end cuts it off. -/
def escapeSize? (switching : Switching) (size : Nat) : List Nat → Option Nat
  | [] => if size < escapeLimit then none else some 0
  | b :: rest =>
    if escapeLimit ≤ size then some 0
    else if endsEscape b then some (size + 1)
    else if switching.hasRevision && b = 0x26 && rest.head? = some 0x40 then
      escapeSize? switching (size + 3) (rest.drop 2)
    else escapeSize? switching (size + 1) rest
termination_by bytes => bytes.length
decreasing_by all_goals (simp only [List.length_drop, List.length_cons]; omega)

/-- The state after the bytes of an escape sequence, if it designates a set. -/
def designate? (switching : Switching) (state : State) (bytes : List Nat) : Option State := do
  let (place, set) ← match bytes with
    | [0x24, b] => (Designated.ofDouble? b).map (0x28, ·)
    | [place, b] => (Designated.ofSingle? b).map (place, ·)
    | [0x24, place, b] =>
      if place = 0x2E then none else (Designated.ofDouble? b).map (place, ·)
    | [_, _, 0x1B, 0x24, 0x42] =>
      if switching.hasRevision then some (0x28, .japanese) else none
    | _ => none
  if set = .ascii || switching.sets.contains set then
    match place with
    | 0x28 => some { state with first := set }
    | 0x29 => some { state with second := set }
    | 0x2E => if switching.hasThird then some { state with third := set } else none
    | _ => none
  else none

/-- What an escape sequence begins with. -/
def escapeLead (switching : Switching) (state : State) (rest : List Nat) : Lead × State :=
  match rest with
  | [] => (.cut, state)
  | b :: others =>
    if [0x28, 0x29, 0x24, 0x2E, 0x26].contains b then
      match switching.escapeSize? 0 rest with
      | none => (.cut, state)
      | some size =>
        match switching.designate? state (rest.take size) with
        | some state => (.chars [] size, state)
        | none => (.wrong size, state)
    else if switching.hasThird && b = 0x4E then
      match others with
      | [] => (.cut, state)
      | c :: _ =>
        match state.third.single? c with
        | some found => (.chars [found] 2, state)
        | none => (.wrong 2, state)
    else (.chars [Char.ofNat 0x1B] 0, { state with isIdle := true })

/-- What bytes begin with. -/
def lead (switching : Switching) (state : State) (a : Nat) (rest : List Nat) : Lead × State :=
  if state.isIdle then
    (.chars [Char.ofNat a] 0, { state with isIdle := !endsEscape a })
  else if a = 0x1B then switching.escapeLead state rest
  else if switching.hasShift && (a = 0x0E || a = 0x0F) then
    (.chars [] 0, { state with isShifted := decide (a = 0x0E) })
  else if a = 0x0A then (.chars ['\n'] 0, { state with isShifted := false })
  else if a < 0x20 then (.chars [Char.ofNat a] 0, state)
  else if 0x80 ≤ a then (.wrong 0, state)
  else ((if state.isShifted then state.second else state.first).lead a rest, state)

/-- The text that bytes write. -/
def read (switching : Switching) (bytes : Bytes) : String :=
  String.ofList (decode switching.lead {} [] (bytes.map UInt8.toNat))

end Switching

end DistrictAtlas.EastAsian
