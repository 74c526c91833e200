import DistrictAtlas.Text.Utf8

/-!
# UTF-16 and UTF-32

Texts in units of two or of four bytes. The order of the bytes in a unit is either known or told by a
mark in front, without which the lesser byte comes first. What stands for no character is read as the
replacement character: half a pair by itself, a number that no character has, and bytes at the end that
make no unit. A half at the end is read together with the bytes behind it.
-/

namespace DistrictAtlas

/-- The order of the bytes in a unit. -/
inductive ByteOrder where
  /-- The lesser byte first. -/
  | little
  /-- The greater byte first. -/
  | big
deriving DecidableEq, Repr

namespace ByteOrder

/-- The number that the bytes of a unit write. -/
def number (order : ByteOrder) (unit : List UInt8) : Nat :=
  let greaterFirst := match order with
    | little => unit.reverse
    | big => unit
  greaterFirst.foldl (fun n b => n * 0x100 + b.toNat) 0

end ByteOrder

namespace Utf16

/-- Whether the unit is the first half of a pair. -/
def isFirstHalf (n : Nat) : Bool := 0xD800 ≤ n && n < 0xDC00

/-- Whether the unit is the second half of a pair. -/
def isSecondHalf (n : Nat) : Bool := 0xDC00 ≤ n && n < 0xE000

/-- The character of a pair. -/
def pairChar (first second : Nat) : Char :=
  Char.ofNat (0x10000 + (first - 0xD800) * 0x400 + (second - 0xDC00))

/-- The characters of the bytes, behind those in `done`, which is kept in reverse. -/
def charsAfter (order : ByteOrder) (done : List Char) : Bytes → List Char
  | [] => done.reverse
  | [_] => (Utf8.replacement :: done).reverse
  | a :: b :: rest =>
    let n := order.number [a, b]
    if isFirstHalf n then
      match rest with
      | c :: d :: more =>
        let m := order.number [c, d]
        if isSecondHalf m then charsAfter order (pairChar n m :: done) more
        else charsAfter order (Utf8.replacement :: done) (c :: d :: more)
      | _ => (Utf8.replacement :: done).reverse
    else if isSecondHalf n then charsAfter order (Utf8.replacement :: done) rest
    else charsAfter order (Char.ofNat n :: done) rest

/-- The text of the bytes. -/
def read (order : Option ByteOrder) (bytes : Bytes) : String :=
  String.ofList <| match order, bytes with
    | some order, _ => charsAfter order [] bytes
    | none, 0xFF :: 0xFE :: rest => charsAfter .little [] rest
    | none, 0xFE :: 0xFF :: rest => charsAfter .big [] rest
    | none, _ => charsAfter .little [] bytes

end Utf16

namespace Utf32

/-- The character of a unit. -/
def unitChar (n : Nat) : Char :=
  if h : n.isValidChar then Char.ofNatAux n h else Utf8.replacement

/-- The characters of the bytes, behind those in `done`, which is kept in reverse. -/
def charsAfter (order : ByteOrder) (done : List Char) : Bytes → List Char
  | [] => done.reverse
  | a :: b :: c :: d :: rest =>
    charsAfter order (unitChar (order.number [a, b, c, d]) :: done) rest
  | _ => (Utf8.replacement :: done).reverse

/-- The text of the bytes. -/
def read (order : Option ByteOrder) (bytes : Bytes) : String :=
  String.ofList <| match order, bytes with
    | some order, _ => charsAfter order [] bytes
    | none, 0xFF :: 0xFE :: 0 :: 0 :: rest => charsAfter .little [] rest
    | none, 0 :: 0 :: 0xFE :: 0xFF :: rest => charsAfter .big [] rest
    | none, _ => charsAfter .little [] bytes

end Utf32

end DistrictAtlas
