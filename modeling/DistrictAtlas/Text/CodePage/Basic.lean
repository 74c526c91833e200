/-!
# Code pages

Character sets that write each character as one byte. A byte that stands for no character is read as
the replacement character.
-/

namespace DistrictAtlas

/-- A character set of 256 characters at most. -/
structure CodePage where
  /-- Its own name. -/
  name : String
  /-- The other names it goes by. -/
  aliases : List String
  /-- The characters of the bytes in order. -/
  chars : String
deriving DecidableEq, Repr

namespace CodePage

/-- The characters of ASCII. -/
def ascii : String := String.ofList ((List.range 128).map Char.ofNat)

/-- A code page by the rows of its characters. -/
def ofAll (name : String) (aliases rows : List String) : CodePage :=
  ⟨name, aliases, String.join rows⟩

/-- A code page by the rows of those characters that follow the ones of ASCII. -/
def ofHigh (name : String) (aliases rows : List String) : CodePage :=
  ofAll name aliases (ascii :: rows)

/-- The text that the bytes write. -/
def read (page : CodePage) (bytes : List UInt8) : String :=
  let table := page.chars.toList.toArray
  String.ofList (bytes.map fun b => table.getD b.toNat (Char.ofNat 0xFFFD))

end CodePage

end DistrictAtlas
