import DistrictAtlas.Text.Utf8

/-!
# Characters of one or more bytes

Reading bytes from left to right where it shows at each place how many of them belong together. A byte
that no character begins with is read as the replacement character, and so is what the end cuts off.
-/

namespace DistrictAtlas.EastAsian

/-- What bytes begin with. -/
inductive Lead where
  /-- Characters, written by the first byte and some further ones. -/
  | chars (text : List Char) (further : Nat)
  /-- Nothing that stands for a character: the first byte and some further ones. -/
  | wrong (further : Nat)
  /-- The beginning of a character without its end. -/
  | cut
deriving DecidableEq, Repr

/-- The characters that bytes write, where `lead` tells what the bytes begin with in a state and in what
state the reading goes on; those in `done` (in reverse) stand before them. -/
def decode {σ : Type} (lead : σ → Nat → List Nat → Lead × σ) (state : σ) (done : List Char) :
    List Nat → List Char
  | [] => done.reverse
  | b :: rest =>
    match lead state b rest with
    | (.chars text further, state) => decode lead state (text.reverse ++ done) (rest.drop further)
    | (.wrong further, state) => decode lead state (Utf8.replacement :: done) (rest.drop further)
    | (.cut, _) => (Utf8.replacement :: done).reverse
termination_by bytes => bytes.length
decreasing_by all_goals (simp only [List.length_drop, List.length_cons]; omega)

/-- The text that bytes write, where `lead` tells what they begin with. -/
def read (lead : Nat → List Nat → Lead) (bytes : Bytes) : String :=
  String.ofList (decode (fun (_ : Unit) b rest => (lead b rest, ())) () [] (bytes.map UInt8.toNat))

/-- The character that a first byte and one behind it write, if it is one of this set. -/
def pairLead (char? : Nat → Nat → Option Char) (b : Nat) : List Nat → Lead
  | [] => .cut
  | c :: _ =>
    match char? b c with
    | some found => .chars [found] 1
    | none => .wrong 0

/-- What bytes begin with where ASCII goes without further bytes and all else takes two. -/
def asciiOrPair (char? : Nat → Nat → Option Char) (b : Nat) (rest : List Nat) : Lead :=
  if b < 0x80 then .chars [Char.ofNat b] 0 else pairLead char? b rest

end DistrictAtlas.EastAsian
