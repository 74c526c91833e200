import DistrictAtlas.Text.Quoted
import DistrictAtlas.Text.Split

/-!
# Locations

A location is a path or an address on the web. It is an address when it begins with one of two
schemes and a colon; what follows the colon hardly matters, but a host in brackets has to be a proper
one, and a host must not hold characters that stand for a part of an address.
-/

namespace DistrictAtlas.Location

/-- Why a location is neither a path nor an address. -/
inductive Fault where
  /-- Only one of the two brackets around a host is there, or something stands beside them. -/
  | brackets
  /-- The host in brackets claims a future version but has no proper form. -/
  | futureHost
  /-- The host in brackets is no address of either version. -/
  | host (name : String)
  /-- The host in brackets is an address of the version that needs none. -/
  | plainHost
  /-- The host holds a character that stands for a part of an address. -/
  | hostCharacters (name : String)
deriving DecidableEq, Repr

/-- The wording of a fault. -/
def Fault.message : Fault → String
  | brackets => "Invalid IPv6 URL"
  | futureHost => "IPvFuture address is invalid"
  | host name => Text.quote name ++ " does not appear to be an IPv4 or IPv6 address"
  | plainHost => "An IPv4 address cannot be in brackets"
  | hostCharacters name =>
    "netloc '" ++ name ++ "' contains invalid characters under NFKC normalization"

/-- Whether the character may stand in a scheme. -/
def isSchemeChar (c : Char) : Bool := c.isAlphanum || c = '+' || c = '-' || c = '.'

/-- The location without controls and spaces in front and without line ends and tabulators. -/
def tidy (cs : List Char) : List Char :=
  (cs.dropWhile fun c => c.toNat ≤ 0x20).filter fun c => c ≠ '\t' ∧ c ≠ '\n' ∧ c ≠ '\r'

/-- The scheme in lower case, empty if there is none, and what follows it. -/
def splitScheme (cs : List Char) : List Char × List Char :=
  let name := cs.takeWhile (· ≠ ':')
  match cs.dropWhile (· ≠ ':') with
  | [] => ([], cs)
  | _ :: rest =>
    if (name.head?.any Char.isAlpha) && name.all isSchemeChar then (name.map Char.toLower, rest)
    else ([], cs)

/-- The host of an address with its port and user, if two slashes announce one. -/
def hostPart : List Char → List Char
  | '/' :: '/' :: rest => rest.takeWhile fun c => c ≠ '/' ∧ c ≠ '?' ∧ c ≠ '#'
  | _ => []

/-- Whether the characters are a number up to 255 without needless zeros. -/
def isOctet (cs : List Char) : Bool :=
  !cs.isEmpty && cs.all Char.isDigit && cs.length ≤ 3 && (cs = ['0'] || cs.head? ≠ some '0') &&
    cs.foldl (fun n c => 10 * n + (c.toNat - 0x30)) 0 ≤ 255

/-- Whether the characters are an address of four numbers. -/
def isFourPart (cs : List Char) : Bool :=
  let parts := Text.splitChars '.' cs
  parts.length = 4 && parts.all isOctet

/-- Whether the characters are a group of an address in hexadecimal groups. -/
def isGroup (cs : List Char) : Bool :=
  !cs.isEmpty && cs.length ≤ 4 && cs.all Text.isHexDigit

/-- The groups, an address of four numbers at the end counting as two of them. -/
def groups? (parts : List (List Char)) : Option (List (List Char)) :=
  match parts.getLast? with
  | none => none
  | some last =>
    if last.contains '.' then
      if isFourPart last then some (parts.dropLast ++ [['0'], ['0']]) else none
    else some parts

/-- Whether the groups make an address: eight of them, or fewer with one gap, which shows as an empty
group inside. -/
def isGroupAddress (parts : List (List Char)) : Bool :=
  let inner := parts.drop 1 |>.dropLast
  match inner.count [] with
  | 0 => parts.length = 8 && parts.all isGroup
  | 1 =>
    let before := parts.takeWhile (· ≠ [])
    let (head, rest) :=
      if before = [] then ([], parts.drop 2) else (before, parts.drop (before.length + 1))
    let opensWell := before ≠ [] || parts[1]? = some []
    let tail := if rest.getLast? = some [] then rest.dropLast else rest
    let closesWell := rest.getLast? ≠ some [] || tail = []
    opensWell && closesWell && head.all isGroup && tail.all isGroup &&
      head.length + tail.length ≤ 7
  | _ => false

/-- Whether the characters are an address in hexadecimal groups, with an optional zone behind a
percent sign. -/
def isGrouped (cs : List Char) : Bool :=
  let address := cs.takeWhile (· ≠ '%')
  let zoneIsFine := match cs.dropWhile (· ≠ '%') with
    | [] => true
    | _ :: zone => zone ≠ [] && !zone.contains '%'
  let parts := Text.splitChars ':' address
  zoneIsFine && !cs.contains '/' && 3 ≤ parts.length &&
    match groups? parts with
    | none => false
    | some parts => parts.length ≤ 9 && isGroupAddress parts

/-- Whether the characters are an address of a future version: the letter, a hexadecimal number, a
point and something. -/
def isFuture (cs : List Char) : Bool :=
  let number := (cs.drop 1).takeWhile Text.isHexDigit
  match (cs.drop 1).dropWhile Text.isHexDigit with
  | '.' :: rest => number ≠ [] && rest ≠ []
  | _ => false

/-- Checks a host that stands in brackets. -/
def checkName (host : List Char) : Except Fault Unit :=
  if host.head? = some 'v' then
    if isFuture host then .ok () else .error .futureHost
  else if isFourPart host then .error .plainHost
  else if isGrouped host then .ok ()
  else .error (.host (String.ofList host))

/-- What follows the last sign that parts a user from a host, or everything if there is none. -/
def withoutUser (cs : List Char) : List Char :=
  (cs.reverse.takeWhile (· ≠ '@')).reverse

/-- Checks a host, with its port and user, that has brackets: nothing but a port may stand beside them.
When they belong to the user, the host is checked as if it stood in them. -/
def checkBracketed (place : List Char) : Except Fault Unit :=
  match withoutUser place with
  | '[' :: rest =>
    match (rest.dropWhile (· ≠ ']')).drop 1 with
    | [] => checkName (rest.takeWhile (· ≠ ']'))
    | c :: _ => if c = ':' then checkName (rest.takeWhile (· ≠ ']')) else .error .brackets
  | host => if host.contains '[' then .error .brackets else checkName (host.takeWhile (· ≠ ':'))

/-- Characters that, written out, hold a character with a meaning in an address. -/
def deceptive : List Nat :=
  [0x2047, 0x2048, 0x2049, 0x2100, 0x2101, 0x2105, 0x2106, 0x2A74, 0xFE13, 0xFE16, 0xFE55, 0xFE56,
   0xFE5F, 0xFE6B, 0xFF03, 0xFF0F, 0xFF1A, 0xFF1F, 0xFF20]

/-- Checks the host of an address. -/
def checkHost (host : List Char) : Except Fault Unit := do
  if host.contains '[' != host.contains ']' then throw .brackets
  if host.contains '[' then checkBracketed host
  if host.any fun c => deceptive.contains c.toNat then
    throw (.hostCharacters (String.ofList host))

/-- Whether a location is an address on the web. -/
def isAddress (location : String) : Except Fault Bool :=
  let (scheme, rest) := splitScheme (tidy location.toList)
  match checkHost (hostPart rest) with
  | .error fault => .error fault
  | .ok () => .ok (scheme = "http".toList || scheme = "https".toList)

end DistrictAtlas.Location
