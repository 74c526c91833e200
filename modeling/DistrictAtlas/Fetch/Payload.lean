import DistrictAtlas.Json.Reader
import DistrictAtlas.Text.Blank
import DistrictAtlas.Text.Casing
import DistrictAtlas.Text.Charset
import DistrictAtlas.Text.Split

/-!
# Payloads

The answer of a server and the text or document in its body. The header that names the type of the
content may name a character set; when it does not, the type itself decides. A body read as a table is
UTF-8 unless the header says something about a character set; for a document without a known character
set one is guessed. What the library does that requests are made with is left open: how it guesses, how
deep a document may be nested, and what it makes of a parameter that lacks its value.
-/

namespace DistrictAtlas

/-- Why a payload was not read. -/
inductive PayloadFault where
  /-- By the name of its character set nothing is read. -/
  | charset (refusal : Charset.Refusal)
  /-- It is no document. -/
  | document (fault : Json.Fault)
deriving DecidableEq, Repr

/-- The answer of a server. -/
structure Response where
  /-- The status code. -/
  status : Int
  /-- The headers in order. -/
  headers : List (String × String) := []
  /-- The payload. -/
  body : Bytes := []
deriving DecidableEq, Repr

namespace Response

/-- The value of the header that names the type of the content, empty if there is none. Case does not
matter in its name, and of several the last one counts. -/
def contentType (response : Response) : String :=
  let named := response.headers.filter fun header => Text.lower header.1 = "content-type"
  (named.getLast?.map (·.2)).getD ""

/-- The characters without the given ones at both ends. -/
def stripChars (ends : List Char) (cs : List Char) : List Char :=
  ((cs.dropWhile ends.contains).reverse.dropWhile ends.contains).reverse

/-- The name that a parameter of a content type gives, and the value, if there is one. -/
def parameter (cs : List Char) : List Char × Option (List Char) :=
  let ends := ['"', '\'', ' ']
  match cs.dropWhile (· ≠ '=') with
  | [] => (Text.lowerChars cs, none)
  | _ :: value =>
    (Text.lowerChars (stripChars ends (cs.takeWhile (· ≠ '='))), some (stripChars ends value))

/-- What the parameters for the character set among those of a content type give, in order: a value or
none. -/
def charsetValues (parameters : List (List Char)) : List (Option (List Char)) :=
  ((parameters.map fun cs => parameter (Text.trimChars cs)).filter fun entry =>
    entry.1 = "charset".toList).map (·.2)

/-- The character set that the parameters of a content type name; the last one counts. -/
def charsetName? (parameters : List (List Char)) : Option String :=
  let named := (charsetValues parameters).filterMap id
  named.getLast?.map fun value => String.ofList (stripChars ['"', '\''] value)

/-- Whether the last parameter for the character set in the type of the content has no value. -/
def hasBareCharset (response : Response) : Bool :=
  (charsetValues (Text.splitChars ';' response.contentType.toList).tail).getLast? = some none

/-- Whether a text holds another one. -/
def holds (part : List Char) : List Char → Bool
  | [] => part.isEmpty
  | c :: rest => part.isPrefixOf (c :: rest) || holds part rest

/-- The name of the character set that a content type leads to, if it leads to one. -/
def charsetOf (contentType : String) : Option String :=
  match Text.splitChars ';' contentType.toList with
  | [] => none
  | kind :: parameters =>
    match charsetName? parameters with
    | some name => some name
    | none =>
      if holds "text".toList kind then some "ISO-8859-1"
      else if holds "application/json".toList kind then some "utf-8"
      else none

/-- The text of the body in the character set of that name. -/
def textIn (response : Response) (name : String) : Except Charset.Refusal String :=
  Charset.readNamed name response.body

/-- The body as a text. -/
def text (response : Response) : Except Charset.Refusal String :=
  if holds "charset".toList (Text.lower response.contentType).toList then
    response.textIn ((charsetOf response.contentType).getD "utf-8")
  else response.textIn "utf-8"

end Response

/-- What is taken from the library that makes requests and reads documents. -/
structure Library where
  /-- How deep a document may be nested. -/
  depth : Nat
  /-- The text of an answer whose character set is not known; it is taken to be whole. -/
  guess : Response → String
  /-- Whether an answer is an error in which the parameter for the character set lacks its value. Where
  it is none, a parameter without a value is passed over. -/
  refusesBare : Bool

/-- The library as it usually is: the first bytes of an answer tell its character set, and bytes that
mean nothing in it are passed over. -/
def Library.standard : Library where
  depth := Json.nestingLimit
  guess response := (Charset.guess response.body).read response.body
  refusesBare := false

namespace Response

/-- The text of the body as a document, of which the character set is guessed if it is not known. -/
def documentText (library : Library) (response : Response) : Except Charset.Refusal String :=
  match charsetOf response.contentType with
  | none => .ok (library.guess response)
  | some "" => .ok (library.guess response)
  | some name => response.textIn name

/-- The body as a document. -/
def document (library : Library) (response : Response) : Except PayloadFault Value := do
  let text ← (response.documentText library).mapError .charset
  (Json.readWithin library.depth text).mapError .document

end Response

end DistrictAtlas
