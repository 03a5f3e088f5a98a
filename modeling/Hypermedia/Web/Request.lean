import Hypermedia.Json.Reader
import Hypermedia.Text.Blank
import Hypermedia.Text.Case
import Hypermedia.Text.Split
import Hypermedia.Web.Media

/-!
# Requests

A request as it comes in: method, target, headers and body. Header names are compared without regard to
case, and of several headers with one name the first counts. A header can be read as text only when it
is visible ASCII.
-/

namespace Hypermedia.Web

structure Request where
  method : String
  target : String
  headers : List (String × String)
  body : String

namespace Request

/-- What follows the scheme and the authority of an absolute target. -/
def afterAuthority : List Char → List Char
  | ':' :: '/' :: '/' :: rest => rest.dropWhile fun c => c ≠ '/' && c ≠ '?'
  | _ :: cs => afterAuthority cs
  | [] => []

/-- Path and query of the target: no scheme, no authority, no fragment. -/
def address (q : Request) : List Char :=
  match q.target.toList.takeWhile (· ≠ '#') with
  | '/' :: cs => '/' :: cs
  | cs => afterAuthority cs

/-- The path of the target, undecoded. -/
def path (q : Request) : List Char := q.address.takeWhile (· ≠ '?')

def query (q : Request) : String := String.ofList ((q.address.dropWhile (· ≠ '?')).drop 1)

/-- A character that a readable header may have. -/
def isVisible (c : Char) : Bool := (32 ≤ c.toNat && c.toNat < 127) || c == '\t'

def rawHeader? (headers : List (String × String)) (name : String) : Option String :=
  (headers.find? fun (n, _) => Text.lowerAscii n == Text.lowerAscii name).map (·.2)

/-- The first header of a name, if it can be read as text. -/
def header? (headers : List (String × String)) (name : String) : Option String :=
  (rawHeader? headers name).filter fun s => s.toList.all isVisible

/-- A header that switches a mode on. -/
def flag (q : Request) (name : String) : Bool :=
  (header? q.headers name).any fun s => Text.trim s == "true"

def named? (q : Request) (name : String) : Option String :=
  ((header? q.headers name).map Text.trim).filter fun s => !s.isEmpty

def declaredLength? (q : Request) : Option Nat :=
  (header? q.headers "content-length").bind Decimal.uint64?

def isJson (q : Request) : Bool := (header? q.headers "content-type").any isJsonType

end Request

/-- The largest body in bytes. -/
def largestBody : Nat := 2 * 1024 * 1024

namespace Request

def declaresTooMuch (q : Request) : Bool := q.declaredLength?.any fun n => largestBody < n

/-- The body is longer than was declared, or than the largest one. -/
def bodyTooLong (q : Request) : Bool :=
  min largestBody (q.declaredLength?.getD largestBody) < q.body.utf8ByteSize

def isBlankBody (q : Request) : Bool :=
  q.body.toList.all fun c => c == ' ' || c == '\t' || c == '\n' || c == '\r' || c.toNat == 12

end Request

end Hypermedia.Web
