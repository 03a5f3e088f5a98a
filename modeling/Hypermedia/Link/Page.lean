import Hypermedia.Filter.Request
import Hypermedia.Json.Value

/-!
# Pages

A window of a collection with links to the windows around it: the first, the last, the one before and
the one after. An empty collection has no links.
-/

namespace Hypermedia.Link

/-- A window of a collection. -/
structure Page (α : Type) where
  offset : Nat
  limit : Nat
  size : Nat
  first : Option String
  last : Option String
  prev : Option String
  next : Option String
  items : List α

def windowLink (base : String) (limit offset : Nat) : String :=
  base ++ "?offset=" ++ toString offset ++ "&limit=" ++ toString limit

/-- The page of a window on a collection of `size` records. A window is never empty by its limit, and
one whose end is beyond 64 bits has no next one. -/
def page {α : Type} (base : String) (w : Filter.Window) (size : Nat) (items : List α) : Page α :=
  let limit := max w.limit 1
  let link := windowLink base limit
  let stop := w.offset + limit
  { offset := w.offset
    limit
    size
    first := if 0 < size then some (link 0) else none
    last := if 0 < size then some (link ((size - 1) / limit * limit)) else none
    prev := if 0 < size ∧ w.offset ≠ 0 then some (link (w.offset - limit)) else none
    next := if stop < Decimal.twoTo 64 ∧ stop < size then some (link stop) else none
    items }

def Page.toValue (p : Page Value) : Value :=
  .object [
    ("offset", .nat p.offset), ("limit", .nat p.limit), ("size", .nat p.size),
    ("first", .ofString? p.first), ("last", .ofString? p.last), ("prev", .ofString? p.prev),
    ("next", .ofString? p.next), ("items", .array p.items)]

def Page.ofDocuments (p : Page Members) : Value :=
  Page.toValue { p with items := p.items.map .object }

end Hypermedia.Link
