/-!
# JSON values

Values with their members in document order. A number is an integer or a binary64 float, and the two
stay apart: `1` and `1.0` are different values, though they compare as equal numbers. Two objects are
the same when they have the same members in any order.
-/

namespace Hypermedia

/-- A number as written: integers of 64 bits are kept exactly, all else is binary64. -/
inductive Number where
  | int (n : Int)
  | float (x : Float)

namespace Number

def toFloat : Number → Float
  | int n => Float.ofInt n
  | float x => x

/-- The same number in the same form. -/
def same : Number → Number → Bool
  | int m, int n => m == n
  | float x, float y => x == y
  | _, _ => false

/-- A float as a number; infinities and "not a number" are none. -/
def ofFloat? (x : Float) : Option Number := if x.isFinite then some (float x) else none

end Number

/-- A JSON value; members keep their order. -/
inductive Value where
  | null
  | bool (b : Bool)
  | number (n : Number)
  | string (s : String)
  | array (items : List Value)
  | object (members : List (String × Value))
  deriving Inhabited

/-- Named values in order, each name once. -/
abbrev Members := List (String × Value)

namespace Members

def get? : List (String × Value) → String → Option Value
  | [], _ => none
  | (k, v) :: ms, key => if k = key then some v else get? ms key

def has (ms : List (String × Value)) (key : String) : Bool := (get? ms key).isSome

def keys (ms : List (String × Value)) : List String := ms.map (·.1)

/-- A value under a name: in the place of the old one, or at the end. -/
def set : List (String × Value) → String → Value → List (String × Value)
  | [], key, v => [(key, v)]
  | (k, w) :: ms, key, v => if k = key then (key, v) :: ms else (k, w) :: set ms key v

def erase (ms : List (String × Value)) (key : String) : List (String × Value) :=
  ms.filter (·.1 ≠ key)

/-- The members of `patch` set one after another. -/
def merge (ms patch : List (String × Value)) : List (String × Value) :=
  patch.foldl (fun acc (k, v) => set acc k v) ms

def restrict (ms : List (String × Value)) (names : List String) : List (String × Value) :=
  ms.filter fun (k, _) => names.contains k

theorem get?_set (ms : List (String × Value)) (a b : String) (v : Value) :
    get? (set ms a v) b = if a = b then some v else get? ms b := by
  induction ms with
  | nil => simp [set, get?]
  | cons m ms ih =>
    obtain ⟨k, w⟩ := m
    by_cases hk : k = a
    · subst hk
      by_cases hb : k = b <;> simp [set, get?, hb]
    · by_cases hb : k = b
      · subst hb
        simp [set, get?, hk, Ne.symm hk]
      · simp [set, get?, hk, hb, ih]

theorem get?_isSome_iff (ms : List (String × Value)) (key : String) :
    (get? ms key).isSome ↔ key ∈ keys ms := by
  induction ms with
  | nil => simp [get?, keys]
  | cons m ms ih =>
    obtain ⟨k, w⟩ := m
    by_cases hk : k = key
    · simp [get?, keys, hk]
    · simp only [keys] at ih
      simp [get?, keys, hk, ih, Ne.symm hk]

end Members

namespace Value

mutual

/-- The same value; objects may list their members in any order. -/
def same : Value → Value → Bool
  | null, null => true
  | bool a, bool b => a == b
  | number m, number n => m.same n
  | string s, string t => s == t
  | array xs, array ys => sameItems xs ys
  | object ms, object ns => ms.length == ns.length && sameMembers ms ns
  | _, _ => false

def sameItems : List Value → List Value → Bool
  | [], [] => true
  | x :: xs, y :: ys => same x y && sameItems xs ys
  | _, _ => false

def sameMembers : List (String × Value) → List (String × Value) → Bool
  | [], _ => true
  | (k, v) :: ms, ns =>
    (match Members.get? ns k with
      | some w => same v w
      | none => false) && sameMembers ms ns

end

def string? : Value → Option String
  | string s => some s
  | _ => none

def float? : Value → Option Float
  | number n => some n.toFloat
  | _ => none

def items? : Value → Option (List Value)
  | array xs => some xs
  | _ => none

def members? : Value → Option Members
  | object ms => some ms
  | _ => none

def isNull : Value → Bool
  | null => true
  | _ => false

def nat (n : Nat) : Value := number (.int n)

def ofString? : Option String → Value
  | some s => string s
  | none => null

end Value

end Hypermedia
