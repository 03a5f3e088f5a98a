/-!
# Patterns

Regular expressions over characters. A pattern is run on a set of positions of a text, where position
`i` stands before character `i`; the answer is the set of positions where a match that began at one of
them may end. Sets of positions are ascending lists.
-/

namespace Hypermedia

inductive Regex where
  | empty
  | one (accepts : Char → Bool)
  | look (holds : Option Char → Option Char → Bool)
  | seq (a b : Regex)
  | alt (a b : Regex)
  | repeated (a : Regex) (least : Nat) (most : Option Nat)

namespace Regex

/-- An ascending list without its repetitions. -/
def squeeze : List Nat → List Nat
  | [] => []
  | [i] => [i]
  | i :: j :: rest => if i = j then squeeze (j :: rest) else i :: squeeze (j :: rest)

def join (s t : List Nat) : List Nat := squeeze (s.merge t)

/-- A function applied so many times; it stops at the empty set. -/
def iterate (f : List Nat → List Nat) : Nat → List Nat → List Nat
  | 0, s => s
  | n + 1, s => if s.isEmpty then s else iterate f n (f s)

/-- All positions reached from `fresh` in at most so many applications, added to `seen`. -/
def grow (f : List Nat → List Nat) : Nat → List Nat → List Nat → List Nat
  | 0, seen, _ => seen
  | n + 1, seen, fresh =>
    let next := (f fresh).filter fun i => !seen.contains i
    if next.isEmpty then seen else grow f n (join seen next) next

def before (text : Array Char) (i : Nat) : Option Char := if i = 0 then none else text[i - 1]?

/-- Where matches that begin in a set of positions may end. More repetitions than the text has
positions reach nothing new. -/
def ends (text : Array Char) : Regex → List Nat → List Nat
  | empty, s => s
  | one accepts, s => (s.filter fun i => text[i]?.any accepts).map (· + 1)
  | look holds, s => s.filter fun i => holds (before text i) text[i]?
  | seq a b, s => ends text b (ends text a s)
  | alt a b, s => join (ends text a s) (ends text b s)
  | repeated a least most, s =>
    let cap := text.size + 1
    let start := iterate (ends text a) (min least cap) s
    grow (ends text a) (most.elim cap fun m => min (m - least) cap) start start

/-- The pattern matches somewhere in a text. -/
def matchesIn (r : Regex) (s : String) : Bool :=
  let text := s.toList.toArray
  !(ends text r (List.range (text.size + 1))).isEmpty

def sequence (rs : List Regex) : Regex :=
  match rs with
  | [] => empty
  | [r] => r
  | r :: rs => seq r (sequence rs)

def choice (rs : List Regex) : Regex :=
  match rs with
  | [] => empty
  | [r] => r
  | r :: rs => alt r (choice rs)

theorem mem_squeeze (i : Nat) (s : List Nat) : i ∈ squeeze s ↔ i ∈ s := by
  fun_induction squeeze s with
  | case1 => rfl
  | case2 => rfl
  | case3 j rest ih => simp [ih]
  | case4 j k rest h ih => simp [ih]

theorem mem_join (i : Nat) (s t : List Nat) : i ∈ join s t ↔ i ∈ s ∨ i ∈ t := by
  simp [join, mem_squeeze, List.mem_merge]

/-- A match of a sequence passes a position where its first part ends. -/
theorem ends_seq (text : Array Char) (a b : Regex) (s : List Nat) :
    ends text (seq a b) s = ends text b (ends text a s) := rfl

end Regex

end Hypermedia
