import Hypermedia.Store.Collections
import Hypermedia.Time.Instant

/-!
# Programs

An operation as the sequence of steps that it takes: calls of the store, each atomic and each able to
fail, readings of the clock, and random draws. Running a program on a store takes its environment from
outside: which calls are refused, what the clock shows, what is drawn.
-/

namespace Hypermedia

inductive Call where
  | find (collection : String) (c : Filter.Condition) (o : Store.Options)
  | count (collection : String) (c : Filter.Condition)
  | first (collection : String) (c : Filter.Condition) (fields : Option (List String))
  | patchFirst (collection : String) (c : Filter.Condition) (patch : Store.Document)
  | removeFirst (collection : String) (c : Filter.Condition)
  | save (collection : String) (d : Store.Document)
  | remove (collection : String) (id : String)

namespace Call

/-- What a successful call answers. -/
def Answer : Call → Type
  | find .. => List Store.Document
  | count .. => Nat
  | first .. => Option Store.Document
  | patchFirst .. => Option Store.Document
  | removeFirst .. => Option Store.Document
  | save .. => Unit
  | remove .. => Unit

/-- The answer of a store to a call, and the store after it. -/
def perform (s : Store) : (c : Call) → Except Store.Error c.Answer × Store
  | find collection c o => (s.find collection c o, s)
  | count collection c => (s.count collection c, s)
  | first collection c fields => (s.first collection c fields, s)
  | patchFirst collection c patch =>
    match s.patchFirst collection c patch with
    | .ok (d, s') => (.ok d, s')
    | .error e => (.error e, s)
  | removeFirst collection c =>
    match s.removeFirst collection c with
    | .ok (d, s') => (.ok d, s')
    | .error e => (.error e, s)
  | save collection d =>
    match s.save collection d with
    | .ok s' => (.ok (), s')
    | .error e => (.error e, s)
  | remove collection id => (.ok (), s.remove collection id)

end Call

/-- A sequence of steps that ends with an answer. -/
inductive Program (α : Type) where
  | done (a : α)
  | call (c : Call) (next : Except Store.Error c.Answer → Program α)
  | now (next : Time.Instant → Program α)
  | draw (next : Float → Program α)

namespace Program

def bind {α β : Type} : Program α → (α → Program β) → Program β
  | done a, f => f a
  | call c next, f => call c fun r => (next r).bind f
  | now next, f => now fun t => (next t).bind f
  | draw next, f => draw fun x => (next x).bind f

instance : Monad Program where
  pure := done
  bind := bind

/-- What decides the outcome of a program beside the store: the reason to refuse a call, the clock and
the draws, each by the number of such steps before. -/
structure Environment where
  refusal : Nat → Call → Option String
  clock : Nat → Time.Instant
  random : Nat → Float

/-- A store with the numbers of steps that were taken so far. -/
structure World where
  store : Store
  calls : Nat := 0
  readings : Nat := 0
  draws : Nat := 0

/-- One call in a world: refused before it does anything, or performed. -/
def answer (env : Environment) (w : World) (c : Call) : Except Store.Error c.Answer × World :=
  let w := { w with calls := w.calls + 1 }
  match env.refusal (w.calls - 1) c with
  | some reason => (.error (.unavailable reason), w)
  | none =>
    let (r, s) := c.perform w.store
    (r, { w with store := s })

def run {α : Type} (env : Environment) : Program α → World → α × World
  | done a, w => (a, w)
  | call c next, w => let (r, w) := answer env w c; run env (next r) w
  | now next, w => run env (next (env.clock w.readings)) { w with readings := w.readings + 1 }
  | draw next, w => run env (next (env.random w.draws)) { w with draws := w.draws + 1 }

theorem run_bind {α β : Type} (env : Environment) (p : Program α) (f : α → Program β) (w : World) :
    run env (p.bind f) w = run env (f (run env p w).1) (run env p w).2 := by
  induction p generalizing w with
  | done a => rfl
  | call c next ih => simp [bind, run, ih]
  | now next ih => simp [bind, run, ih]
  | draw next ih => simp [bind, run, ih]

end Program

end Hypermedia
