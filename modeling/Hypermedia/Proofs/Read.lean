import Hypermedia.Operation.Read
import Hypermedia.Proofs.Service

/-!
# Reading leaves the store

A page of a collection, a page of children and one record are read with calls that change nothing, the
targets of expansions included.
-/

namespace Hypermedia

open Store (Document)
open Service (Keeps)

variable {env : Program.Environment} {P : Store → Prop}

namespace Link

theorem keeps_expand {p : Place} {e : Expansion} : Keeps env P (expand p e) := by
  refine Service.keeps_bind (Service.keeps_ask fun _ => rfl) fun found => ?_
  cases found with
  | some d => exact Service.keeps_pure
  | none => exact Service.keeps_pure

theorem keeps_expandAll {p : Place} (es : List Expansion) : Keeps env P (expandAll p es) := by
  induction es with
  | nil => exact Service.keeps_pure
  | cons e es ih =>
    exact Service.keeps_bind keeps_expand fun _ => Service.keeps_bind ih fun _ => Service.keeps_pure

theorem keeps_resolve {p : Place} {r : Resource} {collection : String} {expands : List String}
    {fields : Option (List String)} (ds : List Document) :
    Keeps env P (resolve p r collection expands fields ds) :=
  Service.keeps_bind (keeps_expandAll _) fun _ => Service.keeps_pure

end Link

namespace Operation

variable {i : Interface} {request : Filter.Request}

theorem keeps_listWhere {r : Resource} {c : Filter.Condition} {base : String} :
    Keeps env P (listWhere i r c request base) := by
  refine Service.keeps_bind (Service.keeps_ask fun _ => rfl) fun found => ?_
  refine Service.keeps_bind (Service.keeps_ask fun _ => rfl) fun size => ?_
  exact Service.keeps_bind (Link.keeps_resolve _) fun items => Service.keeps_pure

theorem keeps_list {r : Resource} : Keeps env P (list i r request) := keeps_listWhere

theorem keeps_listChildren {owner : Resource} {id field : String} :
    Keeps env P (listChildren i owner id field request) := by
  unfold listChildren
  dsimp only
  split
  · split
    · exact Service.keeps_fail
    · split
      · exact Service.keeps_fail
      · exact keeps_listWhere
  · exact Service.keeps_fail

theorem keeps_read {r : Resource} {id : String} : Keeps env P (read i r id request) := by
  refine Service.keeps_bind (Service.keeps_ask fun _ => rfl) fun found => ?_
  cases found with
  | none => exact Service.keeps_fail
  | some d =>
    refine Service.keeps_bind (Link.keeps_resolve _) fun items => ?_
    cases items.getLast? with
    | none => exact Service.keeps_fail
    | some d => exact Service.keeps_pure

end Operation

end Hypermedia
