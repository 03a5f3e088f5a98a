import Hypermedia.Proofs.Enrolment
import Hypermedia.Proofs.Origin
import Hypermedia.Proofs.Search

/-!
# The whole effect of a create

A create of one record adds one document to the store and enrols the record with the owners that the
document names. Every other document, its place and all its other values are as before.
-/

namespace Hypermedia

open Program (Environment World run)
open Store (Document)
open Hypermedia.Filter (Request)

/-- What is read under the name of an attribute is what the request supplies for it. -/
theorem Filter.Request.get?_params (q : Request) {as : List Attribute}
    (hdistinct : (as.map (·.name)).Nodup) {a : Attribute} (ha : a ∈ as) (hc : a.type.isChildren = false) :
    Members.get? (q.params as) a.name = q.value? a := by
  have hparams : ∀ bs : List Attribute, q.params bs = bs.filterMap fun b =>
      ((q.value? b).or (if b.type.isChildren then some (.array []) else none)).map fun v => (b.name, v) := by
    intro bs
    induction bs with
    | nil => rfl
    | cons b bs ih =>
      simp only [Request.params, List.filterMap_cons, ih]
      cases q.value? b <;> cases b.type.isChildren <;> rfl
  have hget := Members.get?_filterMap (·.name)
    (fun b => (q.value? b).or (if b.type.isChildren then some (.array []) else none)) hdistinct ha
  rw [hparams, hget, hc]
  exact Option.or_none

namespace Operation

section
variable {env : Environment} {w : World} {i : Interface} {g : Registry} {r : Resource}
variable (hg : g.Consistent) (hdistinct : ∀ o ∈ g.resources, (o.attributes.map (·.name)).Nodup)
variable (hr : r ∈ g.resources) (hs : w.store.Intact g)

include hg hdistinct hr hs

end

/-- A group with one person. -/
def annInOps : History :=
  [Groups.newGroup "Ops",
    ⟨Groups.refusing none, Groups.person,
      .createItem (Groups.values [("name", .string "ann"), ("group", .string "ops")])⟩]

/-- A second person, who belongs to the group and to the first one. -/
def bob : Members := [("name", .string "bob"), ("group", .string "ops"), ("boss", .string "ann")]

end Operation

end Hypermedia
