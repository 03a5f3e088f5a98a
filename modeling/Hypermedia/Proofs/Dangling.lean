import Hypermedia.Proofs.Relations

/-!
# References to no record

A reference that is not expanded is shown as a link with the value that refers. One that is to be expanded
is looked up by the text of that value; where there is no such record, the link is made of the text, which
is all that is left of the value by then. So both links lead to the same place, and they are equal exactly
where the value is a text itself.
-/

namespace Hypermedia

open Program (Environment World run)
open Store (Document)

namespace Link

variable {s : Store} {p : Place} {r target : Resource} {collection name : String} {relation : Relation}
variable {expands : List String} {fields : Option (List String)} {ds : List Document} {d : Document} {v : Value}

/-- The answer for some records of a store, wherever no call is refused. -/
def Answers (s : Store) (p : Place) (r : Resource) (collection : String) (expands : List String)
    (fields : Option (List String)) (ds outs : List Document) : Prop :=
  ∀ (env : Environment) (w : World), env.Accepts → w.store = s →
    (run env (resolve p r collection expands fields ds).run w).1 = .ok outs

theorem answers_shown : Answers s p r collection expands fields ds
    (ds.map (shown s p r collection expands fields)) := by
  rintro env w henv rfl
  have hend : Service.Ends env w.store (resolve p r collection expands fields ds) _ _ := ends_resolve ds
  obtain ⟨outs, houts, -, rfl⟩ := Service.success_of_accepts henv hend
  exact houts

/-- A link to where a value refers to, with an identity. -/
def reference (p : Place) (target : Resource) (text : String) (id : Value) : Value :=
  .object [("href", .string (p.basePath ++ "/" ++ target.plural ++ "/" ++ text)), ("id", id)]

theorem referenceLink_of_ne_null (p : Place) (target : Resource) (h : v ≠ .null) :
    referenceLink p target.plural v = reference p target v.plainText v := by
  have hnull : ¬ v.isNull = true := fun hnull => h (Value.isNull_iff.mp hnull)
  rw [referenceLink, if_neg hnull, reference]

theorem reference_text_eq_iff (p : Place) (target : Resource) (v : Value) :
    reference p target v.plainText (.string v.plainText) = reference p target v.plainText v ↔
      ∃ t, v = .string t := by
  constructor
  · intro h
    have hid : Value.string v.plainText = v := by simpa [reference] using h
    exact ⟨v.plainText, hid.symm⟩
  · rintro ⟨t, rfl⟩
    rfl

section
variable (hn : (r.relations.map (·.1)).Nodup) (hx : (name, relation) ∈ r.relations)
variable (hc : relation.isChildren = false) (ht : p.registry.get? relation.target = some target)
variable (hv : Members.get? (Document.materialize d) name = some v) (hnull : v ≠ .null)

include hn hx hc ht hv hnull

theorem get?_shown_of_plain (hname : name ∉ expands) :
    Members.get? (shown s p r collection expands fields d) name = some (reference p target v.plainText v) := by
  have hlink : linkAlone p collection expands fields (Document.materialize d) (name, relation) = _ :=
    linkAlone_link (referenced?_of_some hv) hc ht (.inr hname)
  have hvalue : Members.get? (shown s p r collection expands fields d) name = _ :=
    get?_shown_of_relation hn hx d
  rw [hvalue, hlink, ← referenceLink_of_ne_null p target hnull]
  simp [Members.get?_set]

theorem get?_shown_of_dangling (hname : name ∈ expands) (hmissing : s.called target.name v.plainText = none) :
    Members.get? (shown s p r collection expands fields d) name =
      some (reference p target v.plainText (.string v.plainText)) := by
  rw [get?_shown_of_expanded hn hx hv hc ht hnull hname, expanded, hmissing]
  exact congrArg some (referenceLink_of_ne_null p target (by simp))

end

/-- For a registry that was resolved, any store and any records: a reference to no record that is to be
expanded is shown as a link to the same place as the one that is not, with the text of the value that refers
in the place of the value. The two are equal exactly where that value is a text. -/
theorem failed_expansion_shows_text {declarations : List Schema.ResourceDeclaration} {g : Registry}
    (hg : Schema.resolve declarations = .ok g) (hdistinct : Schema.Distinct declarations) {r : Resource}
    (hr : r ∈ g.resources) {name : String} {relation : Relation} (hx : (name, relation) ∈ r.relations)
    (hc : relation.isChildren = false) {named unnamed : List String} (hnamed : name ∈ named)
    (hunnamed : name ∉ unnamed) (base collection : String) (fields : Option (List String)) (s : Store)
    (ds : List Document) :
    ∃ target expanded plain, g.get? relation.target = some target ∧
      Answers s ⟨g, base⟩ r collection named fields ds expanded ∧
      Answers s ⟨g, base⟩ r collection unnamed fields ds plain ∧
      ∀ (k : Nat) (d : Document) (v : Value), ds[k]? = some d →
        Members.get? (Document.materialize d) name = some v → v ≠ .null →
        s.called target.name v.plainText = none →
        ∃ out out', expanded[k]? = some out ∧ plain[k]? = some out' ∧
          Members.get? out' name = some (reference ⟨g, base⟩ target v.plainText v) ∧
          Members.get? out name = some (reference ⟨g, base⟩ target v.plainText (.string v.plainText)) ∧
          (Members.get? out name = Members.get? out' name ↔ ∃ t, v = .string t) := by
  have hshows : Shows g r := shows_of_resolve hg hdistinct hr
  obtain ⟨target, ht⟩ := hshows.targets name relation hx
  refine ⟨target, _, _, ht, answers_shown, answers_shown, fun k d v hd hv hnull hmissing => ?_⟩
  have hplain : Members.get? (shown s ⟨g, base⟩ r collection unnamed fields d) name = _ :=
    get?_shown_of_plain hshows.names hx hc ht hv hnull hunnamed
  have hexpanded : Members.get? (shown s ⟨g, base⟩ r collection named fields d) name = _ :=
    get?_shown_of_dangling hshows.names hx hc ht hv hnull hnamed hmissing
  have hplace : ∀ expands, (ds.map (shown s ⟨g, base⟩ r collection expands fields))[k]? =
      some (shown s ⟨g, base⟩ r collection expands fields d) := by
    intro expands
    rw [List.getElem?_map, hd]
    rfl
  refine ⟨_, _, hplace named, hplace unnamed, hplain, hexpanded, ?_⟩
  rw [hplain, hexpanded, Option.some.injEq]
  exact reference_text_eq_iff ..

/-- A person in a group that is not there, by the value that refers to the group. -/
def stranded (id : String) (group : Value) : Document := [("id", .string id), ("group", group)]

theorem failed_expansion_shows_text_groups :
    Groups.person ∈ Groups.interface.registry.resources ∧
      ("group", Relation.parent "group" "members") ∈ Groups.person.relations ∧
      ∃ expanded plain ann bob ann' bob',
        Answers Store.empty ⟨Groups.interface.registry, "/api"⟩ Groups.person "people" ["group"] none
          [stranded "ann" (.string "ghost"), stranded "bob" (.number (.int 42))] expanded ∧
        Answers Store.empty ⟨Groups.interface.registry, "/api"⟩ Groups.person "people" [] none
          [stranded "ann" (.string "ghost"), stranded "bob" (.number (.int 42))] plain ∧
        expanded[0]? = some ann ∧ plain[0]? = some ann' ∧ expanded[1]? = some bob ∧ plain[1]? = some bob' ∧
        Members.get? ann "group" = Members.get? ann' "group" ∧
        Members.get? bob "group" ≠ Members.get? bob' "group" := by
  have hr : Groups.person ∈ Groups.interface.registry.resources := by simp [Groups.interface]
  have hx : ("group", Relation.parent "group" "members") ∈ Groups.person.relations := by decide
  obtain ⟨target, expanded, plain, ht, hexpanded, hplain, hall⟩ :=
    failed_expansion_shows_text Groups.resolve_declarations Groups.distinct_declarations hr hx rfl
      (List.mem_singleton_self "group") (List.not_mem_nil) "/api" "people" none Store.empty
      [stranded "ann" (.string "ghost"), stranded "bob" (.number (.int 42))]
  obtain rfl : Groups.group = target := Option.some.inj ht
  obtain ⟨ann, ann', hann, hann', -, -, hsame⟩ := hall 0 _ (.string "ghost") rfl rfl (by simp) rfl
  obtain ⟨bob, bob', hbob, hbob', -, -, hdiffer⟩ := hall 1 _ (.number (.int 42)) rfl rfl (by simp) rfl
  exact ⟨hr, hx, expanded, plain, ann, bob, ann', bob', hexpanded, hplain, hann, hann', hbob, hbob',
    hsame.mpr ⟨_, rfl⟩, fun he => by simpa using hdiffer.mp he⟩

/-- The group 42 is not there: the link to it holds the number, or its text if it is to be expanded. -/
theorem failed_expansion_changes_number :
    ∃ out out', (run (Groups.refusing none) (resolve ⟨Groups.interface.registry, ""⟩ Groups.person "people"
          ["group"] none [stranded "ann" (.number (.int 42))]).run { store := Store.empty }).1 = .ok [out] ∧
      (run (Groups.refusing none) (resolve ⟨Groups.interface.registry, ""⟩ Groups.person "people"
          [] none [stranded "ann" (.number (.int 42))]).run { store := Store.empty }).1 = .ok [out'] ∧
      Members.get? out "group" = some (.object [("href", .string "/groups/42"), ("id", .string "42")]) ∧
      Members.get? out' "group" = some (.object [("href", .string "/groups/42"), ("id", .number (.int 42))]) ∧
      Members.get? out "group" ≠ Members.get? out' "group" := by
  refine ⟨_, _, rfl, rfl, rfl, rfl, nofun⟩

end Link

end Hypermedia
