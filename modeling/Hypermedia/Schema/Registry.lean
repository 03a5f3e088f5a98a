import Hypermedia.Schema.Declaration
import Hypermedia.Schema.Plural
import Hypermedia.Text.Split

/-!
# The registry

Resources with their collections' names and resolved relations. A registry is made from declarations
that are consistent: names fit into paths and do not share one, no attribute has a reserved name, and
every relation points at something that exists.
-/

namespace Hypermedia

structure Resource where
  name : String
  /-- The path segment of the collection. -/
  plural : String
  attributes : List Attribute

namespace Resource

def attribute? (r : Resource) (name : String) : Option Attribute :=
  r.attributes.find? (·.name == name)

/-- The names of the attributes that make up the identity, in order. -/
def uniqueFields (r : Resource) : List String := (r.attributes.filter (·.unique)).map (·.name)

def textFields (r : Resource) : List String := (r.attributes.filter (·.text)).map (·.name)

def relations (r : Resource) : List (String × Relation) :=
  r.attributes.filterMap fun a => a.type.relation?.map (a.name, ·)

/-- The attribute that points at `field` of `owner`. -/
def parentAttribute? (r : Resource) (owner field : String) : Option Attribute :=
  r.attributes.find? fun a => a.type == .relation (.parent owner field)

/-- The identity, the declared attributes and the two times. -/
def allAttributes (r : Resource) : List Attribute :=
  { name := idField, type := .string } :: r.attributes ++
    [{ name := createdAtField, type := .date }, { name := updatedAtField, type := .date }]

def fieldNames (r : Resource) : List String := r.allAttributes.map (·.name)

end Resource

/-- Resources in declared order. -/
structure Registry where
  resources : List Resource

namespace Registry

def get? (g : Registry) (name : String) : Option Resource := g.resources.find? (·.name == name)

def byPath? (g : Registry) (plural : String) : Option Resource :=
  g.resources.find? (·.plural == plural)

end Registry

namespace Schema

inductive Error where
  | missingReference (name : String)
  | invalidRelation (resource field relation : String)
  | reservedAttribute (resource field : String)
  | duplicatePathSegment (segment : String)
  | load (text : String)
  | invalid (text : String)
  deriving DecidableEq

def Error.message : Error → String
  | missingReference name => "missing reference: resource '" ++ name ++ "'"
  | invalidRelation resource field relation =>
    "invalid relation '" ++ relation ++ "' on " ++ resource ++ "." ++ field
  | reservedAttribute resource field =>
    "attribute name '" ++ field ++ "' on " ++ resource ++ " is reserved"
  | duplicatePathSegment segment => "duplicate path segment: " ++ segment
  | load text => "config load: " ++ text
  | invalid text => "validation: " ++ text

/-- The names that no attribute may have. -/
def reserved : List String := [idField, createdAtField, updatedAtField, searchField]

def kindOf? (ds : List ResourceDeclaration) (resource field : String) : Option Kind :=
  (ds.find? (·.1 == resource)).bind fun (_, attrs) =>
    (attrs.find? (·.1 == field)).map (·.2.kind)

def isDeclared (ds : List ResourceDeclaration) (resource : String) : Bool := ds.any (·.1 == resource)

/-- A relation names a declared resource, and a parent relation one of its children attributes. -/
def checkRelation (ds : List ResourceDeclaration) (resource field : String)
    (a : AttributeDeclaration) : Except Error Unit :=
  let missing : Error := .invalidRelation resource field ""
  let target : Except Error Unit :=
    match a.relation with
    | none => .error missing
    | some t => if isDeclared ds t then .ok () else .error (.missingReference t)
  match a.kind with
  | .children => target
  | .reference => target
  | .parent =>
    match a.relation with
    | none => .error missing
    | some r =>
      match Text.splitFirst '.' r with
      | none => .error (.invalidRelation resource field r)
      | some (owner, inverse) =>
        if ¬ isDeclared ds owner then .error (.missingReference owner)
        else if kindOf? ds owner inverse = some .children then .ok ()
        else .error (.invalidRelation resource field r)
  | _ => .ok ()

/-- Every attribute has a free name and a good relation. -/
def checkAttributes (ds : List ResourceDeclaration) (resource : String) :
    List (String × AttributeDeclaration) → Except Error Unit
  | [] => .ok ()
  | (name, a) :: rest =>
    if reserved.contains name then .error (.reservedAttribute resource name)
    else
      match checkRelation ds resource name a with
      | .error e => .error e
      | .ok () => checkAttributes ds resource rest

/-- Every resource has a name that fits into a path, a plural of its own and good attributes; `plurals`
are those of the resources before. -/
def checkResources (ds : List ResourceDeclaration) (plurals : List String) :
    List ResourceDeclaration → Except Error Unit
  | [] => .ok ()
  | (name, attrs) :: rest =>
    let plural := Plural.ofName name
    if name.isEmpty ∨ name.toList.contains '/' then
      .error (.invalid ("invalid resource name '" ++ name ++ "'"))
    else if plurals.contains plural then .error (.duplicatePathSegment plural)
    else
      match checkAttributes ds name attrs with
      | .error e => .error e
      | .ok () => checkResources ds (plural :: plurals) rest

/-- The declarations are consistent; the first fault in document order is reported. -/
def check (ds : List ResourceDeclaration) : Except Error Unit :=
  if ds.isEmpty then .error (.invalid "at least one resource required") else checkResources ds [] ds

def fieldType (name : String) (a : AttributeDeclaration) : Except Error FieldType :=
  let relation := a.relation.getD ""
  match a.kind with
  | .string => .ok .string
  | .number => .ok .number
  | .boolean => .ok .boolean
  | .date => .ok .date
  | .geometry => .ok .geometry
  | .children => .ok (.relation (.children relation))
  | .reference => .ok (.relation (.reference relation))
  | .parent =>
    match Text.splitFirst '.' relation with
    | some (owner, field) => .ok (.relation (.parent owner field))
    | none => .error (.invalidRelation "" name relation)

def resolveAttribute (name : String) (a : AttributeDeclaration) : Except Error Attribute :=
  (fieldType name a).map fun type =>
    { name, type, default := a.default, required := a.required, unique := a.unique, text := a.text
      desc := a.desc, rules := a.rules }

def resolveAttributes : List (String × AttributeDeclaration) → Except Error (List Attribute)
  | [] => .ok []
  | (name, a) :: rest => do
    let first ← resolveAttribute name a
    let others ← resolveAttributes rest
    pure (first :: others)

def resolveResources : List ResourceDeclaration → Except Error (List Resource)
  | [] => .ok []
  | (name, attrs) :: rest => do
    let attributes ← resolveAttributes attrs
    let resources ← resolveResources rest
    pure ({ name, plural := Plural.ofName name, attributes } :: resources)

/-- The registry of consistent declarations. -/
def resolve (ds : List ResourceDeclaration) : Except Error Registry := do
  check ds
  let resources ← resolveResources ds
  pure ⟨resources⟩

end Schema

end Hypermedia
