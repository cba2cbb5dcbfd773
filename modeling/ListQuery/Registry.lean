import ListQuery.Dictionary
import ListQuery.Resource
import ListQuery.Text.Blank
import ListQuery.Text.Case

/-!
# Registries

A registry holds the resources that exist: the defaults with configured lists laid over them.
An override replaces single lists of a resource and keeps the others; under a new name it adds
a resource whose other lists are empty. Look-up trims a name and ignores letter case.
-/

namespace ListQuery

/-- The lists of a resource that are replaced: its allow-lists, and the titles that descriptions
show in place of its name. -/
structure Override where
  fields : Option AllowList
  filter : Option AllowList
  sort : Option AllowList
  titles : Option (List Text)
deriving Repr, DecidableEq

namespace Override

/-- The override that replaces nothing. -/
def unchanged : Override := ⟨none, none, none, none⟩

/-- Whether an override replaces no list. -/
def isUnchanged (override : Override) : Bool :=
  override.fields.isNone && override.filter.isNone && override.sort.isNone &&
    override.titles.isNone

/-- A resource with the lists of an override in the place of its own. -/
def apply (override : Override) (resource : Resource) : Resource :=
  { resource with
    fields := override.fields.getD resource.fields
    filter := override.filter.getD resource.filter
    sort := override.sort.getD resource.sort
    titles := override.titles <|> resource.titles }

/-- An override that also replaces the list of the named kind, unless there is no such kind. -/
def withList? (override : Override) (kind : Text) (texts : List Text) : Option Override :=
  if kind = "fields" then some { override with fields := some texts }
  else if kind = "filter" then some { override with filter := some texts }
  else if kind = "sort" then some { override with sort := some texts }
  else if kind = "name" then some { override with titles := some texts }
  else none

/-- The override with the lists of some named kinds, unless one of them is no kind. -/
def ofLists? (lists : List (Text × List Text)) : Option Override :=
  lists.foldlM (fun override (kind, texts) => override.withList? kind texts) unchanged

end Override

/-- Resources under their names. -/
structure Registry where
  entries : Dictionary Resource
deriving Repr, DecidableEq

namespace Registry

/-- The form of a resource name under which it is looked up. -/
def normalize (name : Text) : Text :=
  Text.lower (Text.trim name)

/-- The registry of the default resources. -/
def defaults : Registry :=
  ⟨Resource.defaults.map fun resource => (resource.name, resource)⟩

/-- The registry with an override of the resource of a name. -/
def extend (registry : Registry) (name : Text) (override : Override) : Registry :=
  let base := (registry.entries.get? name).getD (.bare name)
  ⟨registry.entries.set name (override.apply base)⟩

/-- The default registry with overrides in order. -/
def ofOverrides (overrides : Dictionary Override) : Registry :=
  overrides.foldl (fun registry (name, override) => registry.extend name override) defaults

/-- The resource that a client's spelling of a name refers to. -/
def find? (registry : Registry) (name : Text) : Option Resource :=
  registry.entries.get? (normalize name)

/-- The names of the resources in code point order. -/
def names (registry : Registry) : List Text :=
  Text.sortedDistinct registry.entries.keys

/-- The resources in the order of their names. -/
def resources (registry : Registry) : List Resource :=
  registry.names.filterMap registry.entries.get?

end Registry

end ListQuery
