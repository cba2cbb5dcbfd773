import ListQuery.AllowList

/-!
# Resources

A resource is a named collection that clients list, with one allow-list for each kind of
expression. `Resource.defaults` are those that exist without any configuration. Descriptions show
a resource by its name, or by its titles if it was given some.
-/

namespace ListQuery

/-- The columns that expressions on a resource may name. -/
structure Resource where
  name : Text
  fields : AllowList
  filter : AllowList
  sort : AllowList
  titles : Option (List Text)
deriving Repr, DecidableEq

namespace Resource

/-- The resource of a name with its allow-lists. -/
def named (name : Text) (fields filter sort : AllowList) : Resource :=
  ⟨name, fields, filter, sort, none⟩

/-- The resource of a name whose lists are empty. -/
def bare (name : Text) : Resource := .named name [] [] []

/-- The texts of a description of a resource. -/
def texts (resource : Resource) : List Text :=
  resource.titles.getD [resource.name] ++ resource.fields ++ resource.filter ++ resource.sort

/-- The resources that exist without configuration. -/
def defaults : List Resource := [
    .named "users"
      ["id", "first_name", "last_name", "email", "disabled", "created_at", "updated_at"]
      ["id", "first_name", "last_name", "email", "disabled", "created_at", "updated_at"]
      ["id", "first_name", "last_name", "email", "disabled", "created_at", "updated_at"],
    .named "roles"
      ["id", "policy", "name", "description", "system", "auto_assign", "created_at",
        "updated_at"]
      ["id", "name", "system", "auto_assign", "created_at", "updated_at"]
      ["id", "name", "system", "auto_assign", "created_at", "updated_at"],
    .named "policies"
      ["id", "name", "description", "allowed_action", "allowed_resource", "system",
        "created_at", "updated_at"]
      ["id", "name", "allowed_action", "allowed_resource", "system", "created_at", "updated_at"]
      ["id", "name", "allowed_action", "allowed_resource", "system", "created_at", "updated_at"],
    .named "resources"
      ["id", "name", "description", "action", "resource", "system", "created_at", "updated_at"]
      ["id", "name", "action", "resource", "system", "created_at", "updated_at"]
      ["id", "name", "action", "resource", "system", "created_at", "updated_at"],
    .named "projects"
      ["id", "name", "description", "disabled", "created_at", "updated_at"]
      ["id", "name", "disabled", "created_at", "updated_at"]
      ["id", "name", "disabled", "created_at", "updated_at"],
    .named "products"
      ["id", "name", "description", "price", "currency", "created_at", "updated_at"]
      ["id", "name", "price", "currency", "created_at", "updated_at"]
      ["id", "name", "price", "currency", "created_at", "updated_at"] ]

end Resource

end ListQuery
