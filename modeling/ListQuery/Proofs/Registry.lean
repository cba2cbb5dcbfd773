import ListQuery.Proofs.Dictionary
import ListQuery.Proofs.Except
import ListQuery.Proofs.Text.LowerCase
import ListQuery.Proofs.Text.Order
import ListQuery.Settings

/-!
# Registries

A registry keeps every resource under its own name, whatever overrides are laid over the defaults.
So the resource that a name refers to has the form of that name under which it was looked up, which
is a form that looking up does not change. Overrides of different names do not meet: what is kept
under a name is the default resource with the override of that name.
-/

namespace ListQuery

namespace Resource

/-- The default resource of a name, or else one with empty lists. -/
def standard (name : Text) : Resource :=
  (defaults.find? (·.name = name)).getD (.bare name)

/-- A default resource has no titles, and neither has one with empty lists. -/
theorem titles_standard (name : Text) : (standard name).titles = none := by
  have untitled : ∀ resource ∈ defaults, resource.titles = none := by decide +kernel
  unfold standard
  cases found : defaults.find? (·.name = name) with
  | none => rfl
  | some resource => exact untitled resource (List.mem_of_find?_eq_some found)

end Resource

namespace Registry

/-- Every resource is kept under its own name. -/
def Keyed (registry : Registry) : Prop :=
  ∀ entry ∈ registry.entries, entry.2.name = entry.1

/-- The names of the default resources are in normal form. -/
theorem normalize_defaults :
    ∀ resource ∈ Resource.defaults, normalize resource.name = resource.name := by
  decide +kernel

/-- The default resources are kept under their names. -/
theorem keyed_defaults : defaults.Keyed := by
  intro entry member
  obtain ⟨resource, -, rfl⟩ := List.mem_map.1 member
  rfl

/-- An override leaves a resource its name. -/
theorem Keyed.extend {registry : Registry} (keyed : registry.Keyed) (name : Text)
    (override : Override) : (registry.extend name override).Keyed := by
  intro entry member
  rcases Dictionary.mem_set member with rfl | kept
  · show ((registry.entries.get? name).getD (.bare name)).name = name
    cases found : registry.entries.get? name with
    | none => rfl
    | some resource => exact keyed _ (Dictionary.mem_of_get? found)
  · exact keyed entry kept

/-- Overrides leave resources their names. -/
theorem keyed_ofOverrides (overrides : Dictionary Override) : (ofOverrides overrides).Keyed := by
  have folded : ∀ registry : Registry, registry.Keyed →
      (overrides.foldl (fun registry entry => registry.extend entry.1 entry.2) registry).Keyed := by
    induction overrides with
    | nil => exact fun registry keyed => keyed
    | cons override rest ih => exact fun registry keyed => ih _ (keyed.extend _ _)
  exact folded defaults keyed_defaults

/-- The resource that a name refers to is named by the normal form of that name. -/
theorem Keyed.name_of_find? {registry : Registry} (keyed : registry.Keyed) {name : Text}
    {resource : Resource} (found : registry.find? name = some resource) :
    resource.name = normalize name :=
  keyed _ (Dictionary.mem_of_get? found)

/-- Names are in normal form once they have been brought into it. -/
@[simp] theorem normalize_normalize (name : Text) :
    normalize (normalize name) = normalize name := by
  have bare := Text.bare_lower (Text.bare_trim name)
  rw [normalize, normalize, Text.trim_of_bare bare, Text.lower_lower]

/-- The default resource of a name. -/
theorem get?_defaults (name : Text) :
    defaults.entries.get? name = Resource.defaults.find? (·.name = name) := by
  unfold defaults
  induction Resource.defaults with
  | nil => rfl
  | cons resource rest ih =>
    rw [List.map_cons, Dictionary.get?_cons, ih, List.find?_cons]
    split <;> simp_all

/-- The names of a registry are those under which it keeps a resource. -/
theorem mem_names_iff {registry : Registry} {name : Text} :
    name ∈ registry.names ↔ ∃ resource, registry.entries.get? name = some resource :=
  Text.mem_sortedDistinct.trans Dictionary.mem_keys_iff

/-- The resources of a registry are those that it keeps under a name. -/
theorem mem_resources_iff {registry : Registry} {resource : Resource} :
    resource ∈ registry.resources ↔ ∃ name, registry.entries.get? name = some resource := by
  rw [resources, List.mem_filterMap]
  exact exists_congr fun name => and_iff_right_of_imp fun found => mem_names_iff.2 ⟨_, found⟩

/-- What a registry keeps under a name after overrides of different names. -/
theorem get?_extend_all {overrides : Dictionary Override} (distinct : overrides.keys.Nodup)
    (registry : Registry) (name : Text) :
    (overrides.foldl (fun registry entry => registry.extend entry.1 entry.2)
        registry).entries.get? name =
      match overrides.get? name with
      | some override => some (override.apply ((registry.entries.get? name).getD (.bare name)))
      | none => registry.entries.get? name := by
  induction overrides generalizing registry with
  | nil => rfl
  | cons first rest ih =>
    obtain ⟨key, override⟩ := first
    obtain ⟨absent, others⟩ := List.nodup_cons.1 distinct
    rw [List.foldl_cons, ih others, Dictionary.get?_cons]
    simp only [extend, Dictionary.get?_set]
    by_cases same : key = name
    · subst same
      have nothing : Dictionary.get? rest key = none :=
        Option.eq_none_iff_forall_ne_some.2 fun _ found =>
          absent (Dictionary.mem_keys_iff.2 ⟨_, found⟩)
      rw [nothing, if_pos rfl, if_pos rfl]
    · rw [if_neg same, if_neg same]

/-- Overrides of different names are laid over the default resources of these names. -/
theorem get?_ofOverrides {overrides : Dictionary Override} (distinct : overrides.keys.Nodup)
    (name : Text) : (ofOverrides overrides).entries.get? name =
      match overrides.get? name with
      | some override => some (override.apply (.standard name))
      | none => Resource.defaults.find? (·.name = name) := by
  rw [← get?_defaults, Resource.standard, ← get?_defaults]
  exact get?_extend_all distinct defaults name

end Registry

/-- The registry of every environment keeps resources under their names. -/
theorem Settings.keyed_registry {settings : Settings} {environment : Environment}
    {room : Json.Room} {registry : Registry}
    (built : settings.registry environment room = .ok registry) : registry.Keyed := by
  obtain ⟨overrides, -, rfl⟩ := map_eq_ok_iff.1 built
  exact Registry.keyed_ofOverrides overrides

end ListQuery
