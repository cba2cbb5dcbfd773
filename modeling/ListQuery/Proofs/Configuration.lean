import ListQuery.Proofs.Json.Room
import ListQuery.Proofs.Registry

/-!
# Configured resources

The configuration of the resources is a JSON object whose members are objects in turn. A member is
usable if it gives a list of texts for some kind of allow-list. Names are brought into normal form,
so several members can be about one resource, and then the last usable one decides. `Reflects` says
what a registry holds that was built from such an object, and that looking up agrees with the names
that the registry lists.
-/

namespace ListQuery

/-! ## Kinds of lists -/

/-- The kinds of allow-lists. -/
inductive ListKind where
  | fields
  | filter
  | sort
deriving Repr, DecidableEq

/-- The name of a kind in configuration. -/
def ListKind.name : ListKind → Text
  | fields => "fields"
  | filter => "filter"
  | sort => "sort"

/-- The allow-list of a kind. -/
def Resource.list (resource : Resource) : ListKind → AllowList
  | .fields => resource.fields
  | .filter => resource.filter
  | .sort => resource.sort

/-- The list of a kind in an override. -/
def Override.list (override : Override) : ListKind → Option AllowList
  | .fields => override.fields
  | .filter => override.filter
  | .sort => override.sort

/-- An override puts its lists in the place of those of a resource. -/
@[simp] theorem Override.list_apply (override : Override) (resource : Resource)
    (kind : ListKind) :
    (override.apply resource).list kind = (override.list kind).getD (resource.list kind) := by
  cases kind <;> rfl

/-- An override replaces nothing exactly if it has neither a list of some kind nor titles. -/
theorem Override.isUnchanged_iff {override : Override} : override.isUnchanged = true ↔
    (∀ kind, override.list kind = none) ∧ override.titles = none := by
  simp only [isUnchanged, Bool.and_eq_true, Option.isNone_iff_eq_none]
  constructor
  · rintro ⟨⟨⟨fields, filter⟩, sort⟩, titles⟩
    refine ⟨fun kind => ?_, titles⟩
    cases kind <;> assumption
  · rintro ⟨lists, titles⟩
    exact ⟨⟨⟨lists .fields, lists .filter⟩, lists .sort⟩, titles⟩

/-! ## Members -/

/-- A member gives columns for a kind: it is an object with an array of texts under the name of the
kind, and the columns are these texts trimmed, without those that are blank. -/
def Gives (value : Json.Value) (kind : ListKind) (columns : AllowList) : Prop :=
  ∃ (members : List (Text × Json.Value)) (texts : List Text), value = .object members ∧
    (Dictionary.ofPairs members).get? kind.name = some (.array (texts.map .text)) ∧
    columns = (texts.map Text.trim).filter (· ≠ [])

/-- A member gives columns for some kind. -/
def IsUsable (value : Json.Value) : Prop :=
  ∃ kind columns, Gives value kind columns

/-- An override has the columns that a member gives, and nothing else. -/
structure Override.Describes (override : Override) (value : Json.Value) : Prop where
  lists : ∀ kind columns, override.list kind = some columns ↔ Gives value kind columns
  untitled : override.titles = none

/-- The members of the object that a text configures; none if the text is no object. -/
def configured (text : Text) : Dictionary Json.Value :=
  match Json.ofText .endless (Text.trim text) with
  | .ok (.object members) => Dictionary.ofPairs members
  | _ => []

/-- The texts of an array that holds nothing else. -/
theorem Json.Value.texts?_eq_some_iff {value : Json.Value} {texts : List Text} :
    value.texts? = some texts ↔ value = .array (texts.map .text) := by
  cases value with
  | array elements =>
    rw [texts?, mapM_eq_some_iff, array.injEq]
    constructor
    · intro each
      rw [← List.forall₂_eq_eq_eq, List.forall₂_map_right_iff]
      refine each.imp fun element text found => ?_
      cases element <;> simp_all
    · rintro rfl
      rw [List.forall₂_map_left_iff, List.forall₂_same]
      exact fun _ _ => rfl
  | _ => simp [texts?]

/-- The columns of an array of texts. -/
theorem Settings.columns?_eq_some_iff {value : Json.Value} {columns : AllowList} :
    columns? value = some columns ↔
      ∃ texts : List Text, value = .array (texts.map .text) ∧
        columns = (texts.map Text.trim).filter (· ≠ []) := by
  rw [columns?, Option.map_eq_some_iff]
  exact exists_congr fun texts => by rw [Json.Value.texts?_eq_some_iff, eq_comm (b := columns)]

/-- The columns that an object gives. -/
theorem gives_object_iff {members : List (Text × Json.Value)} {kind : ListKind}
    {columns : AllowList} : Gives (.object members) kind columns ↔
      ((Dictionary.ofPairs members).get? kind.name).bind Settings.columns? = some columns := by
  simp only [Option.bind_eq_some_iff, Settings.columns?_eq_some_iff]
  constructor
  · rintro ⟨_, texts, same, found, rfl⟩
    cases same
    exact ⟨_, found, texts, rfl, rfl⟩
  · rintro ⟨_, found, texts, rfl, rfl⟩
    exact ⟨members, texts, rfl, found, rfl⟩

/-- The override of a usable member, under the normal form of its name. -/
theorem Settings.exists_namedOverride? {member : Text × Json.Value} (usable : IsUsable member.2) :
    ∃ override, namedOverride? member = some (Registry.normalize member.1, override) := by
  obtain ⟨name, value⟩ := member
  obtain ⟨kind, columns, members, texts, rfl, found, same⟩ := usable
  have given := gives_object_iff.1 ⟨members, texts, rfl, found, same⟩
  rw [namedOverride?, override?]
  split
  · rename_i unchanged
    have nothing := (Override.isUnchanged_iff.1 unchanged).1 kind
    cases kind <;> cases nothing.symm.trans given
  · exact ⟨_, rfl⟩

/-- An override comes from a usable member, and has what that gives. -/
theorem Settings.of_namedOverride? {member : Text × Json.Value} {name : Text}
    {override : Override} (found : namedOverride? member = some (name, override)) :
    Registry.normalize member.1 = name ∧ IsUsable member.2 ∧ override.Describes member.2 := by
  obtain ⟨key, value⟩ := member
  cases value with
  | object members =>
    obtain ⟨_, overrides, same⟩ := Option.map_eq_some_iff.1 found
    cases same
    simp only [override?] at overrides
    split at overrides
    · cases overrides
    · rename_i changed
      have described : override.Describes (.object members) := by
        cases overrides
        refine ⟨fun kind columns => ?_, rfl⟩
        rw [gives_object_iff]
        cases kind <;> rfl
      refine ⟨rfl, ?_, described⟩
      by_contra unusable
      refine changed ?_
      cases overrides
      refine Override.isUnchanged_iff.2 ⟨fun kind => ?_, rfl⟩
      exact Option.eq_none_iff_forall_ne_some.2 fun columns given =>
        unusable ⟨kind, columns, (described.lists kind columns).1 given⟩
  | text | array | scalar => cases found

/-- The object that a text denotes is the configured one. -/
theorem configured_of_denotes {text : Text} {members : List (Text × Json.Value)}
    (denotes : Json.Denotes (Text.trim text) (.object members)) :
    configured text = Dictionary.ofPairs members := by
  rw [configured, denotes]

/-- A text that denotes no object configures no members. -/
theorem configured_of_noObject {text : Text}
    (noObject : ∀ members, ¬ Json.Denotes (Text.trim text) (.object members)) :
    configured text = [] := by
  unfold configured
  split
  · rename_i members denotes
    exact absurd denotes (noObject members)
  · rfl

/-- The empty text denotes nothing. -/
theorem Json.not_denotes_nil (value : Value) : ¬ Denotes [] value := by
  intro denotes
  obtain ⟨rest, read, -⟩ := denotes_iff.1 denotes
  rw [readValue_endless] at read
  cases read

/-- The overrides of a text are those of its members. -/
theorem Settings.overridesOfText_eq_ok {room : Json.Room} {text : Text}
    {overrides : Dictionary Override} (read : overridesOfText room text = .ok overrides) :
    overrides = Dictionary.ofPairs ((configured text).filterMap namedOverride?) := by
  unfold overridesOfText at read
  split at read
  · rename_i blank
    cases read
    rw [configured_of_noObject fun members => blank ▸ Json.not_denotes_nil _]
    rfl
  split at read
  · rename_i value found
    cases read
    have denotes := Json.denotes_of_ofText found
    cases value with
    | object members =>
      rw [configured_of_denotes denotes]
      rfl
    | text | array | scalar =>
      rw [configured_of_noObject fun members other => by cases denotes.symm.trans other]
      rfl
  · rename_i unread
    cases read
    rw [configured_of_noObject fun members => Json.not_denotes_of_notJson unread _]
    rfl
  · cases read

/-! ## Registries -/

/-- A registry holds the default resources and those that the members of an object configure. -/
structure Registry.Reflects (registry : Registry) (members : Dictionary Json.Value) : Prop where
  /-- The names are in strictly increasing order. -/
  sorted : registry.names.Pairwise Text.Precedes
  /-- The names are those of the default resources and the normal forms of usable keys. -/
  mem_names : ∀ name, name ∈ registry.names ↔
    (∃ resource ∈ Resource.defaults, resource.name = name) ∨
      ∃ member ∈ members, IsUsable member.2 ∧ normalize member.1 = name
  /-- Every name is in normal form, and its resource is found under it and has it. -/
  named : ∀ name ∈ registry.names, normalize name = name ∧
    ∃ resource, registry.find? name = some resource ∧ resource.name = name ∧
      resource.titles = none
  /-- Looking up depends on the normal form alone. -/
  alike : ∀ left right, normalize left = normalize right →
    registry.find? left = registry.find? right
  /-- Looking up fails exactly for names that are not listed. -/
  missing : ∀ name, registry.find? name = none ↔ normalize name ∉ registry.names
  /-- The last usable member about a name gives the lists of its resource, and those that it does
  not give are those of the default resource. -/
  overridden : ∀ before key value after, members = before ++ (key, value) :: after →
    IsUsable value → (∀ later ∈ after, IsUsable later.2 → normalize later.1 ≠ normalize key) →
    ∀ name, normalize name = normalize key → ∃ resource, registry.find? name = some resource ∧
      ∀ kind, (∀ columns, Gives value kind columns → resource.list kind = columns) ∧
        ((∀ columns, ¬ Gives value kind columns) →
          resource.list kind = (Resource.standard (normalize name)).list kind)
  /-- A resource that no usable member is about is the default one. -/
  unchanged : ∀ name,
    (∀ member ∈ members, IsUsable member.2 → normalize member.1 ≠ normalize name) →
      registry.find? name = Resource.defaults.find? (·.name = normalize name)

section

open Settings

variable {members : Dictionary Json.Value} {overrides : Dictionary Override} {name : Text}
  {override : Override}

/-- Every override has what a usable member about its name gives. -/
theorem exists_described (made : overrides = .ofPairs (members.filterMap namedOverride?))
    (found : overrides.get? name = some override) : ∃ member ∈ members,
      Registry.normalize member.1 = name ∧ IsUsable member.2 ∧ override.Describes member.2 := by
  rw [made] at found
  obtain ⟨before, after, same, -⟩ := Dictionary.get?_ofPairs_eq_some_iff.1 found
  have listed : (name, override) ∈ members.filterMap namedOverride? := by simp [same]
  obtain ⟨member, isMember, found⟩ := List.mem_filterMap.1 listed
  exact ⟨member, isMember, of_namedOverride? found⟩

/-- There is an override of a name exactly if a usable member is about it. -/
theorem exists_override_iff (made : overrides = .ofPairs (members.filterMap namedOverride?)) :
    (∃ override, overrides.get? name = some override) ↔
      ∃ member ∈ members, IsUsable member.2 ∧ Registry.normalize member.1 = name := by
  constructor
  · rintro ⟨override, found⟩
    obtain ⟨member, isMember, there, usable, -⟩ := exists_described made found
    exact ⟨member, isMember, usable, there⟩
  · rintro ⟨member, isMember, usable, rfl⟩
    obtain ⟨override, found⟩ := exists_namedOverride? usable
    refine Option.ne_none_iff_exists'.1 fun missing => ?_
    rw [made] at missing
    exact Dictionary.get?_ofPairs_eq_none_iff.1 missing _
      (List.mem_filterMap.2 ⟨member, isMember, found⟩) rfl

/-- The override of a name has what the last usable member about it gives. -/
theorem exists_override_of_last (made : overrides = .ofPairs (members.filterMap namedOverride?))
    {before after : Dictionary Json.Value} {key : Text} {value : Json.Value}
    (split : members = before ++ (key, value) :: after) (usable : IsUsable value)
    (last : ∀ later ∈ after, IsUsable later.2 →
      Registry.normalize later.1 ≠ Registry.normalize key) :
    ∃ override, overrides.get? (Registry.normalize key) = some override ∧
      override.Describes value := by
  obtain ⟨override, found⟩ := @exists_namedOverride? (key, value) usable
  obtain ⟨-, -, described⟩ := of_namedOverride? found
  refine ⟨override, ?_, described⟩
  rw [made, Dictionary.get?_ofPairs_eq_some_iff]
  refine ⟨before.filterMap namedOverride?, after.filterMap namedOverride?, ?_, ?_⟩
  · rw [split, List.filterMap_append, List.filterMap_cons, found]
  · rintro ⟨other, changes⟩ listed
    obtain ⟨later, isLater, found⟩ := List.mem_filterMap.1 listed
    obtain ⟨rfl, usable, -⟩ := of_namedOverride? found
    exact last later isLater usable

/-- The names that overrides leave are those of the default resources and of the usable members. -/
theorem mem_names_ofOverrides_iff
    (made : overrides = .ofPairs (members.filterMap namedOverride?)) :
    name ∈ (Registry.ofOverrides overrides).names ↔
      (∃ resource ∈ Resource.defaults, resource.name = name) ∨
        ∃ member ∈ members, IsUsable member.2 ∧ Registry.normalize member.1 = name := by
  have distinct : overrides.keys.Nodup := made ▸ Dictionary.nodup_keys_ofPairs _
  rw [Registry.mem_names_iff, Registry.get?_ofOverrides distinct, ← exists_override_iff made]
  cases overrides.get? name with
  | none => simp [← Option.isSome_iff_exists, List.find?_isSome]
  | some override => simp

/-- A registry of configured overrides has no titles. -/
theorem titles_of_get? (made : overrides = .ofPairs (members.filterMap namedOverride?))
    {resource : Resource}
    (found : (Registry.ofOverrides overrides).entries.get? name = some resource) :
    resource.titles = none := by
  have distinct : overrides.keys.Nodup := made ▸ Dictionary.nodup_keys_ofPairs _
  rw [Registry.get?_ofOverrides distinct] at found
  cases overridden : overrides.get? name with
  | none =>
    rw [overridden] at found
    replace found : Resource.defaults.find? (·.name = name) = some resource := found
    have same := Resource.titles_standard name
    rwa [Resource.standard, found] at same
  | some override =>
    rw [overridden] at found
    cases found
    obtain ⟨_, _, _, _, described⟩ := exists_described made overridden
    rw [Override.apply, described.untitled, Resource.titles_standard]
    rfl

end

/-- The registry that is built under an environment holds the default resources and those that the
configured members describe. -/
theorem Settings.registry_reflects {settings : Settings} {environment : Environment}
    {room : Json.Room} {registry : Registry}
    (built : settings.registry environment room = .ok registry) :
    registry.Reflects
      (configured ((environment.value? .resourceColumns).getD settings.resourceColumns)) := by
  have keyed := keyed_registry built
  obtain ⟨overrides, read, rfl⟩ := map_eq_ok_iff.1 built
  have made := overridesOfText_eq_ok read
  generalize configured _ = members at made ⊢
  have distinct : overrides.keys.Nodup := made ▸ Dictionary.nodup_keys_ofPairs _
  refine ⟨Text.pairwise_sortedDistinct _, fun name => mem_names_ofOverrides_iff made,
    fun name listed => ?_, fun left right alike => ?_, fun name => ?_, ?_,
    fun name untouched => ?_⟩
  · have normal : Registry.normalize name = name := by
      rcases (mem_names_ofOverrides_iff made).1 listed with
        ⟨resource, isDefault, rfl⟩ | ⟨member, -, -, rfl⟩
      · exact Registry.normalize_defaults resource isDefault
      · exact Registry.normalize_normalize _
    obtain ⟨resource, found⟩ := Registry.mem_names_iff.1 listed
    have untitled := titles_of_get? made found
    rw [← normal] at found
    exact ⟨normal, resource, found, (keyed.name_of_find? found).trans normal, untitled⟩
  · rw [Registry.find?, Registry.find?, alike]
  · rw [Registry.mem_names_iff, Registry.find?, Option.eq_none_iff_forall_ne_some, not_exists]
  · intro before key value after split usable last name about
    obtain ⟨override, overridden, described⟩ := exists_override_of_last made split usable last
    refine ⟨override.apply (.standard (Registry.normalize name)), ?_, fun kind => ⟨?_, ?_⟩⟩
    · rw [Registry.find?, Registry.get?_ofOverrides distinct, about, overridden]
    · intro columns given
      rw [Override.list_apply, (described.lists kind columns).2 given, Option.getD_some]
    · intro nothing
      have kept : override.list kind = none := Option.eq_none_iff_forall_ne_some.2
        fun columns given => nothing columns ((described.lists kind columns).1 given)
      rw [Override.list_apply, kept, Option.getD_none]
  · have nothing : overrides.get? (Registry.normalize name) = none := by
      refine Option.eq_none_iff_forall_ne_some.2 fun override found => ?_
      obtain ⟨member, isMember, usable, there⟩ := (exists_override_iff made).1 ⟨override, found⟩
      exact untouched member isMember usable there
    rw [Registry.find?, Registry.get?_ofOverrides distinct, nothing]

/-- A configuration with two members about the users, one about a resource whose name ends in a
capital sigma, and two that are not usable. -/
def collidingColumns : Text :=
  "\x7b\x22Users\x22:\x7b\x22sort\x22:[\x22id\x22]\x7d," ++
    "\x22ΟΔΟΣ\x22:\x7b\x22filter\x22:[]\x7d," ++
    "\x22users \x22:\x7b\x22sort\x22:7,\x22fields\x22:[\x22 a \x22,\x22 \x22]\x7d," ++
    "\x22bad\x22:\x7b\x22sort\x22:[1]\x7d,\x22worse\x22:[]\x7d"

/-- The registry of that configuration: the later member about the users decides. -/
theorem Settings.registry_reflects_colliding :
    ∃ registry : Registry, registry.Reflects (configured collidingColumns) ∧
      registry.find? " USERS" = some { Resource.standard "users" with fields := ["a"] } ∧
      registry.find? "οδοΣ" = some (.bare "οδος") ∧ registry.find? "bad" = none := by
  let environment := Environment.empty.set "LISTQ_RESOURCE_COLUMNS" collidingColumns
  have built : standard.registry environment .usual = .ok (.ofOverrides
      [("users", ⟨some ["a"], none, none, none⟩), ("οδος", ⟨none, some [], none, none⟩)]) := by
    decide +kernel
  have configures : (environment.value? .resourceColumns).getD standard.resourceColumns =
      collidingColumns := by
    decide +kernel
  have reflects := registry_reflects built
  rw [configures] at reflects
  exact ⟨_, reflects, by decide +kernel, by decide +kernel, by decide +kernel⟩

end ListQuery
