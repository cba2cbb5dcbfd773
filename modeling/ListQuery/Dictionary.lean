import ListQuery.Text.Basic

/-!
# Dictionaries

Values under text keys, in the order in which the keys first came. Setting a key again replaces
its value in place, so a key is never listed twice.
-/

namespace ListQuery

/-- Values under distinct text keys, in insertion order. -/
abbrev Dictionary (α : Type) := List (Text × α)

namespace Dictionary

variable {α : Type}

/-- The value under a key. -/
def get? (dictionary : Dictionary α) (key : Text) : Option α :=
  dictionary.lookup key

/-- The dictionary with a value under a key: in the place of the key's old value if it has one,
else at the end. -/
def set : (dictionary : Dictionary α) → (key : Text) → (value : α) → Dictionary α
  | [], key, value => [(key, value)]
  | (k, v) :: rest, key, value =>
    if k = key then (key, value) :: rest else (k, v) :: set rest key value

/-- The dictionary that some pairs make when set one after the other. -/
def ofPairs (pairs : List (Text × α)) : Dictionary α :=
  pairs.foldl (fun dictionary (key, value) => dictionary.set key value) []

/-- The keys in order. -/
def keys (dictionary : Dictionary α) : List Text :=
  dictionary.map Prod.fst

end Dictionary

end ListQuery
