/-!
# Ordered entries

Tables whose keys keep the order of their first entry: a later entry under a key that is there
replaces the value and leaves the place and the key. A table is the list of its entries. Two keys are
the same when `==` says so, which has to be an equivalence.
-/

namespace DistrictAtlas.Entries

variable {κ α : Type} [BEq κ]

/-- Puts a value under a key: in place of the key's value, or as a new last entry. -/
def put (key : κ) (value : α) : List (κ × α) → List (κ × α)
  | [] => [(key, value)]
  | entry :: rest =>
    if entry.1 == key then (entry.1, value) :: rest else entry :: put key value rest

/-- The value under a key. -/
def get? (key : κ) : List (κ × α) → Option α
  | [] => none
  | entry :: rest => if entry.1 == key then some entry.2 else get? key rest

/-- Whether there is an entry under the key. -/
def has (key : κ) (entries : List (κ × α)) : Bool :=
  (get? key entries).isSome

/-- The keys in order. -/
def keys (entries : List (κ × α)) : List κ :=
  entries.map (·.1)

/-- The table of a list of entries, put one after the other. -/
def ofList (entries : List (κ × α)) : List (κ × α) :=
  entries.foldl (fun table entry => put entry.1 entry.2 table) []

/-- Nothing is found under a key where there are no entries. -/
@[simp] theorem get?_nil (key : κ) : get? key ([] : List (κ × α)) = none := rfl

/-- What is found under a key once a value was put: that value under the key it was put under, and
what was found before under any other. -/
theorem get?_put [EquivBEq κ] (key other : κ) (value : α) (entries : List (κ × α)) :
    get? other (put key value entries) =
      if key == other then some value else get? other entries := by
  induction entries with
  | nil => simp [put, get?]
  | cons entry rest ih =>
    by_cases h : entry.1 == key
    · by_cases h' : key == other
      · simp [put, get?, h, h', BEq.trans h h']
      · have h'' : (entry.1 == other) = false := by
          rw [Bool.eq_false_iff]
          exact fun e => h' (BEq.trans (BEq.symm h) e)
        simp [put, get?, h, h', h'']
    · by_cases h' : entry.1 == other
      · have h'' : (key == other) = false := by
          rw [Bool.eq_false_iff]
          exact fun e => h (BEq.trans h' (BEq.symm e))
        simp [put, get?, h, h', h'']
      · simp [put, get?, h, h', ih]

/-- A value that was put is found under its key. -/
@[simp] theorem get?_put_self [EquivBEq κ] (key : κ) (value : α) (entries : List (κ × α)) :
    get? key (put key value entries) = some value := by
  simp [get?_put]

end DistrictAtlas.Entries
