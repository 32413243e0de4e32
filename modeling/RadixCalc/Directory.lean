/-!
Directories: entries under distinct names, in the order in which the names were
first put in. Putting an entry under a known name replaces it in its place, and
nothing is ever taken out.
-/

namespace RadixCalc

namespace Directory

variable {α : Type}

def names (entries : List (String × α)) : List String :=
  entries.map Prod.fst

def putEntry (name : String) (value : α) : List (String × α) → List (String × α)
  | [] => [(name, value)]
  | (known, old) :: rest =>
      if known = name then (name, value) :: rest else (known, old) :: putEntry name value rest

def findEntry (name : String) : List (String × α) → Option α
  | [] => none
  | (known, value) :: rest => if known = name then some value else findEntry name rest

theorem names_put_entry (name : String) (value : α) (entries : List (String × α)) :
    names (putEntry name value entries) =
      if name ∈ names entries then names entries else names entries ++ [name] := by
  induction entries with
  | nil => simp [putEntry, names]
  | cons entry rest induction =>
      obtain ⟨known, old⟩ := entry
      by_cases same : known = name
      · simp [putEntry, names, same]
      · simp only [names] at induction
        by_cases later : name ∈ rest.map Prod.fst
        · simp [putEntry, names, same, induction, later]
        · simp [putEntry, names, same, induction, later, Ne.symm same]

theorem nodup_put_entry (name : String) (value : α) (entries : List (String × α))
    (distinct : (names entries).Nodup) : (names (putEntry name value entries)).Nodup := by
  rw [names_put_entry]
  split
  · exact distinct
  · rename_i absent
    rw [List.nodup_append]
    refine ⟨distinct, by simp, ?_⟩
    intro known among other single
    simp only [List.mem_singleton] at single
    subst single
    intro same
    subst same
    exact absent among

end Directory

/-- Entries under distinct names, in the order of their first appearance. -/
structure Directory (α : Type) where
  entries : List (String × α)
  distinct : (Directory.names entries).Nodup

namespace Directory

variable {α : Type}

def empty : Directory α :=
  ⟨[], by simp [names]⟩

def put (directory : Directory α) (name : String) (value : α) : Directory α :=
  ⟨putEntry name value directory.entries,
    nodup_put_entry name value directory.entries directory.distinct⟩

def get? (directory : Directory α) (name : String) : Option α :=
  findEntry name directory.entries

def contains (directory : Directory α) (name : String) : Bool :=
  (directory.get? name).isSome

def size (directory : Directory α) : Nat :=
  directory.entries.length

/-- Later entries replace earlier ones of the same name. -/
def ofList (entries : List (String × α)) : Directory α :=
  entries.foldl (fun directory entry => directory.put entry.1 entry.2) empty

/-- The entries in the order of their names' code points. -/
def sorted (directory : Directory α) : List (String × α) :=
  directory.entries.mergeSort fun first second => first.1 ≤ second.1

theorem find_entry_put_entry (name other : String) (value : α) (entries : List (String × α)) :
    findEntry other (putEntry name value entries) =
      if name = other then some value else findEntry other entries := by
  induction entries with
  | nil => rfl
  | cons entry rest induction =>
      obtain ⟨known, old⟩ := entry
      by_cases here : known = name
      · by_cases same : name = other <;> simp [putEntry, findEntry, here, same]
      · by_cases atKnown : known = other
        · subst atKnown
          simp [putEntry, findEntry, here, Ne.symm here]
        · simp [putEntry, findEntry, here, induction, atKnown]

@[simp]
theorem get_put (directory : Directory α) (name other : String) (value : α) :
    (directory.put name value).get? other =
      if name = other then some value else directory.get? other :=
  find_entry_put_entry name other value directory.entries

@[simp]
theorem get_empty (name : String) : (empty : Directory α).get? name = none := rfl

end Directory

end RadixCalc
