/-! # Values by name

Each name has one value, and names stand in ascending order of their code
points. -/

namespace Dilemma

@[ext]
structure NameMap (α : Type) where
  entries : List (String × α)
  sorted : entries.Pairwise (·.1 < ·.1)
  deriving DecidableEq

namespace NameMap

variable {α : Type}

def empty : NameMap α := ⟨[], .nil⟩

/-! ## Setting values -/

def insertInto (name : String) (value : α) : List (String × α) → List (String × α)
  | [] => [(name, value)]
  | (other, existing) :: rest =>
      if name < other then (name, value) :: (other, existing) :: rest
      else if name = other then (name, value) :: rest
      else (other, existing) :: insertInto name value rest

theorem mem_insertInto {name : String} {value : α} {entries : List (String × α)}
    {entry : String × α} (member : entry ∈ insertInto name value entries) :
    entry = (name, value) ∨ entry ∈ entries := by
  induction entries with
  | nil => exact .inl (List.mem_singleton.mp member)
  | cons first rest induction =>
      rw [insertInto] at member
      split at member
      · rcases List.mem_cons.mp member with rfl | old
        · exact .inl rfl
        · exact .inr old
      · split at member
        · rcases List.mem_cons.mp member with rfl | old
          · exact .inl rfl
          · exact .inr (List.mem_cons_of_mem _ old)
        · rcases List.mem_cons.mp member with rfl | later
          · exact .inr (List.mem_cons_self ..)
          · exact (induction later).imp_right (List.mem_cons_of_mem _)

theorem sorted_insertInto (name : String) (value : α) {entries : List (String × α)}
    (sorted : entries.Pairwise (·.1 < ·.1)) :
    (insertInto name value entries).Pairwise (·.1 < ·.1) := by
  induction entries with
  | nil => exact List.pairwise_singleton ..
  | cons first rest induction =>
      have parts := List.pairwise_cons.mp sorted
      rw [insertInto]
      split
      · rename_i less
        refine List.pairwise_cons.mpr ⟨fun entry member => ?_, sorted⟩
        rcases List.mem_cons.mp member with rfl | later
        · exact less
        · exact String.lt_trans less (parts.1 entry later)
      · rename_i notLess
        split
        · rename_i equal
          subst equal
          exact List.pairwise_cons.mpr parts
        · rename_i different
          have greater : first.1 < name :=
            Std.lt_of_le_of_ne (String.not_lt.mp notLess) (Ne.symm different)
          refine List.pairwise_cons.mpr ⟨fun entry member => ?_, induction parts.2⟩
          rcases mem_insertInto member with rfl | later
          · exact greater
          · exact parts.1 entry later

/-- Set the value of a name. -/
def insert (map : NameMap α) (name : String) (value : α) : NameMap α :=
  ⟨insertInto name value map.entries, sorted_insertInto name value map.sorted⟩

/-- Of two values for one name the later counts. -/
def ofList (pairs : List (String × α)) : NameMap α :=
  pairs.foldl (fun map (name, value) => map.insert name value) empty

def get? (map : NameMap α) (name : String) : Option α :=
  (map.entries.find? (·.1 = name)).map (·.2)

/-- Change the value of a name if there is one. -/
def modify (map : NameMap α) (name : String) (change : α → α) : NameMap α where
  entries := map.entries.map fun entry =>
    if entry.1 = name then (entry.1, change entry.2) else entry
  sorted := by
    refine List.pairwise_map.mpr (map.sorted.imp fun less => ?_)
    split <;> split <;> exact less

def names (map : NameMap α) : List String := map.entries.map (·.1)

def values (map : NameMap α) : List α := map.entries.map (·.2)

example : (ofList [("b", 1), ("a", 2), ("b", 3)]).entries = [("a", 2), ("b", 3)] := by
  decide +kernel

end NameMap

end Dilemma
