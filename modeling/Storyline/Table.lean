/-!
# Tables keyed by text

A table holds at most one value under each name and lists its entries by name,
smallest first. The order is strict and is kept in the type, so every walk over a
table visits its names in one order. Inserting under a name that is present
replaces its value.
-/

namespace Storyline

/-- Values under names, with the names strictly increasing. -/
structure Table (α : Type) where
  entries : List (String × α)
  increasing : entries.Pairwise (fun first second => first.1 < second.1)

namespace Table

variable {α : Type}

/-- Places one entry into a list of entries, in front of the first larger name
or over the entry of the same name. -/
def place (name : String) (value : α) : List (String × α) → List (String × α)
  | [] => [(name, value)]
  | entry :: rest =>
    if name < entry.1 then (name, value) :: entry :: rest
    else if name = entry.1 then (name, value) :: rest
    else entry :: place name value rest

/-- Placing adds nothing besides the placed entry. What gives way to it is not counted here. -/
theorem mem_of_mem_place {name : String} {value : α} {entry : String × α}
    {entries : List (String × α)} (member : entry ∈ place name value entries) :
    entry = (name, value) ∨ entry ∈ entries := by
  induction entries with
  | nil => simpa [place] using member
  | cons head rest inductionHypothesis =>
    unfold place at member
    split at member
    · simpa using member
    · split at member
      · simp only [List.mem_cons] at member ⊢
        exact member.imp_right Or.inr
      · rcases List.mem_cons.mp member with rfl | deeper
        · exact Or.inr (List.mem_cons_self ..)
        · exact (inductionHypothesis deeper).imp_right (List.mem_cons_of_mem _)

/-- Placing keeps the names strictly increasing.

Proof: by induction on the entries; in each of the three ways the placed name fits between its
neighbours. -/
theorem pairwise_place (name : String) (value : α) {entries : List (String × α)}
    (increasing : entries.Pairwise (fun first second => first.1 < second.1)) :
    (place name value entries).Pairwise (fun first second => first.1 < second.1) := by
  induction entries with
  | nil => simp [place]
  | cons head rest inductionHypothesis =>
    obtain ⟨above, tail⟩ := List.pairwise_cons.mp increasing
    unfold place
    split
    · rename_i before
      refine List.pairwise_cons.mpr ⟨fun entry member => ?_, increasing⟩
      rcases List.mem_cons.mp member with rfl | deeper
      · exact before
      · exact String.lt_trans before (above entry deeper)
    · rename_i notBefore
      split
      · rename_i same
        exact List.pairwise_cons.mpr ⟨fun entry member => same ▸ above entry member, tail⟩
      · rename_i different
        refine List.pairwise_cons.mpr ⟨fun entry member => ?_, inductionHypothesis tail⟩
        rcases mem_of_mem_place member with rfl | deeper
        · exact Std.lt_of_le_of_ne (String.not_lt.mp notBefore) (Ne.symm different)
        · exact above entry deeper

/-- The table without entries. -/
def empty : Table α := ⟨[], List.Pairwise.nil⟩

instance : EmptyCollection (Table α) := ⟨empty⟩

instance : Inhabited (Table α) := ⟨empty⟩

instance [BEq α] : BEq (Table α) := ⟨fun left right => left.entries == right.entries⟩

/-- The value under a name. -/
def get? (table : Table α) (name : String) : Option α := table.entries.lookup name

/-- Whether a name has a value. -/
def contains (table : Table α) (name : String) : Bool := (table.get? name).isSome

/-- The table with one more value; a value already under the name gives way. -/
def insert (table : Table α) (name : String) (value : α) : Table α :=
  ⟨place name value table.entries, pairwise_place name value table.increasing⟩

/-- The table of some entries in the order given: the last of equal names wins. -/
def ofList (entries : List (String × α)) : Table α :=
  entries.foldl (fun table entry => table.insert entry.1 entry.2) empty

/-- The names, smallest first. -/
def names (table : Table α) : List String := table.entries.map Prod.fst

/-- The number of entries. -/
def size (table : Table α) : Nat := table.entries.length

end Table

end Storyline
