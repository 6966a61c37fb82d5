import Storyline.Table

/-!
# Tables through their look-ups

What a table holds is what its look-ups answer: inserting changes one answer and
keeps all others, the names are those with an answer, and tables that answer alike
are equal. The last rests on the order of the entries, which leaves one list of
entries for each way of answering. So a table is also what its entries make when they
are inserted in any order.
-/

namespace Storyline.Table

variable {α : Type}

/-- The empty table has no values. -/
@[simp] theorem get?_empty (name : String) : (∅ : Table α).get? name = none := rfl

/-- A look-up tries the first entry and then the others. The library says this with a Boolean test,
and here names are compared as they are elsewhere. -/
theorem lookup_cons (name : String) (entry : String × α) (rest : List (String × α)) :
    (entry :: rest).lookup name = if name = entry.1 then some entry.2 else rest.lookup name := by
  rw [List.lookup_cons]
  by_cases same : name = entry.1
  · simp [same]
  · have different : (name == entry.1) = false := by simpa using same
    simp only [different, if_neg same]

/-- Placing changes the look-up of the placed name only.

Proof: by induction on the entries, along the three ways in which placing goes on at an entry. -/
theorem lookup_place (name other : String) (value : α) (entries : List (String × α)) :
    (place name value entries).lookup other =
      if other = name then some value else entries.lookup other := by
  induction entries with
  | nil => simp [place, lookup_cons]
  | cons head rest inductionHypothesis =>
    unfold place
    split
    · rw [lookup_cons]
    · split
      · rename_i replaced
        rw [lookup_cons, lookup_cons, ← replaced]
        by_cases same : other = name <;> simp [same]
      · rename_i different
        rw [lookup_cons, lookup_cons, inductionHypothesis]
        by_cases same : other = name
        · simp [same, different]
        · simp [same]

/-- Inserting changes the value under the inserted name only. This is all that later modules need
to know of how a table is written to. -/
@[simp] theorem get?_insert (table : Table α) (name other : String) (value : α) :
    (table.insert name value).get? other =
      if other = name then some value else table.get? other := by
  unfold get? insert
  rw [lookup_place]

/-- A name with a value is among the names, and no other name is. The names are listed in their
order, which look-ups do not show. -/
theorem mem_names_iff {table : Table α} {name : String} :
    name ∈ table.names ↔ (table.get? name).isSome = true := by
  unfold names get?
  induction table.entries with
  | nil => simp
  | cons head rest inductionHypothesis =>
    rw [List.map_cons, List.mem_cons, lookup_cons]
    by_cases same : name = head.1
    · simp [same]
    · simpa only [same, false_or, if_false] using inductionHypothesis

/-- A value that is looked up stands among the entries under its name. The converse needs that
names stand there once, and comes below. -/
theorem mem_entries_of_get? {table : Table α} {name : String} {value : α}
    (found : table.get? name = some value) : (name, value) ∈ table.entries := by
  obtain ⟨before, after, same, -⟩ := List.lookup_eq_some_iff.mp found
  rw [same]
  exact List.mem_append_right _ List.mem_cons_self

/-- A name below all names of some entries has no value among them.

Proof: by induction on the entries; the name is none of theirs, being smaller than each. -/
theorem lookup_eq_none_of_below {name : String} {entries : List (String × α)}
    (below : ∀ entry ∈ entries, name < entry.1) : entries.lookup name = none := by
  induction entries with
  | nil => rfl
  | cons head rest inductionHypothesis =>
    have apart : name ≠ head.1 := fun same =>
      String.lt_irrefl name (same ▸ below head List.mem_cons_self)
    rw [lookup_cons, if_neg apart]
    exact inductionHypothesis fun entry member => below entry (List.mem_cons_of_mem _ member)

/-- The first of some entries in increasing order is not above the first of others that answer its
look-up alike. So the first names of two such lists are the same, by this law in both directions. -/
theorem not_lt_of_lookup {first other : String × α} {others : List (String × α)}
    (above : ∀ entry ∈ others, other.1 < entry.1)
    (answered : (other :: others).lookup first.1 = some first.2) : ¬ first.1 < other.1 := by
  intro before
  have absent : (other :: others).lookup first.1 = none :=
    lookup_eq_none_of_below fun entry member => by
      rcases List.mem_cons.mp member with rfl | deeper
      · exact before
      · exact String.lt_trans before (above entry deeper)
  rw [absent] at answered
  cases answered

/-- Behind first entries of one name, what is left answers alike if the whole does. A name that is
not the first one is looked up in what is left, and the first one is not in it. -/
theorem lookup_alike_tail {first other : String × α} {rest others : List (String × α)}
    (sameName : first.1 = other.1) (above : ∀ entry ∈ rest, first.1 < entry.1)
    (otherAbove : ∀ entry ∈ others, other.1 < entry.1)
    (alike : ∀ name, (first :: rest).lookup name = (other :: others).lookup name) (name : String) :
    rest.lookup name = others.lookup name := by
  by_cases same : name = first.1
  · rw [same, lookup_eq_none_of_below above, sameName, lookup_eq_none_of_below otherAbove]
  · have answered := alike name
    rwa [lookup_cons, lookup_cons, if_neg same, if_neg (sameName ▸ same)] at answered

/-- Entries in increasing order are determined by their look-ups.

Proof: by induction on one of the lists. The first names are equal because neither may be below the
other, the first values because they are answers for that name, and the rest answers alike
elsewhere. -/
theorem entries_eq {left right : List (String × α)}
    (leftOrder : left.Pairwise (fun first second => first.1 < second.1))
    (rightOrder : right.Pairwise (fun first second => first.1 < second.1))
    (alike : ∀ name, left.lookup name = right.lookup name) : left = right := by
  induction left generalizing right with
  | nil =>
    cases right with
    | nil => rfl
    | cons other others =>
      have answered := alike other.1
      rw [lookup_cons, if_pos rfl] at answered
      cases answered
  | cons first rest inductionHypothesis =>
    obtain ⟨above, restOrder⟩ := List.pairwise_cons.mp leftOrder
    cases right with
    | nil =>
      have answered := alike first.1
      rw [lookup_cons, if_pos rfl] at answered
      cases answered
    | cons other others =>
      obtain ⟨otherAbove, othersOrder⟩ := List.pairwise_cons.mp rightOrder
      have fromLeft : (other :: others).lookup first.1 = some first.2 := by
        rw [← alike, lookup_cons, if_pos rfl]
      have fromRight : (first :: rest).lookup other.1 = some other.2 := by
        rw [alike, lookup_cons, if_pos rfl]
      have sameName : first.1 = other.1 :=
        String.le_antisymm (String.not_lt.mp (not_lt_of_lookup above fromRight))
          (String.not_lt.mp (not_lt_of_lookup otherAbove fromLeft))
      have sameValue : other.2 = first.2 := by
        rw [lookup_cons, if_pos sameName] at fromLeft
        exact Option.some.inj fromLeft
      have sameRest : rest = others := inductionHypothesis restOrder othersOrder
        (lookup_alike_tail sameName above otherAbove alike)
      rw [sameRest, Prod.ext sameName sameValue.symm]

/-- Tables are equal if they answer every look-up alike. The order of entries is kept in the type,
so nothing has to be assumed of how a table came about. -/
theorem eq_of_get? {left right : Table α}
    (alike : ∀ name, left.get? name = right.get? name) : left = right := by
  obtain ⟨entries, increasing⟩ := left
  obtain ⟨others, othersIncreasing⟩ := right
  obtain rfl : entries = others := entries_eq increasing othersIncreasing alike
  rfl

/-! ## Tables from lists of their entries -/

/-- A value is looked up under a name exactly if it stands there among the entries.

Proof: a table with the value among its entries is cut in front of it, where all names
are smaller. -/
theorem get?_eq_some_iff {table : Table α} {name : String} {value : α} :
    table.get? name = some value ↔ (name, value) ∈ table.entries := by
  refine ⟨mem_entries_of_get?, fun member => ?_⟩
  obtain ⟨before, after, split⟩ := List.append_of_mem member
  have increasing := table.increasing
  rw [split] at increasing
  have below := (List.pairwise_append.mp increasing).2.2
  refine List.lookup_eq_some_iff.mpr ⟨before, after, split, fun entry earlier => ?_⟩
  have smaller : entry.1 < name := below entry earlier (name, value) List.mem_cons_self
  rw [bne_iff_ne]
  rintro rfl
  exact String.lt_irrefl _ smaller

/-- Each name of a table stands there once. Strictly increasing names are distinct. -/
theorem nodup_names (table : Table α) : table.names.Nodup := by
  have apart : table.names.Pairwise (· < ·) := List.pairwise_map.mpr table.increasing
  refine apart.imp fun {name other} smaller same => ?_
  rw [same] at smaller
  exact String.lt_irrefl other smaller

/-- Entries with distinct names that are inserted one after another are those looked up afterwards,
beside what was under other names before.

Proof: by induction on the entries. The first name is not among the later ones, so its value is not
written over. -/
theorem get?_insertAll {entries : List (String × α)} (distinct : (entries.map Prod.fst).Nodup)
    (table : Table α) (name : String) (value : α) :
    (entries.foldl (fun table entry => table.insert entry.1 entry.2) table).get? name =
        some value ↔
      (name, value) ∈ entries ∨ name ∉ entries.map Prod.fst ∧ table.get? name = some value := by
  induction entries generalizing table with
  | nil => simp
  | cons head rest inductionHypothesis =>
    obtain ⟨fresh, restDistinct⟩ := List.nodup_cons.mp distinct
    rw [List.foldl_cons, inductionHypothesis restDistinct, get?_insert, List.map_cons,
      List.mem_cons, List.mem_cons]
    by_cases same : name = head.1
    · have elsewhere : (name, value) ∉ rest := fun member =>
        fresh (same ▸ List.mem_map_of_mem member)
      have absent : name ∉ rest.map Prod.fst := same ▸ fresh
      have entry : (name, value) = head ↔ some head.2 = some value := by
        rw [same, Prod.ext_iff, Option.some.injEq]
        exact ⟨fun equal => equal.2.symm, fun equal => ⟨rfl, equal.symm⟩⟩
      simp only [same, if_true, true_or, not_true, false_and, or_false]
      rw [← same, entry]
      exact ⟨fun found => Or.inl (found.resolve_left elsewhere |>.2),
        fun found => Or.inr ⟨absent, found.resolve_right elsewhere⟩⟩
    · have other : (name, value) ≠ head := fun equal => same (congrArg Prod.fst equal)
      simp only [same, other, if_false, false_or]

/-- A table is what its entries make in any order. Writers may therefore list a table in the order
of a hash map, which is not known, and readers get the table back.

Proof: both tables answer every look-up alike, since the entries are the same ones. -/
theorem ofList_of_perm {entries : List (String × α)} {table : Table α}
    (listed : entries.Perm table.entries) : ofList entries = table := by
  have names : (entries.map Prod.fst).Perm table.names := listed.map Prod.fst
  have distinct : (entries.map Prod.fst).Nodup := names.nodup_iff.mpr table.nodup_names
  refine eq_of_get? fun name => Option.ext fun value => ?_
  have inserted := get?_insertAll distinct empty name value
  have nothing : (empty : Table α).get? name = none := get?_empty name
  rw [nothing] at inserted
  rw [ofList, inserted, get?_eq_some_iff, listed.mem_iff]
  simp

end Storyline.Table
