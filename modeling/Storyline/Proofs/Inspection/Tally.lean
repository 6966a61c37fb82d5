import Mathlib.Data.List.Nodup
import Mathlib.Data.List.Perm.Basic
import Mathlib.Tactic.Choose

/-!
# One value for each place

A list may be said to be complete without regard to its order: it has one value for each place
that has one, and nothing else. Places that differ count apart, also where their values are
equal. Lists that are put together of complete ones are complete for the places put together.
-/

namespace Storyline

variable {κ ι μ α β : Type}

/-- Values with their places: no place twice, and exactly the values at their places. -/
structure Placed (At : κ → α → Prop) (entries : List (κ × α)) : Prop where
  distinct : (entries.map Prod.fst).Nodup
  exact : ∀ place value, (place, value) ∈ entries ↔ At place value

/-- A list has, in some order, one value for each place that has one, and nothing else. -/
def OneForEach (At : κ → α → Prop) (values : List α) : Prop :=
  ∃ entries, Placed At entries ∧ (entries.map Prod.snd).Perm values

namespace OneForEach

variable {At Other : κ → α → Prop} {values others : List α}

/-- The values of a list are those at places. How often a value is listed is not said by that. -/
theorem mem_iff (each : OneForEach At values) {value : α} :
    value ∈ values ↔ ∃ place, At place value := by
  obtain ⟨entries, placed, reordered⟩ := each
  rw [← reordered.mem_iff, List.mem_map]
  constructor
  · rintro ⟨⟨place, found⟩, member, rfl⟩
    exact ⟨place, (placed.exact _ _).mp member⟩
  · rintro ⟨place, found⟩
    exact ⟨(place, value), (placed.exact _ _).mpr found, rfl⟩

/-- If only one place may have a value, there is at most one. It is used for findings about the one
start of a story. -/
theorem length_le_one (each : OneForEach At values) (place : κ)
    (only : ∀ other value, At other value → other = place) : values.length ≤ 1 := by
  obtain ⟨entries, placed, reordered⟩ := each
  have inside : entries.map Prod.fst ⊆ [place] := by
    intro other member
    obtain ⟨entry, inEntries, rfl⟩ := List.mem_map.mp member
    exact List.mem_singleton.mpr (only _ _ ((placed.exact entry.1 entry.2).mp inEntries))
  have few := (List.subperm_of_subset placed.distinct inside).length_le
  rw [List.length_map] at few
  rw [← reordered.length_eq, List.length_map]
  exact few

/-- The order of the values does not matter. A report orders what the passes have found. -/
theorem perm (each : OneForEach At values) (same : values.Perm others) : OneForEach At others := by
  obtain ⟨entries, placed, reordered⟩ := each
  exact ⟨entries, placed, reordered.trans same⟩

/-- The places may be said in another way. They have to be the same places for the same values, in
both directions. -/
theorem congr (each : OneForEach At values)
    (same : ∀ place value, At place value ↔ Other place value) : OneForEach Other values := by
  obtain ⟨entries, placed, reordered⟩ := each
  exact ⟨entries, ⟨placed.distinct, fun place value => (placed.exact place value).trans
    (same place value)⟩, reordered⟩

/-- Where no place has a value there is none. Endings, for example, have no effects. -/
theorem none (nothing : ∀ place value, ¬ At place value) : OneForEach At [] := by
  have empty : Placed At [] := by
    constructor
    · exact List.nodup_nil
    · exact fun place value => iff_of_false List.not_mem_nil (nothing place value)
  exact ⟨[], empty, .refl _⟩

/-- A value may be there at one place. Its place is given by the host of the value, which has no
other. -/
theorem ofOption (place : κ) (value : Option α) :
    OneForEach (fun other found => other = place ∧ value = some found) value.toList := by
  cases value with
  | none => exact none fun _ _ found => by cases found.2
  | some value =>
    refine ⟨[(place, value)], ⟨List.nodup_singleton _, fun other found => ?_⟩, .refl _⟩
    simp [eq_comm]

/-- A value that is alone may be at any place. There is only one value to be there, so no other
place is needed. -/
theorem ofFew (place : κ) (few : values.length ≤ 1) :
    OneForEach (fun other value => other = place ∧ value ∈ values) values := by
  match values, few with
  | [], _ => exact none fun _ _ found => List.not_mem_nil found.2
  | [value], _ =>
    refine (ofOption place (some value)).congr fun other found => ?_
    simp [eq_comm]

/-- The values of a list are at their indices. Equal values at different indices count apart. -/
theorem ofList (values : List α) :
    OneForEach (fun (index : Nat) value => values[index]? = some value) values := by
  refine ⟨values.zipIdx.map Prod.swap, ⟨?_, fun index value => ?_⟩, ?_⟩
  · rw [List.map_map, show Prod.fst ∘ Prod.swap = (Prod.snd : α × Nat → Nat) from rfl,
      List.zipIdx_map_snd]
    exact List.nodup_range'
  · rw [← List.mk_mem_zipIdx_iff_getElem?, List.mem_map]
    simp
  · rw [List.map_map, show Prod.snd ∘ Prod.swap = (Prod.fst : α × Nat → α) from rfl,
      List.zipIdx_map_fst]

/-- Values may be at their keys, if these differ. This is how the nodes of a story are counted, by
their names. -/
theorem ofKeys (key : α → κ) (distinct : (values.map key).Nodup) :
    OneForEach (fun place value => value ∈ values ∧ key value = place) values := by
  refine ⟨values.map fun value => (key value, value), ⟨?_, fun place value => ?_⟩, ?_⟩
  · rwa [List.map_map]
  · rw [List.mem_map]
    constructor
    · rintro ⟨value, member, same⟩
      obtain ⟨rfl, rfl⟩ := Prod.mk.inj same
      exact ⟨member, rfl⟩
    · rintro ⟨member, rfl⟩
      exact ⟨value, member, rfl⟩
  · rw [List.map_map]
    exact .of_eq (List.map_id values)

/-- Values at other places may be added.

Proof: the entries of both lists are put together, and no place of the one is a place of
the other. -/
theorem append (each : OneForEach At values) (eachOther : OneForEach Other others)
    (apart : ∀ place value other, At place value → ¬ Other place other) :
    OneForEach (fun place value => At place value ∨ Other place value) (values ++ others) := by
  obtain ⟨entries, placed, reordered⟩ := each
  obtain ⟨otherEntries, otherPlaced, otherReordered⟩ := eachOther
  refine ⟨entries ++ otherEntries, ⟨?_, fun place value => ?_⟩, ?_⟩
  · rw [List.map_append, List.nodup_append]
    refine ⟨placed.distinct, otherPlaced.distinct, ?_⟩
    intro place member other otherMember same
    obtain ⟨entry, inside, rfl⟩ := List.mem_map.mp member
    obtain ⟨otherEntry, otherInside, rfl⟩ := List.mem_map.mp otherMember
    have otherAt := (otherPlaced.exact _ _).mp otherInside
    rw [← same] at otherAt
    exact apart _ _ _ ((placed.exact _ _).mp inside) otherAt
  · rw [List.mem_append, placed.exact, otherPlaced.exact]
  · rw [List.map_append]
    exact reordered.append otherReordered

/-- The places may be given other names. Different places must get different names, or one name
would have two values. -/
theorem relabel (each : OneForEach At values) {label : κ → μ} (injective : label.Injective) :
    OneForEach (fun name value => ∃ place, At place value ∧ label place = name) values := by
  obtain ⟨entries, placed, reordered⟩ := each
  refine ⟨entries.map (Prod.map label id), ⟨?_, fun name value => ?_⟩, ?_⟩
  · rw [List.map_map, show Prod.fst ∘ Prod.map label id = label ∘ (Prod.fst : κ × α → κ) from rfl,
      ← List.map_map]
    exact placed.distinct.map injective
  · rw [List.mem_map]
    constructor
    · rintro ⟨⟨place, found⟩, member, same⟩
      obtain ⟨rfl, rfl⟩ := Prod.mk.inj same
      exact ⟨place, (placed.exact _ _).mp member, rfl⟩
    · rintro ⟨place, found, rfl⟩
      exact ⟨(place, value), (placed.exact _ _).mpr found, rfl⟩
  · rw [List.map_map]
    exact reordered

/-- Only some values may be chosen. The places of the values left out are empty then. -/
theorem filter (each : OneForEach At values) (chosen : α → Bool) :
    OneForEach (fun place value => At place value ∧ chosen value = true)
      (values.filter chosen) := by
  obtain ⟨entries, placed, reordered⟩ := each
  refine ⟨entries.filter fun entry => chosen entry.2, ⟨?_, fun place value => ?_⟩, ?_⟩
  · exact (List.filter_sublist.map Prod.fst).nodup placed.distinct
  · rw [List.mem_filter, placed.exact]
  · have mapped : (entries.filter fun entry => chosen entry.2).map Prod.snd =
        (entries.map Prod.snd).filter chosen := by
      rw [List.filter_map]
      rfl
    rw [mapped]
    exact reordered.filter chosen

/-- Places that are joined injectively are distinct if they are so on both levels. Entries of one
list differ in the inner place, and those of different lists in the outer one. -/
theorem nodup_joined {entries : List (κ × α)} {deeper : κ × α → List (ι × β)} {join : κ → ι → μ}
    (injective : ∀ {place other : κ} {inner otherInner : ι},
      join place inner = join other otherInner → place = other ∧ inner = otherInner)
    (distinct : (entries.map Prod.fst).Nodup)
    (deeperDistinct : ∀ entry ∈ entries, ((deeper entry).map Prod.fst).Nodup) :
    ((entries.flatMap fun entry =>
      (deeper entry).map (Prod.map (join entry.1) id)).map Prod.fst).Nodup := by
  rw [List.map_flatMap, List.nodup_flatMap]
  constructor
  · intro entry member
    rw [List.map_map, show Prod.fst ∘ Prod.map (join entry.1) id =
      join entry.1 ∘ (Prod.fst : ι × β → ι) from rfl, ← List.map_map]
    exact (deeperDistinct entry member).map fun _ _ same => (injective same).2
  · refine (List.pairwise_map.mp distinct).imp fun different => ?_
    intro name member otherMember
    obtain ⟨result, inner, rfl⟩ := List.mem_map.mp member
    obtain ⟨otherResult, otherInner, same⟩ := List.mem_map.mp otherMember
    obtain ⟨_, -, rfl⟩ := List.mem_map.mp inner
    obtain ⟨_, -, rfl⟩ := List.mem_map.mp otherInner
    exact different (injective same).1.symm

/-- Each value may be replaced by the values at places of its own.

Places of places are joined to one place each. Nothing but the joined places is compared, so equal
results at different places count apart.

Proof: every entry is replaced by the entries of its own list, with the joined places. Two of them
with one place come from one entry, and there from one place inside. -/
theorem flatMap {In : α → ι → β → Prop} {expand : α → List β} (each : OneForEach At values)
    (join : κ → ι → μ) (injective : ∀ {place other : κ} {inner otherInner : ι},
      join place inner = join other otherInner → place = other ∧ inner = otherInner)
    (inside : ∀ value ∈ values, OneForEach (In value) (expand value)) :
    OneForEach (fun name result => ∃ place value inner, At place value ∧ In value inner result ∧
      join place inner = name) (values.flatMap expand) := by
  obtain ⟨entries, placed, reordered⟩ := each
  have insideEntries : ∀ entry ∈ entries, OneForEach (In entry.2) (expand entry.2) := fun entry member =>
    inside entry.2 (reordered.subset (List.mem_map_of_mem member))
  choose! deeper deeperPlaced deeperReordered using insideEntries
  refine ⟨entries.flatMap fun entry => (deeper entry).map (Prod.map (join entry.1) id),
    ⟨?_, fun name result => ?_⟩, ?_⟩
  · exact nodup_joined injective placed.distinct fun entry member =>
      (deeperPlaced entry member).distinct
  · constructor
    · intro member
      obtain ⟨entry, inEntries, inner⟩ := List.mem_flatMap.mp member
      obtain ⟨⟨place, found⟩, inDeeper, same⟩ := List.mem_map.mp inner
      obtain ⟨rfl, rfl⟩ := Prod.mk.inj same
      exact ⟨entry.1, entry.2, place, (placed.exact _ _).mp inEntries,
        ((deeperPlaced entry inEntries).exact _ _).mp inDeeper, rfl⟩
    · rintro ⟨place, value, inner, found, foundIn, rfl⟩
      have inEntries := (placed.exact place value).mpr found
      exact List.mem_flatMap.mpr ⟨(place, value), inEntries, List.mem_map.mpr
        ⟨(inner, result), ((deeperPlaced _ inEntries).exact inner result).mpr foundIn, rfl⟩⟩
  · have expanded : (entries.flatMap fun entry => expand entry.2).Perm (values.flatMap expand) := by
      rw [← List.flatMap_map Prod.snd expand]
      exact reordered.flatMap_right expand
    rw [List.map_flatMap]
    refine (List.Perm.flatMap_left entries fun entry member => ?_).trans expanded
    rw [List.map_map]
    exact deeperReordered entry member

/-- Each value may be replaced by another one. Different values may be replaced by equal ones, and
are still counted apart. -/
theorem map (each : OneForEach At values) (change : α → β) :
    OneForEach (fun place result => ∃ value, At place value ∧ change value = result)
      (values.map change) := by
  obtain ⟨entries, placed, reordered⟩ := each
  refine ⟨entries.map (Prod.map id change), ⟨?_, fun place result => ?_⟩, ?_⟩
  · rw [List.map_map]
    exact placed.distinct
  · rw [List.mem_map]
    constructor
    · rintro ⟨⟨place, value⟩, member, same⟩
      obtain ⟨rfl, rfl⟩ := Prod.mk.inj same
      exact ⟨value, (placed.exact _ _).mp member, rfl⟩
    · rintro ⟨value, found, rfl⟩
      exact ⟨(place, value), (placed.exact _ _).mpr found, rfl⟩
  · have mapped : (entries.map (Prod.map id change)).map Prod.snd =
        (entries.map Prod.snd).map change := by
      rw [List.map_map, List.map_map]
      rfl
    rw [mapped]
    exact reordered.map change

/-- Each value may be replaced by another one or left out.

Proof: a value left out is replaced by an empty list, and any other one by a list of one. -/
theorem filterMap (each : OneForEach At values) (change : α → Option β) :
    OneForEach (fun place result => ∃ value, At place value ∧ change value = some result)
      (values.filterMap change) := by
  have all := each.flatMap (fun place (_ : Unit) => place) (fun same => ⟨same, rfl⟩)
    fun value _ => ofOption () (change value)
  rw [List.filterMap_eq_flatMap_toList]
  refine all.congr fun place result => ⟨?_, ?_⟩
  · rintro ⟨place, value, _, found, ⟨-, changed⟩, rfl⟩
    exact ⟨value, found, changed⟩
  · rintro ⟨value, found, changed⟩
    exact ⟨place, value, (), found, ⟨rfl, changed⟩, rfl⟩

end OneForEach

end Storyline
