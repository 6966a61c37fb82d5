import Storyline.Proofs.Json.Ensured
import Storyline.Story.Graph.Document

/-!
# How deep a loaded story is written

What was read from a document is written with hardly more levels than it was read from. A
condition keeps its levels, with one exception: a conjunction or a disjunction whose list was
left out is written with an empty list, one level further down than anything that was there.
-/

namespace Storyline

open Json

namespace Condition

mutual

/-- Whether a conjunction or a disjunction of nothing is part of a formula. Such a list is empty in
the formula, whether it was written so or left out; the formula does not tell these apart. -/
def hasEmptyList : Condition → Bool
  | .all conditions | .any conditions => conditions.isEmpty || someHasEmptyList conditions
  | .negation (some condition) => hasEmptyList condition
  | .negation none | .hasFlag _ _ | .hasItem _ | .unknown => false

/-- Whether a conjunction or a disjunction of nothing is part of one of several formulas. -/
def someHasEmptyList : List Condition → Bool
  | [] => false
  | first :: rest => hasEmptyList first || someHasEmptyList rest

end

/-- How many levels a formula may be written below what it was read from. It is at most one,
however often a list was left out. -/
def excess (condition : Condition) : Nat := condition.hasEmptyList.toNat

/-- How many levels several formulas may be written below what they were read from. It is at most
one, too. -/
def excessOfAll (conditions : List Condition) : Nat := (someHasEmptyList conditions).toNat

variable {bound : Nat}

/-- Several formulas exceed what they were read from as far as one of them does. So what is known
of one formula and of the others is known of them all. -/
theorem excessOfAll_cons (first : Condition) (rest : List Condition) :
    excessOfAll (first :: rest) = max first.excess (excessOfAll rest) := by
  rw [excessOfAll, excess, excessOfAll, someHasEmptyList]
  cases first.hasEmptyList <;> cases someHasEmptyList rest <;> rfl

/-- A list of formulas is written as deep as it was read, unless it was left out. A list that was
left out is empty, and of its levels nothing is said. -/
def ListWithin (bound : Nat) (conditions : List Condition) : Prop :=
  conditions = [] ∨ itemsDepth (toJsons conditions) + 1 ≤ bound + excessOfAll conditions

/-- A formula is written as deep as it was read, apart from lists that were left out. Where no
formula was found, nothing is said. -/
def ChildWithin (bound : Nat) (child : Option Condition) : Prop :=
  ∀ condition, child = some condition → condition.toJson.depth ≤ bound + condition.excess

/-- A junction of formulas is written as deep as it was read, apart from lists that were left out:
its own list, if it has one of nothing, is one level too deep.

Proof: a junction adds its own object and its list to what it lists. If the list was read, it
was among the levels read; if it was left out, its two levels are the object and the one
level allowed. -/
theorem depth_of_listWithin {conditions : List Condition} (within : ListWithin bound conditions)
    {condition : Condition} (junction : condition = .all conditions ∨ condition = .any conditions) :
    condition.toJson.depth ≤ bound + 1 + condition.excess := by
  have written : condition.toJson.depth = itemsDepth (toJsons conditions) + 2 ∧
      condition.excess = (conditions.isEmpty || someHasEmptyList conditions).toNat := by
    rcases junction with rfl | rfl
    · exact ⟨by simp [toJson, Value.depth, membersDepth], by simp [excess, hasEmptyList]⟩
    · exact ⟨by simp [toJson, Value.depth, membersDepth], by simp [excess, hasEmptyList]⟩
  rw [written.1, written.2]
  rcases within with rfl | shallow
  · -- Nothing is listed: the object and its empty list are all that is written.
    change 2 ≤ bound + 1 + 1
    omega
  · have more : excessOfAll conditions ≤ (conditions.isEmpty || someHasEmptyList conditions).toNat := by
      unfold excessOfAll
      cases conditions.isEmpty <;> cases someHasEmptyList conditions <;> decide
    omega

/-- A formula is written as deep as what it was assembled from, and its own object. What the list
and the child are read from is left open, so that the same is said of members and of items.

Proof: by cases of the type. Leaves are one object; a junction has a list and a negation a child,
and these are within the bound by what is assumed of them. -/
theorem depth_of_assemble {kind : Kind} {body : Body} {list : Unit → Except Refusal (List Condition)}
    {child : Unit → Except Refusal (Option Condition)}
    (listed : ∀ {conditions}, list () = .ok conditions → ListWithin bound conditions)
    (found : ∀ {condition}, child () = .ok condition → ChildWithin bound condition)
    {condition : Condition} (assembled : assemble kind body list child = .ok condition) :
    condition.toJson.depth ≤ bound + 1 + condition.excess := by
  -- Only junctions and negations hold anything that is deeper than their own object.
  have flat {other : Condition} (one : other.toJson.depth = 1) :
      other.toJson.depth ≤ bound + 1 + other.excess := by omega
  cases kind with
  | hasFlag =>
    obtain ⟨⟨flag, value⟩, -, made⟩ := ok_of_bind assembled
    cases made
    cases value <;> exact flat rfl
  | hasItem =>
    obtain ⟨item, -, made⟩ := ok_of_bind assembled
    cases made
    exact flat rfl
  | all =>
    obtain ⟨conditions, read, made⟩ := ok_of_map assembled
    exact depth_of_listWithin (listed read) (Or.inl made.symm)
  | any =>
    obtain ⟨conditions, read, made⟩ := ok_of_map assembled
    exact depth_of_listWithin (listed read) (Or.inr made.symm)
  | negation =>
    obtain ⟨inner, read, rfl⟩ := ok_of_map assembled
    cases inner with
    | none => exact flat rfl
    | some condition =>
      have within := found read condition rfl
      have written : (negation (some condition)).toJson.depth = condition.toJson.depth + 1 := by
        simp [toJson, Value.depth, membersDepth]
      have same : (negation (some condition)).excess = condition.excess := rfl
      omega
  | unknown =>
    cases body with
    | members members =>
      cases assembled
      exact flat rfl
    | items items =>
      obtain ⟨_, -, rfl⟩ := ok_of_map assembled
      exact flat rfl

/-- No formula is within any levels. There is none to be written. -/
theorem childWithin_none : ChildWithin bound none := by
  intro condition same
  cases same

/-- What was found in the place of a formula is written as deep as it was read, if it passes
what follows unchanged. The reader looks for null before it reads a formula, so the value is
either one. -/
theorem childWithin_of_optional {value : Value}
    (whole : ∀ {condition}, ofValue value = .ok condition →
      condition.toJson.depth ≤ value.depth + condition.excess)
    {next : Option Condition → Except Refusal (Option Condition)} {child : Option Condition}
    (unchanged : ∀ {found}, next found = .ok child → child = found)
    (read : (match value with
      | .null => Except.ok none >>= next
      | _ => (ofValue value).map some >>= next) = .ok child) :
    ChildWithin value.depth child := by
  rintro condition rfl
  split at read
  · cases unchanged read
  · obtain ⟨found, here, passed⟩ := ok_of_bind read
    cases unchanged passed
    obtain ⟨found, here, made⟩ := ok_of_map here
    cases made
    exact whole here

/-- What is within some levels is within more. A member may stand beside others that are deeper. -/
theorem ChildWithin.mono {more : Nat} {child : Option Condition} (within : ChildWithin bound child)
    (less : bound ≤ more) : ChildWithin more child := by
  intro condition same
  have shallow := within condition same
  omega

mutual

/-- A formula is written as deep as the value that it was read from, apart from lists that were
left out. This holds of objects and of arrays, whose first item is the tag.

Proof: by induction on the value, together with the places where formulas stand in it: a list of
values, members and items. Each adds one level, in the value as in what is written. -/
theorem depth_of_ofValue : ∀ (value : Value) {condition : Condition},
    ofValue value = .ok condition → condition.toJson.depth ≤ value.depth + condition.excess
  | .object members, condition, read => by
    obtain ⟨kind, -, assembled⟩ := ok_of_bind read
    exact depth_of_assemble (listWithin_of_listIn members) (childWithin_of_childIn members) assembled
  | .array [], condition, read => by cases read
  | .array (tag :: items), condition, read => by
    obtain ⟨kind, -, assembled⟩ := ok_of_bind read
    have whole := depth_of_assemble (listWithin_of_listAt items) (childWithin_of_childAt items) assembled
    rw [Value.depth, itemsDepth]
    omega
  | .null, condition, read | .bool _, condition, read | .number _, condition, read
  | .text _, condition, read => by cases read

/-- Formulas are written as deep as the values that they were read from. The deepest of them
decides on both sides. -/
theorem depth_of_ofValues : ∀ (values : List Value) {conditions : List Condition},
    ofValues values = .ok conditions →
      itemsDepth (toJsons conditions) ≤ itemsDepth values + excessOfAll conditions
  | [], conditions, read => by
    cases read
    exact Nat.zero_le _
  | value :: rest, conditions, read => by
    obtain ⟨condition, here, onward⟩ := ok_of_bind read
    obtain ⟨others, behind, made⟩ := ok_of_bind onward
    cases made
    have first := depth_of_ofValue value here
    have later := depth_of_ofValues rest behind
    rw [toJsons, itemsDepth, itemsDepth, excessOfAll_cons]
    omega

/-- Formulas are written as deep as the array that they were read from. Only an array is read as
formulas. -/
theorem depth_of_listOf : ∀ (value : Value) {conditions : List Condition},
    listOf value = .ok conditions →
      itemsDepth (toJsons conditions) + 1 ≤ value.depth + excessOfAll conditions
  | .array items, conditions, read => by
    have whole := depth_of_ofValues items read
    rw [Value.depth]
    omega
  | .object _, conditions, read | .null, conditions, read | .bool _, conditions, read
  | .number _, conditions, read | .text _, conditions, read => by cases read

/-- The formulas under a member are written as deep as the members, unless they were left out.
Members of other names are passed over, and a second list is refused. -/
theorem listWithin_of_listIn : ∀ (members : List (String × Value)) {conditions : List Condition},
    listIn members = .ok conditions → ListWithin (membersDepth members) conditions
  | [], conditions, read => by
    cases read
    exact Or.inl rfl
  | (name, value) :: rest, conditions, read => by
    rw [listIn] at read
    split at read
    · obtain ⟨found, here, onward⟩ := ok_of_bind read
      obtain ⟨_, -, made⟩ := ok_of_bind onward
      cases made
      have whole := depth_of_listOf value here
      right
      rw [membersDepth]
      omega
    · rcases listWithin_of_listIn rest read with nothing | within
      · exact Or.inl nothing
      · right
        rw [membersDepth]
        omega

/-- The formulas in the only item are written as deep as the item, unless they were left out. An
item behind it is refused, so it is the only one. -/
theorem listWithin_of_listAt : ∀ (items : List Value) {conditions : List Condition},
    listAt items = .ok conditions → ListWithin (itemsDepth items) conditions
  | [], conditions, read => by
    cases read
    exact Or.inl rfl
  | value :: rest, conditions, read => by
    obtain ⟨found, here, onward⟩ := ok_of_bind read
    obtain ⟨_, -, made⟩ := ok_of_bind onward
    cases made
    have whole := depth_of_listOf value here
    right
    rw [itemsDepth]
    omega

/-- The formula under a member is written as deep as the members. Members of other names are passed
over, and a second formula is refused. -/
theorem childWithin_of_childIn : ∀ (members : List (String × Value)) {child : Option Condition},
    childIn members = .ok child → ChildWithin (membersDepth members) child
  | [], child, read => by
    cases read
    exact childWithin_none
  | (name, value) :: rest, child, read => by
    rw [childIn] at read
    rw [membersDepth]
    split at read
    · refine (childWithin_of_optional (depth_of_ofValue value) (fun passed => ?_) read).mono
        (Nat.le_max_left _ _)
      obtain ⟨_, -, made⟩ := ok_of_bind passed
      exact (Except.ok.inj made).symm
    · exact (childWithin_of_childIn rest read).mono (Nat.le_max_right _ _)

/-- The formula in the only item is written as deep as the item. An item behind it is refused, so
it is the only one. -/
theorem childWithin_of_childAt : ∀ (items : List Value) {child : Option Condition},
    childAt items = .ok child → ChildWithin (itemsDepth items) child
  | [], child, read => by
    cases read
    exact childWithin_none
  | value :: rest, child, read => by
    refine (childWithin_of_optional (depth_of_ofValue value) (fun passed => ?_) read).mono
      (Nat.le_max_left _ _)
    obtain ⟨_, -, made⟩ := ok_of_bind passed
    exact (Except.ok.inj made).symm

end

/-- A formula is written as deep as the body of the tagged value that it was read from, and its own
object. Where in the value the tag stood does not count. -/
theorem depth_of_ofTagged {tag : String} {body : Body} {condition : Condition}
    (read : ofTagged tag body = .ok condition) :
    condition.toJson.depth ≤ body.depth + 1 + condition.excess := by
  unfold ofTagged at read
  cases body with
  | members members =>
    exact depth_of_assemble (listWithin_of_listIn members) (childWithin_of_childIn members) read
  | items items =>
    exact depth_of_assemble (listWithin_of_listAt items) (childWithin_of_childAt items) read

/-- A formula that is written at a level stays within those that readers enter, apart from lists
that were left out. Without a list that was left out it is shallow there. -/
def Fits (level : Nat) (condition : Condition) : Prop :=
  level + condition.toJson.depth ≤ 127 + condition.excess

/-- A formula that was read fits where it was found. The reader enters at most 127 levels, so this
bounds what is written, not only what was read.

Proof: a tagged value is kept in memory without its tag, and its body is within the levels entered;
the formula is at most one object and its excess above the body. -/
theorem ensures_reader : reader.Ensures Fits := by
  intro level outline condition leveled entered read
  obtain ⟨⟨tag, body⟩, tagged, onward⟩ := ok_of_bind read
  have around := Reader.ensures_tagged _ leveled entered tagged
  have within := depth_of_ofTagged onward
  dsimp only at around
  unfold Fits
  omega

end Condition

/-! ## Texts -/

/-- The guard of a variant is written as deep as the variant was read, without its own object. Its
content is a text and has no level. -/
theorem Variant.childWithin_of_record {body : Body} {variant : Variant}
    (read : body.record title fieldsInMemory {} = .ok variant) :
    Condition.ChildWithin body.depth variant.condition := by
  refine Body.record_keeps (fun variant => Condition.ChildWithin body.depth variant.condition) ?_
    (Nat.le_refl _) Condition.childWithin_none read
  simp only [fieldsInMemory, List.forall_mem_cons]
  refine ⟨?_, ?_, List.forall_mem_nil _⟩
  · exact Field.keeps_of_apart rfl fun _ _ kept => kept
  · refine Field.keeps_of_read rfl (fun {value child} within read => ?_) fun found _ => found
    split at read
    · cases read
      exact Condition.childWithin_none
    · obtain ⟨condition, here, rfl⟩ := ok_of_map read
      intro other same
      cases same
      have shallow := Condition.depth_of_ofValue value here
      omega

/-- The guard of a variant is written one level less deep than the variant was read. A variant may
be read from an object or from an array. -/
theorem Variant.depth_of_ofValue {value : Value} {variant : Variant}
    (read : ofValue value = .ok variant) {condition : Condition}
    (guarded : variant.condition = some condition) :
    condition.toJson.depth + 1 ≤ value.depth + condition.excess := by
  cases value with
  | object members =>
    rw [ofValue] at read
    have within : _ ≤ membersDepth members + _ := childWithin_of_record read condition guarded
    rw [Value.depth]
    omega
  | array items =>
    rw [ofValue] at read
    have within : _ ≤ itemsDepth items + _ := childWithin_of_record read condition guarded
    rw [Value.depth]
    omega
  | _ => cases read

/-- A text whose guards fit at the level of their variants. A variant stands in an array, and its
guard in the object of the variant. -/
def SceneText.Fits (level : Nat) (text : SceneText) : Prop :=
  ∀ condition ∈ text.conditions, condition.Fits (level + 2)

/-- A text that was read fits where it was found. A plain text has no guards.

Proof: the reader sees the whole value, which is therefore shallow; so is each variant in it, and a
guard is one level within its variant. -/
theorem SceneText.ensures_reader : reader.Ensures Fits := by
  intro level outline text leveled entered read condition listed
  obtain ⟨value, whole, onward⟩ := ok_of_bind read
  have shallow := Reader.ensures_complete leveled entered whole
  cases value with
  | text content =>
    cases onward
    cases listed
  | array items =>
    have options := ok_of_mapError onward
    rw [ofValue] at options
    cases taken : items.mapM Variant.ofValue with
    | error refusal =>
      rw [taken] at options
      cases options
    | ok variants =>
      rw [taken] at options
      cases options
      obtain ⟨variant, among, guarded⟩ := List.mem_filterMap.mp listed
      obtain ⟨item, inside, here⟩ := exists_of_mem_mapM taken among
      have around := shallow.item inside
      have within := Variant.depth_of_ofValue here guarded
      unfold Value.Shallow at around
      unfold Condition.Fits
      omega
  | _ => cases onward

/-! ## Nodes -/

/-- No link that was read is the empty name. A link that is written as the empty name is taken for
none. -/
theorem ensures_linkReader : linkReader.Ensures fun _ link => link ≠ some "" := by
  rintro level outline link leveled entered read rfl
  obtain ⟨found, -, kept⟩ := ok_of_map read
  have named := (Option.filter_eq_some_iff.mp kept).2
  cases named

/-- A choice whose guard fits and whose link has a name. Nothing is said of its texts
and effects. -/
structure Choice.Fits (level : Nat) (choice : Choice) : Prop where
  condition : ∀ condition, choice.condition = some condition → condition.Fits level
  named : choice.next ≠ some ""

/-- A choice that was read fits within its own object.

Proof: fields are looked at one by one. Only the link and the guard touch what is said; the others
leave both alone. -/
theorem Choice.ensures_reader : reader.Ensures fun level choice => choice.Fits (level + 1) := by
  have blank (level : Nat) : ({} : Choice).Fits level := ⟨fun _ same => (by cases same), by simp⟩
  refine Reader.ensures_record Fits blank fun level entered => ?_
  simp only [fields, List.forall_mem_cons]
  refine ⟨?text, ?next, ?condition, ?effects, ?timeCost, ?deathMessage, ?winMessage,
    List.forall_mem_nil _⟩
  case next => exact ensures_linkReader.keeps entered rfl fun named fits => { fits with named }
  case condition =>
    exact Condition.ensures_reader.optional.keeps entered rfl fun condition fits =>
      { fits with condition }
  all_goals exact Field.keeps_of_apart rfl fun _ _ fits => { fits with }

/-- The level at which the guards of a node stand, given the level of its members: those of a
branch among them, all others in an array of objects. Endings have no guards, so their level does
not matter. -/
def Node.guardLevel (level : Nat) : Node → Nat
  | .logic _ => level
  | _ => level + 2

/-- A node whose guards fit and whose links have names. The links are those of all its choices and
its own. -/
structure Node.Fits (level : Nat) (node : Node) : Prop where
  conditions : ∀ condition ∈ node.conditions, condition.Fits (node.guardLevel level)
  named : ∀ link ∈ node.edges, link ≠ ""

/-- A record of a node whose guards fit and whose links have names. The fields of all types of
nodes stand side by side here, as in the reader. -/
structure NodeRecord.Fits (level : Nat) (record : NodeRecord) : Prop where
  text : ∀ text, record.text = some text → text.Fits level
  choices : ∀ choice ∈ record.choices, choice.Fits (level + 2)
  condition : ∀ condition, record.condition = some condition → condition.Fits level
  next : record.next ≠ some ""
  nextTrue : record.nextTrue ≠ some ""
  nextFalse : record.nextFalse ≠ some ""

namespace NodeRecord

variable {level : Nat} {record : NodeRecord}

/-- A record without any part fits. It has no guard and no link. -/
theorem fits_blank (level : Nat) : ({} : NodeRecord).Fits level where
  text _ same := by cases same
  choices _ listed := by cases listed
  condition _ same := by cases same
  next := by simp
  nextTrue := by simp
  nextFalse := by simp

/-- Every field keeps a record fitting. So the order in which the fields come does not matter. -/
theorem fields_keep (entered : level ≤ 127) :
    ∀ field ∈ fields, field.Keeps (Outline.Leveled level) (Fits level) := by
  simp only [fields, List.forall_mem_cons]
  refine ⟨?type, ?text, ?choices, ?next, ?variableName, ?condition, ?nextTrue, ?nextFalse,
    ?deathMessage, ?winMessage, ?effects, ?location, ?image, ?timeSet, List.forall_mem_nil _⟩
  case text =>
    exact SceneText.ensures_reader.optional.keeps entered rfl fun text fits => { fits with text }
  case choices =>
    exact Choice.ensures_reader.list.keeps entered rfl fun choices fits => { fits with choices }
  case next => exact ensures_linkReader.keeps entered rfl fun next fits => { fits with next }
  case condition =>
    exact Condition.ensures_reader.optional.keeps entered rfl fun condition fits =>
      { fits with condition }
  case nextTrue =>
    exact ensures_linkReader.keeps entered rfl fun nextTrue fits => { fits with nextTrue }
  case nextFalse =>
    exact ensures_linkReader.keeps entered rfl fun nextFalse fits => { fits with nextFalse }
  -- The other fields hold neither guards nor links.
  all_goals exact Field.keeps_of_apart rfl fun _ _ fits => { fits with }

/-- A link that is not the empty name has none among its names. A link that is missing has
no name. -/
theorem ne_empty_of_mem {link : Option NodeId} (named : link ≠ some "") :
    ∀ id ∈ link.toList, id ≠ "" := by
  rintro id listed rfl
  exact named (Option.mem_toList.mp listed)

/-- A record that fits describes a node that fits. Fields that its type does not ask for are
dropped, and what is said of them with them.

Proof: by cases of the type. A text that is missing is an empty plain text, which has no guards. -/
theorem Fits.toNode (fits : record.Fits level) : record.toNode.Fits level := by
  have guards : ∀ condition ∈ (record.text.getD (.plain "")).conditions,
      condition.Fits (level + 2) := by
    cases given : record.text with
    | none => exact List.forall_mem_nil _
    | some text => exact fits.text text given
  unfold NodeRecord.toNode
  split
  · exact ⟨fun condition listed => fits.condition condition (Option.mem_toList.mp listed),
      List.forall_mem_append.mpr ⟨ne_empty_of_mem fits.nextTrue, ne_empty_of_mem fits.nextFalse⟩⟩
  · exact ⟨List.forall_mem_nil _, List.forall_mem_nil _⟩
  · exact ⟨List.forall_mem_nil _, List.forall_mem_nil _⟩
  · exact ⟨guards, ne_empty_of_mem fits.next⟩
  · refine ⟨List.forall_mem_append.mpr ⟨guards, fun condition listed => ?_⟩,
      List.forall_mem_append.mpr ⟨fun id listed => ?_, ne_empty_of_mem fits.next⟩⟩
    · obtain ⟨choice, among, guarded⟩ := List.mem_filterMap.mp listed
      exact (fits.choices choice among).condition condition guarded
    · obtain ⟨choice, among, linked⟩ := List.mem_filterMap.mp listed
      rintro rfl
      exact (fits.choices choice among).named linked

end NodeRecord

/-- A node that was read fits within its own object. An unknown type makes a scene with choices, of
which the same is said. -/
theorem Node.ensures_reader : reader.Ensures fun level node => node.Fits (level + 1) := by
  intro level outline node leveled entered read
  obtain ⟨record, here, rfl⟩ := ok_of_map read
  have fits := Reader.ensures_record NodeRecord.Fits NodeRecord.fits_blank
    (fun _ => NodeRecord.fields_keep) leveled entered here
  exact fits.toNode

/-! ## Graphs -/

/-- The nodes of a graph that was loaded fit at the level of their members. These members are on
the third level: the story, its table of nodes, the node.

Proof: the table of nodes is one field of the story, and what its reader ensures of one node it
ensures of every entry. Title and start leave the nodes alone. -/
theorem Graph.fits_of_ofText {text : String} {graph : Graph} (loaded : ofText text = .ok graph) :
    ∀ entry ∈ graph.nodes.entries, entry.2.Fits 3 := by
  have ensures : reader.Ensures fun level graph =>
      ∀ entry ∈ graph.nodes.entries, entry.2.Fits (level + 3) := by
    refine Reader.ensures_record (fun level (graph : Graph) =>
      ∀ entry ∈ graph.nodes.entries, entry.2.Fits (level + 2)) (fun _ => List.forall_mem_nil _)
      fun level entered => ?_
    simp only [parts, List.forall_mem_cons]
    refine ⟨?title, ?start, ?nodes, List.forall_mem_nil _⟩
    case nodes => exact Node.ensures_reader.table.keeps entered rfl fun nodes _ => nodes
    all_goals exact Field.keeps_of_apart rfl fun _ _ fits => fits
  exact ensures.document loaded

end Storyline
