import Storyline.Proofs.Json.Reader
import Storyline.Story.Condition.Document

/-!
# Conditions as they are written

A condition is written as an object that starts with its tag. Read from a document or from
memory, the object is the condition again: what is left out of it stands for the value true
or for a negation of nothing.
-/

namespace Storyline

open Json

namespace Condition

/-- A type is known by its tag. So no two types share a tag, and the tag that stands for an unknown
type is no other's. -/
theorem Kind.ofTag_tag (kind : Kind) : ofTag kind.tag = kind := by
  cases kind <;> decide

variable {members : List (String × Value)}

/-- A member that the others do not name is not refused. A member's name counts whatever its value
is, so only the names are looked at. -/
theorem refuseAgain_of_forall_ne {name : String} (other : ∀ member ∈ members, member.1 ≠ name) :
    refuseAgain name members = .ok () := by
  refine if_neg fun again => ?_
  obtain ⟨member, listed, same⟩ := List.any_eq_true.mp again
  exact other member listed (beq_iff_eq.mp same)

/-- The object of a type is assembled from its members. What stands behind the tag must not be
named like it: a second tag is refused, or stands among the members of another type.

Proof: the tag is the first member, so it is known at once, and its type is asked of the tag's
text. Each type then passes over the tag when it looks for its own members, which no type
names so. -/
theorem ofValue_object (kind : Kind) (untagged : ∀ member ∈ members, member.1 ≠ "type") :
    ofValue (.object (("type", .text kind.tag) :: members)) =
      assemble kind (.members members) (fun _ => listIn members) (fun _ => childIn members) := by
  -- No type has a field named like the tag, so the tag is passed over once it is known.
  have noFlag : flagFields.find? (·.answersTo "type") = none := rfl
  have noItem : itemFields.find? (·.answersTo "type") = none := rfl
  rw [ofValue, kindIn, if_pos rfl]
  simp only [Value.face, Kind.ofFace, Kind.ofTag_tag, orMismatch_ok, ok_bind,
    refuseAgain_of_forall_ne untagged, pure, Except.pure]
  cases kind with
  | hasFlag => simp only [assemble, Body.record_cons noFlag]
  | hasItem => simp only [assemble, Body.record_cons noItem]
  | all | any => simp only [assemble, listIn]; rw [if_neg (by decide)]
  | negation => simp only [assemble, childIn]; rw [if_neg (by decide)]
  | unknown => rfl

/-- What is read of a tag and members is what their object holds. The document may stand at any
level at which the object is not too deep. -/
theorem takes_object (kind : Kind) {condition : Condition}
    (untagged : ∀ member ∈ members, member.1 ≠ "type")
    (holds : ofValue (.object (("type", .text kind.tag) :: members)) = .ok condition) :
    reader.Takes (.object (("type", .text kind.tag) :: members)) condition := by
  intro level shallow
  rw [ofValue_object kind untagged] at holds
  rw [reader, Reader.takes_tagged _ _ untagged level shallow]
  simp only [ok_bind, ofTagged, Kind.ofTag_tag, holds]

/-- A condition is written as an object that starts with its tag. No member behind the tag is named
like the tag. The tag of a condition that is unknown names an unknown type again. -/
theorem toJson_eq_tagged (condition : Condition) : ∃ kind members,
    condition.toJson = .object (("type", .text (Kind.tag kind)) :: members) ∧
      ∀ member ∈ members, member.1 ≠ "type" := by
  cases condition with
  | hasFlag flag value => cases value <;> exact ⟨.hasFlag, _, rfl, by simp⟩
  | hasItem item => exact ⟨.hasItem, _, rfl, by simp⟩
  | all conditions => exact ⟨.all, _, rfl, by simp⟩
  | any conditions => exact ⟨.any, _, rfl, by simp⟩
  | negation condition => cases condition <;> exact ⟨.negation, _, rfl, by simp⟩
  | unknown => exact ⟨.unknown, _, rfl, by simp⟩

mutual

/-- A condition is read back from memory. Nothing is assumed of it: texts, nesting and unknown
types are all kept.

Proof: by induction on the condition. A condition that holds no other reads back by computation;
the types that hold others use that these are read back. -/
theorem ofValue_toJson : ∀ condition : Condition, ofValue condition.toJson = .ok condition
  | .hasFlag flag true => (ofValue_object .hasFlag (by simp)).trans rfl
  | .hasFlag flag false => (ofValue_object .hasFlag (by simp)).trans rfl
  | .hasItem item => (ofValue_object .hasItem (by simp)).trans rfl
  | .all conditions => by
    rw [toJson, ofValue_object .all (by simp)]
    simp only [assemble, listIn, if_true, listOf, ofValues_toJsons conditions]
    rfl
  | .any conditions => by
    rw [toJson, ofValue_object .any (by simp)]
    simp only [assemble, listIn, if_true, listOf, ofValues_toJsons conditions]
    rfl
  | .negation none => (ofValue_object .negation (by simp)).trans rfl
  | .negation (some condition) => by
    -- A missing condition is null, so the reader looks at what stands there first.
    have inner := ofValue_toJson condition
    obtain ⟨kind, members, tagged, -⟩ := toJson_eq_tagged condition
    rw [toJson, ofValue_object .negation (by simp)]
    rw [tagged] at inner ⊢
    simp only [assemble, childIn, if_true, inner]
    rfl
  | .unknown => (ofValue_object .unknown (by simp)).trans rfl

/-- Conditions are read back from memory. They are read back one by one, in their order. -/
theorem ofValues_toJsons : ∀ conditions : List Condition,
    ofValues (toJsons conditions) = .ok conditions
  | [] => rfl
  | first :: rest => by
    simp only [toJsons, ofValues, ofValue_toJson first, ofValues_toJsons rest, ok_bind]
    rfl

end

/-- A condition is read back from a document. It may stand at any level at which it is not too
deep; how deep that is, the reader of the document says and not the condition. -/
theorem takes_toJson (condition : Condition) : reader.Takes condition.toJson condition := by
  have holds := ofValue_toJson condition
  obtain ⟨kind, members, tagged, untagged⟩ := toJson_eq_tagged condition
  rw [tagged] at holds ⊢
  exact takes_object kind untagged holds

/-- A condition that may be missing is read back if it is there. It is never written as null, which
would stand for a condition that is missing. -/
theorem takes_some (condition : Condition) :
    (Reader.optional reader).Takes condition.toJson (some condition) := by
  refine Reader.takes_optional (takes_toJson condition) ?_
  obtain ⟨kind, members, tagged, -⟩ := toJson_eq_tagged condition
  rw [tagged]
  intro same
  cases same

mutual

/-- A condition is written without numbers. So no rounding of numbers comes into its reading. -/
theorem exact_toJson : ∀ condition : Condition, condition.toJson.Exact
  | .hasFlag flag true => .object (by simp [Value.Exact.text])
  | .hasFlag flag false => .object (by simp [Value.Exact.text, Value.Exact.bool])
  | .hasItem item => .object (by simp [Value.Exact.text])
  | .all conditions | .any conditions => by
    have each : (Value.array (toJsons conditions)).Exact := .array (exact_toJsons conditions)
    exact .object (by simp [Value.Exact.text, each])
  | .negation none => .object (by simp [Value.Exact.text])
  | .negation (some condition) => .object (by simp [Value.Exact.text, exact_toJson condition])
  | .unknown => .object (by simp [Value.Exact.text])

/-- Conditions are written without numbers. This holds for a list of any length, and of each value
in it. -/
theorem exact_toJsons : ∀ conditions : List Condition, ∀ value ∈ toJsons conditions, value.Exact
  | [] => fun _ member => by cases member
  | first :: rest => fun value member => by
    rcases List.mem_cons.mp member with rfl | later
    · exact exact_toJson first
    · exact exact_toJsons rest value later

end

end Condition

end Storyline
