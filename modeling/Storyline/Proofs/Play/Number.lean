import Storyline.Proofs.Decimal.Spelling
import Storyline.Proofs.Play.Batches
import Storyline.Proofs.Play.Typed

/-!
# Numbers in texts

Day and clock take a number, and yet the number may come in a text: in an effect of the story,
or from the player at a scene that asks for it. However the text spells a number that fits the
field, the field then holds this very number, and the outcome reports that it was set. The
player's text goes the same way as the text in an effect, only that the blanks around it are
gone before.

So a number survives when it is written as a text and read from there again, over the whole
range of the field.
-/

namespace Storyline

open Decimal

/-- A field that takes a number, and how the number gets there. -/
inductive StateField.TakesNumber : StateField → (State → Int64 → State) → Prop where
  | day : TakesNumber .day fun state number => { state with day := number }
  | minutes : TakesNumber .minutes fun state number => { state with minutes := number }

variable {number : Int64} {text : String} {field : StateField} {write : State → Int64 → State}

/-- A text that tells a number is read as the number. A plus, leading zeros and blanks at both ends
are all part of telling a number. -/
theorem Setting.toInteger?_of_tells (tells : Tells text number.toInt) :
    (Setting.text text).toInteger? = some number := by
  unfold Setting.toInteger?
  exact tells.toInteger?_eq

/-- A number as a text tells the number. It is told over the whole range of 64 bits, the least
number included. -/
theorem Setting.tells_toText (number : Int64) :
    Tells (Setting.integer number).toText number.toInt := by
  have spells := spells_writeInteger number.toInt
  exact spells.tells

/-- A setting that is read as a number stores the number. It makes no difference whether the
setting was a number to begin with or a text. -/
theorem Effect.applySingle_of_toInteger? (takes : field.TakesNumber write) {value : Setting}
    (read : value.toInteger? = some number) (state : State) :
    (Effect.setValue field.name value).applySingle state =
      (.changed (.valueSet field), write state number) := by
  have named : StateField.named? field.name = some field := by cases takes <;> rfl
  simp only [applySingle, named]
  cases takes with
  | day => simp only [State.setNumber, read]
  | minutes => simp only [State.setNumber, read]

/-- What is read as a number is stored and reported first, and the effects behind it come to what
they come to from there. The event of the field comes before those of the other effects, as it does
in the list. -/
theorem Effect.applyAll_of_toInteger? (takes : field.TakesNumber write) {value : Setting}
    (read : value.toInteger? = some number) (behind : List Effect) (state : State) :
    Effect.applyAll (.setValue field.name value :: behind) state =
      Effect.continued ({ events := [.valueSet field] }, write state number) behind := by
  rw [applyAll_cons, applySingle_of_toInteger? takes read]
  rfl

/-- A text typed for a field that takes a number is a setting of the field. The player's text thus
goes through the very same reading as a text in an effect. -/
theorem State.store_number (takes : field.TakesNumber write) (state : State) (value : String) :
    state.store (some field.name) value =
      Effect.applyAll [.setValue field.name (.text value)] state := by
  cases takes <;> rfl

/-- A text typed for a field that takes a number stores the number that it tells. The blanks that
the text has around it play no part, although those of a typed text are gone here. -/
theorem State.store_of_tells (takes : field.TakesNumber write) (tells : Tells text number.toInt)
    (state : State) :
    state.store (some field.name) text = ({ events := [.valueSet field] }, write state number) := by
  rw [store_number takes, Effect.applyAll_of_toInteger? takes (Setting.toInteger?_of_tells tells)]
  rfl

namespace Narrator

/-- A number that was written as a text is read from it again. Of all texts, those that tell the
number are the ones that are read digit by digit as the number. From each of them a field that
takes a number gets this number and no other: by an effect of the story, before the effects behind
it, and by the player's text at a scene that asks for the field, before the link is followed. Both
times the outcome reports first that the field was set.

Nothing is assumed of the number but that it fits the field, and nothing of the texts but that they
tell it; in particular numbers beyond the exact range of floating point are among them. The state,
the story and the effects behind are any.

Proof: a text tells a number exactly if its digits are read as the number, and a setting that is
read as a number goes to the field whichever way it came. -/
theorem told_number_is_stored (number : Int64) :
    (Setting.text (Setting.integer number).toText).toInteger? = some number ∧
      Tells (Setting.integer number).toText number.toInt ∧
      ∀ text : String,
        (Tells text number.toInt ↔
          integer? (Text.trimmed text.toList) = some number.toInt) ∧
        (Tells text number.toInt →
          (Setting.text text).toInteger? = some number ∧
          ∀ field write, StateField.TakesNumber field write →
            let effect := Effect.setValue field.name (.text text)
            (∀ state, effect.applySingle state =
                (.changed (.valueSet field), write state number)) ∧
              (∀ behind state, Effect.applyAll (effect :: behind) state =
                Effect.continued ({ events := [.valueSet field] }, write state number) behind) ∧
              ∀ (narrator : Narrator) (state : State) (node : InputNode),
                narrator.graph.node? state.currentScene = some (.input node) →
                  node.variableName = some field.name →
                    narrator.submit state text =
                      (narrator.follow (write state number) state.currentScene node.next
                        none).after { events := [.valueSet field] }) := by
  have toldBack : Tells (Setting.integer number).toText number.toInt := Setting.tells_toText number
  refine ⟨Setting.toInteger?_of_tells toldBack, toldBack, fun text => ⟨?_, fun tells => ?_⟩⟩
  · rw [tells_iff, integer?_eq_some_iff]
  · have read : (Setting.text text).toInteger? = some number := Setting.toInteger?_of_tells tells
    refine ⟨read, fun field write takes => ⟨?_, ?_, ?_⟩⟩
    · exact Effect.applySingle_of_toInteger? takes read
    · exact Effect.applyAll_of_toInteger? takes read
    · intro narrator state node found asked
      obtain ⟨tellsTrimmed, something⟩ := tells.trim
      have submitted := submit_eq found something
      rw [asked, State.store_of_tells takes tellsTrimmed] at submitted
      exact submitted

/-- A minute that no floating-point number hits is typed with a plus, zeros and blanks, and the
first day that there is comes as a text in an effect. Both are stored as they are. A floating-point
number on the way would have rounded the first of them. -/
theorem distant_minute_is_stored :
    let minute : Int64 := 9007199254740993
    let text := "\u2003+009007199254740993\n"
    let story := deskStory "timeMinutes"
    let turn := story.submit atDesk text
    Tells text minute.toInt ∧
      turn.state = { atDesk with minutes := minute, currentScene := "hall" } ∧
      (∃ resolved, turn.answer = .ok resolved ∧ resolved.outcome.events = [.valueSet .minutes]) ∧
      (Effect.setValue "dayIndex" (.text "-09223372036854775808 ")).applySingle atDesk =
        (.changed (.valueSet .day), { atDesk with day := Int64.minValue }) := by
  intro minute text story turn
  have late : Tells text minute.toInt := tells_iff.mpr (integer?_eq_some_iff.mp (by decide))
  have early : Tells "-09223372036854775808 " Int64.minValue.toInt :=
    tells_iff.mpr (integer?_eq_some_iff.mp (by decide))
  have found : story.graph.node? atDesk.currentScene = some (.input (desk "timeMinutes")) := rfl
  obtain ⟨-, typed⟩ := ((told_number_is_stored minute).2.2 text).2 late
  obtain ⟨-, given⟩ := ((told_number_is_stored Int64.minValue).2.2 _).2 early
  have submitted : turn = (story.resolveFrom { atDesk with minutes := minute } "hall").after
      { events := [.valueSet .minutes] } := (typed .minutes _ .minutes).2.2 story atDesk _ found rfl
  have entered := resolveFrom_of_resolves (.arrives (.here "hall") rfl (.choice _ rfl) :
    story.Resolves { atDesk with minutes := minute } "hall" _)
  rw [submitted, entered]
  exact ⟨late, rfl, ⟨_, rfl, rfl⟩, (given .day _ .day).1 atDesk⟩

end Narrator

end Storyline
