import Storyline.Proofs.Reveal.Protocol

/-!
# The frames of a reveal

While a text is revealed the host is shown frames of it. Whatever else is asked of the
engine meanwhile, each frame is a beginning of the text, longer than the frame before it,
and ends between two characters. No frame but the whole text ends inside a tag. If the
reveal is completed, and its text is not empty, the last frame is the whole text.
-/

namespace Storyline.Reveal

/-- What a happening shows of a reveal. -/
def Happening.frame? (handle : Nat) : Happening → Option (List Char)
  | .told (.frame other shown) => if other = handle then some shown else none
  | _ => none

/-- The frames of a reveal, in order. -/
def framesOf (handle : Nat) (log : List Happening) : List (List Char) :=
  log.filterMap (Happening.frame? handle)

/-- A longer log has the frames of its parts. Frames of other reveals in between are passed over. -/
theorem framesOf_append (handle : Nat) (log told : List Happening) :
    framesOf handle (log ++ told) = framesOf handle log ++ framesOf handle told := by
  unfold framesOf
  rw [List.filterMap_append]

/-- A beginning of a text ends at a position between two characters, also where the text is counted
in bytes.

Proof: a beginning of the characters and the rest behind it join to the text, so the boundary
between them is a position of it. -/
theorem exists_position {text : String} {frame : List Char} (begins : frame <+: text.toList) :
    ∃ (position : text.Pos) (rest : String), position.Splits (String.ofList frame) rest := by
  obtain ⟨rest, whole⟩ := begins
  have parts : text = String.ofList frame ++ String.ofList rest := by
    rw [← String.ofList_append, whole, String.ofList_toList]
  have valid : (String.ofList frame).rawEndPos.IsValid text :=
    String.Pos.Raw.isValid_iff_exists_append.mpr ⟨_, _, parts, rfl⟩
  exact ⟨⟨_, valid⟩, String.ofList rest, parts, rfl⟩

/-- The frames of a reveal up to some moment: beginnings of its text, each longer than the
one before, and closed unless it is the whole text. -/
structure Frames (text : List Char) (frames : List (List Char)) : Prop where
  growing : frames.Pairwise fun first later => first <+: later ∧ first.length < later.length
  beginning : ∀ frame ∈ frames, frame <+: text
  closed : ∀ frame ∈ frames, frame ≠ text → Closed frame

/-- One more frame that is longer than all before. Being longer than all frames makes it longer
than the last one, which is the longest. -/
theorem Frames.concat {text frame : List Char} {frames : List (List Char)}
    (before : Frames text frames)
    (longer : ∀ earlier ∈ frames, earlier <+: frame ∧ earlier.length < frame.length)
    (begins : frame <+: text) (closed : frame ≠ text → Closed frame) :
    Frames text (frames ++ [frame]) where
  growing := by
    refine List.pairwise_append.mpr ⟨before.growing, List.pairwise_singleton _ _, ?_⟩
    intro earlier member last only
    rw [List.mem_singleton.mp only]
    exact longer earlier member
  beginning := by
    intro other member
    rcases List.mem_append.mp member with earlier | last
    · exact before.beginning other earlier
    · rwa [List.mem_singleton.mp last]
  closed := by
    intro other member
    rcases List.mem_append.mp member with earlier | last
    · exact before.closed other earlier
    · rwa [List.mem_singleton.mp last]

/-- A reveal in progress with the frames so far. Nothing is left to show only if the text is
empty. -/
structure Active.Shows (active : Active) (text : List Char) (handle : Nat)
    (frames : List (List Char)) : Prop where
  own : active.handle = handle
  parts : active.shown ++ active.rest = text
  closed : Closed active.shown
  within : ∀ frame ∈ frames, frame <+: active.shown
  unfinished : active.rest = [] → text = [] ∧ frames = []

/-- What is shown next is longer than every frame so far. It has to be longer by at least one
character; only the frame of an empty text would not be, and that text has none. -/
theorem Active.Shows.longer {active : Active} {text more : List Char} {handle : Nat}
    {frames : List (List Char)} (shows : active.Shows text handle frames)
    (progress : more = [] → frames = []) :
    ∀ frame ∈ frames, frame <+: active.shown ++ more ∧
      frame.length < (active.shown ++ more).length := by
  intro frame member
  have within := shows.within frame member
  have some : more ≠ [] := fun nothing => List.ne_nil_of_mem member (progress nothing)
  have positive : 0 < more.length := List.length_pos_iff.mpr some
  refine ⟨within.trans (List.prefix_append _ _), ?_⟩
  have bound := within.length_le
  rw [List.length_append]
  omega

namespace Engine

variable {engine next : Engine} {operation : Operation} {log told : List Happening} {handle : Nat}
  {text : List Char}

/-- How far an engine is with the reveal of a text: the reveal is in progress behind its
frames, or it is over. A completed reveal has shown its whole text. -/
structure Follows (engine : Engine) (text : List Char) (handle : Nat) (log : List Happening) :
    Prop where
  known : handle ≤ engine.started
  frames : Frames text (framesOf handle log)
  standing : (∃ active, engine.stage = .revealing active ∧
      active.Shows text handle (framesOf handle log) ∧ .told (.done handle) ∉ log) ∨
    engine.current ≠ some handle
  completed : .told (.done handle) ∈ log → text ≠ [] → (framesOf handle log).getLast? = some text

/-- The engines of a history have started ever more reveals. A handle that was given out stays
known. -/
theorem Goes.started_le (goes : engine.Goes operation (next, told)) :
    engine.started ≤ next.started := by
  cases goes with
  | start => exact Nat.le_succ _
  | _ => exact Nat.le_refl _

/-- A reveal that is over stays over, and nothing is told about it.

Proof: by the ways to go. Only the reveal in progress is told about, and a start takes a handle
that was not given out before. -/
theorem Goes.silent (goes : engine.Goes operation (next, told)) (known : handle ≤ engine.started)
    (ended : engine.current ≠ some handle) :
    next.current ≠ some handle ∧ framesOf handle told = [] ∧ .told (.done handle) ∉ told := by
  refine ⟨fun current => ?_, ?_, fun member => ended (goes.tells member (.told rfl))⟩
  · rcases goes.mayTell (Or.inl current) with again | later
    · exact ended again
    · exact Nat.not_lt_of_le known later
  · refine List.filterMap_eq_nil_iff.mpr fun happening member => ?_
    cases happening with
    | told notice =>
      cases notice with
      | frame other shown =>
        refine if_neg fun same => ended (goes.tells member (.told same))
      | done other => rfl
    | _ => rfl

/-- A reveal that shows its whole text and is completed. The frame of the whole text is longer than
those before, because something was left to show. -/
theorem Follows.complete {active : Active} (follows : engine.Follows text handle log)
    (shows : active.Shows text handle (framesOf handle log)) :
    Follows { engine with stage := .done, displayed := active.shown ++ active.rest } text handle
      (log ++ [.told (.frame active.handle (active.shown ++ active.rest)),
        .told (.done active.handle)]) := by
  have frames : framesOf handle [.told (.frame active.handle (active.shown ++ active.rest)),
      .told (.done active.handle)] = [text] := by
    simp [framesOf, Happening.frame?, shows.own, shows.parts]
  refine ⟨follows.known, ?_, Or.inr fun current => ?_, fun _ _ => ?_⟩
  · rw [framesOf_append, frames]
    refine follows.frames.concat ?_ List.prefix_rfl fun other => absurd rfl other
    have longer := shows.longer fun nothing => (shows.unfinished nothing).2
    rwa [shows.parts] at longer
  · cases current
  · rw [framesOf_append, frames, List.getLast?_concat]

/-- A reveal that is over behind an operation that tells nothing about it. Its frames are then the
ones it had, whatever else is told meanwhile. -/
theorem Follows.quiet (follows : engine.Follows text handle log)
    (grown : engine.started ≤ next.started) (noFrame : framesOf handle told = [])
    (notDone : .told (.done handle) ∉ told) (ended : next.current ≠ some handle) :
    next.Follows text handle (log ++ told) := by
  refine ⟨Nat.le_trans follows.known grown, ?_, Or.inr ended, fun member some => ?_⟩
  · rw [framesOf_append, noFrame, List.append_nil]
    exact follows.frames
  · have earlier := (List.mem_append.mp member).resolve_right notDone
    rw [framesOf_append, noFrame, List.append_nil]
    exact follows.completed earlier some

/-- A reveal that shows more of its text and goes on. The new frame is closed, since what was shown
before it and what it adds are closed. -/
theorem Follows.advance {active : Active} {more rest : List Char}
    (follows : engine.Follows text handle log)
    (shows : active.Shows text handle (framesOf handle log))
    (uncompleted : .told (.done handle) ∉ log) (parts : active.rest = more ++ rest)
    (progress : more ≠ []) (unfinished : rest ≠ []) (closed : Closed more) :
    Follows { engine with
        stage := .revealing ⟨active.handle, active.shown ++ more, rest⟩,
        displayed := active.shown ++ more } text handle
      (log ++ [.told (.frame active.handle (active.shown ++ more))]) := by
  have frames : framesOf handle (log ++ [.told (.frame active.handle (active.shown ++ more))]) =
      framesOf handle log ++ [active.shown ++ more] := by
    simp [framesOf, Happening.frame?, shows.own]
  have whole : active.shown ++ more ++ rest = text := by
    rw [List.append_assoc, ← parts, shows.parts]
  have longer : ∀ frame ∈ framesOf handle log, frame <+: active.shown ++ more ∧
      frame.length < (active.shown ++ more).length :=
    shows.longer fun nothing => absurd nothing progress
  have shownClosed := shows.closed.append closed
  have stillUncompleted : .told (.done handle) ∉
      log ++ [.told (.frame active.handle (active.shown ++ more))] := by
    simp [uncompleted]
  refine ⟨follows.known, ?_, Or.inl ⟨_, rfl, ⟨shows.own, whole, shownClosed, ?_, ?_⟩,
    stillUncompleted⟩, fun completed => absurd completed stillUncompleted⟩
  · rw [frames]
    exact follows.frames.concat longer ⟨rest, whole⟩ fun _ => shownClosed
  · intro frame member
    rw [frames] at member
    rcases List.mem_append.mp member with earlier | last
    · exact (longer frame earlier).1
    · obtain rfl := List.mem_singleton.mp last
      exact List.prefix_rfl
  · exact fun nothing => absurd nothing unfinished

/-- An operation leads to the next frame of a reveal, or to no frame.

Proof: by the ways to go while the reveal is in progress: a newer start, a cancellation, a
completion or a further frame. Once it is over nothing is told about it. -/
theorem Goes.follows (goes : engine.Goes operation (next, told))
    (follows : engine.Follows text handle log) : next.Follows text handle (log ++ told) := by
  rcases follows.standing with ⟨active, revealing, shows, uncompleted⟩ | ended
  · have grown := goes.started_le
    cases goes with
    | start newer =>
      have other : some (engine.started + 1) ≠ some handle := fun same =>
        Nat.not_le_of_lt (Nat.lt_of_succ_le (Nat.le_of_eq (Option.some.inj same))) follows.known
      exact follows.quiet grown rfl (by simp) other
    | ignored => rwa [List.append_nil]
    | cancelled => exact follows.quiet grown rfl (by simp) fun current => by cases current
    | completed standing =>
      obtain rfl := Stage.revealing.inj (revealing.symm.trans standing)
      exact follows.complete shows
    | emptied standing empty =>
      obtain rfl := Stage.revealing.inj (revealing.symm.trans standing)
      obtain ⟨nothing, noFrames⟩ := shows.unfinished empty
      refine ⟨follows.known, ?_, Or.inr (fun current => by cases current), fun _ some =>
        absurd nothing some⟩
      rw [framesOf_append, show framesOf handle [.told (.done _)] = [] from rfl, List.append_nil]
      exact follows.frames
    | advanced standing parts progress unfinished closed =>
      obtain rfl := Stage.revealing.inj (revealing.symm.trans standing)
      exact follows.advance shows uncompleted parts progress unfinished closed
  · obtain ⟨stillOver, noFrame, notDone⟩ := goes.silent follows.known ended
    exact follows.quiet goes.started_le noFrame notDone stillOver

/-- A reveal that has just started has no frames. Nothing of its text is shown yet, and all of it
is left. -/
theorem follows_start (engine : Engine) (text : String) :
    (engine.start text).1.Follows text.toList (engine.start text).2 [] := by
  have noFrames : Frames text.toList [] := by
    constructor
    · exact .nil
    · exact fun frame member => absurd member List.not_mem_nil
    · exact fun frame member => absurd member List.not_mem_nil
  have nothingShown : Active.Shows ⟨(engine.start text).2, [], text.toList⟩ text.toList
      (engine.start text).2 [] := by
    refine ⟨rfl, rfl, closed_nil, ?_, ?_⟩
    · exact fun frame member => absurd member List.not_mem_nil
    · exact fun nothing => ⟨nothing, rfl⟩
  refine ⟨Nat.le_refl _, noFrames, ?_, ?_⟩
  · exact Or.inl ⟨_, rfl, nothingShown, List.not_mem_nil⟩
  · exact fun completed => absurd completed List.not_mem_nil

/-- The frames of a reveal grow, whatever the engine is asked for from its start on: each is a
beginning of the text and longer than the one before. A frame ends at a position between two
characters, and its bytes are those of the text up to there. Unless it is the whole text it does
not end inside a tag. Once the reveal of a text that is not empty is completed, the last frame is
the whole text.

Nothing is assumed of the engine, which may have any history and any pace, nor of the text, where
tags may be left open, nor of what the host asks for meanwhile. The reveal may be over early; then
its frames end early.

Proof: from its start on the engine follows the reveal: each operation leads to the next frame or
to none, and by induction this holds after all of them. -/
theorem frames_grow_to_text (engine : Engine) (text : String) (operations : List Operation) :
    let handle := (engine.start text).2
    let log := ((engine.start text).1.run operations).2
    let frames := framesOf handle log
    (frames.Pairwise fun first later => first <+: later ∧ first.length < later.length) ∧
      (∀ frame ∈ frames, frame <+: text.toList ∧
        (∃ (position : text.Pos) (rest : String), position.Splits (String.ofList frame) rest ∧
          (String.ofList frame).toByteArray =
            text.toByteArray.extract 0 position.offset.byteIdx) ∧
        (frame ≠ text.toList → Closed frame)) ∧
      (.told (.done handle) ∈ log → text ≠ "" → frames.getLast? = some text.toList) := by
  intro handle log frames
  have follows : ((engine.start text).1.run operations).1.Follows text.toList handle log :=
    run_induction (fun goes follows => goes.follows follows) (engine.follows_start text) operations
  refine ⟨follows.frames.growing, fun frame member => ?_, fun completed some => ?_⟩
  · have begins := follows.frames.beginning frame member
    obtain ⟨position, rest, splits⟩ := exists_position begins
    exact ⟨begins, ⟨position, rest, splits, splits.toByteArray_left_eq⟩,
      follows.frames.closed frame member⟩
  · exact follows.completed completed fun empty => some (String.toList_eq_nil_iff.mp empty)

end Engine

end Storyline.Reveal
