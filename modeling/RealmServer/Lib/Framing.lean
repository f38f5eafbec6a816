import Mathlib

/-!
# Reading frames off a stream

A frame reader takes one frame from the front of a stream, if a whole frame is
there.  Its laws say that it makes progress, that it reads the frame alone in the
same way, and that it does not look beyond the frame: more input behind a frame
changes nothing.  From these laws follows all that is needed about reading a
stream to its end.  The main
fact is `readAll_append`: reading a stream in two parts gives what reading it
at once gives, if what the first part leaves is put before the second.
-/

namespace RealmServer.Framing

universe u v w

/-- A reader of frames: its own state, and how one frame is taken. -/
structure FrameReader (State : Type u) (Symbol : Type v) (Value : Type w) where
  read : State → List Symbol → Option (Value × State × List Symbol)
  shorter : ∀ {state symbols value next rest},
    read state symbols = some (value, next, rest) → rest.length < symbols.length
  alone : ∀ {state symbols value next rest},
    read state symbols = some (value, next, rest) →
      ∃ frame, symbols = frame ++ rest ∧ read state frame = some (value, next, [])
  extend : ∀ {state symbols value next rest},
    read state symbols = some (value, next, rest) →
      ∀ more, read state (symbols ++ more) = some (value, next, rest ++ more)

/-- What has been read, the state after it, and what is left. -/
structure Reading (State : Type u) (Symbol : Type v) (Value : Type w) where
  values : List Value
  state : State
  left : List Symbol

namespace FrameReader

variable {State : Type u} {Symbol : Type v} {Value : Type w}
variable (reader : FrameReader State Symbol Value)

/-- Read frames until there is no whole frame any more. -/
def readAll (state : State) (symbols : List Symbol) : Reading State Symbol Value :=
  match found : reader.read state symbols with
  | none => ⟨[], state, symbols⟩
  | some (value, next, rest) =>
      have := reader.shorter found
      let later := readAll next rest
      { later with values := value :: later.values }
termination_by symbols.length

variable {reader} {state next : State} {symbols rest : List Symbol} {value : Value}

theorem readAll_of_none (none : reader.read state symbols = none) :
    reader.readAll state symbols = ⟨[], state, symbols⟩ := by
  rw [readAll]
  split
  · rfl
  case h_2 found => rw [none] at found; exact absurd found (by simp)

theorem readAll_of_some (found : reader.read state symbols = some (value, next, rest)) :
    reader.readAll state symbols =
      { reader.readAll next rest with
        values := value :: (reader.readAll next rest).values } := by
  rw [readAll]
  split
  case h_1 none => rw [found] at none; exact absurd none (by simp)
  case h_2 other =>
      rw [found] at other
      obtain ⟨rfl, rfl, rfl⟩ : value = _ ∧ next = _ ∧ rest = _ := by
        simpa using other
      rfl

theorem frames_induction (reader : FrameReader State Symbol Value)
    {motive : State → List Symbol → Prop}
    (stuck : ∀ state symbols, reader.read state symbols = none → motive state symbols)
    (frame : ∀ state symbols value next rest,
      reader.read state symbols = some (value, next, rest) →
        motive next rest → motive state symbols)
    (state : State) (symbols : List Symbol) : motive state symbols := by
  induction bound : symbols.length using Nat.strong_induction_on
    generalizing state symbols with
  | _ length induction =>
      cases found : reader.read state symbols with
      | none => exact stuck state symbols found
      | some result =>
          obtain ⟨value, next, rest⟩ := result
          have smaller := reader.shorter found
          rw [bound] at smaller
          exact frame state symbols value next rest found
            (induction rest.length smaller next rest rfl)

theorem readAll_append (state : State) (first second : List Symbol) :
    reader.readAll state (first ++ second) =
      { reader.readAll (reader.readAll state first).state
          ((reader.readAll state first).left ++ second) with
        values := (reader.readAll state first).values ++
          (reader.readAll (reader.readAll state first).state
            ((reader.readAll state first).left ++ second)).values } := by
  induction state, first using frames_induction reader with
  | stuck state symbols none => rw [readAll_of_none none]; rfl
  | frame state symbols value next rest found induction =>
      rw [readAll_of_some found, readAll_of_some (reader.extend found second), induction]
      rfl

/-- More input never changes what has been read already. -/
theorem readAll_prefix (state : State) (first second : List Symbol) :
    (reader.readAll state first).values <+:
      (reader.readAll state (first ++ second)).values := by
  rw [readAll_append]
  exact List.prefix_append _ _

theorem readAll_frame {frame : List Symbol}
    (found : reader.read state frame = some (value, next, [])) (second : List Symbol) :
    reader.readAll state (frame ++ second) =
      { reader.readAll next second with
        values := value :: (reader.readAll next second).values } :=
  readAll_of_some (reader.extend found second)

/-- What every frame satisfies, all values satisfy. -/
theorem readAll_forall {property : Value → Prop}
    (each : ∀ {state symbols value next rest},
      reader.read state symbols = some (value, next, rest) → property value)
    (state : State) (symbols : List Symbol) :
    ∀ value ∈ (reader.readAll state symbols).values, property value := by
  induction state, symbols using frames_induction reader with
  | stuck state symbols none => simp [readAll_of_none none]
  | frame state symbols value next rest found induction =>
      rw [readAll_of_some found]
      intro other member
      rcases List.mem_cons.mp member with rfl | later
      · exact each found
      · exact induction other later

end FrameReader

end RealmServer.Framing
