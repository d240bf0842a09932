import Chip8.Picture

/-!
# Sinks

A sink receives what a device shows and plays, as signals, and may refuse any of them. The silent
sink takes everything and keeps nothing. A selective sink refuses the signals it was told to. A
recorder stands in front of another sink and keeps every call together with the answer.
-/

namespace Chip8

/-- A call to a sink. -/
inductive Signal where
  | startTone
  | stopTone
  | refresh (picture : Picture)
  deriving DecidableEq

/-- Something that consumes signals. -/
class Sink (ρ : Type) where
  /-- Take a signal, or refuse it. -/
  accept : Signal → ρ → Attempt Unit × ρ

/-- The sink that takes everything and keeps nothing. -/
structure Silent where
  deriving DecidableEq

instance : Sink Silent where
  accept _ silent := (.ok (), silent)

/-- A sink that keeps nothing and refuses some signals as if it were disconnected. -/
structure Selective where
  refuses : Signal → Bool

instance : Sink Selective where
  accept signal selective :=
    if selective.refuses signal then (.refuse .outputDisconnected, selective)
    else (.ok (), selective)

/-- A call to a sink and its answer. -/
structure SinkCall where
  signal : Signal
  /-- Whether the sink took it. -/
  accepted : Bool
  deriving DecidableEq

/-- A sink that keeps the calls it passes on to another one, in order. -/
structure Recorder (ρ : Type) where
  target : ρ
  calls : List SinkCall

namespace Recorder

/-- Pass a signal on and keep the call. -/
def accept {ρ : Type} [Sink ρ] (signal : Signal) (recorder : Recorder ρ) :
    Attempt Unit × Recorder ρ :=
  let (answer, target) := Sink.accept signal recorder.target
  (answer, ⟨target, recorder.calls ++ [⟨signal, answer.isOk⟩]⟩)

/-- The recorder with an empty list of calls. -/
def rewind {ρ : Type} (recorder : Recorder ρ) : Recorder ρ := { recorder with calls := [] }

end Recorder

instance {ρ : Type} [Sink ρ] : Sink (Recorder ρ) where
  accept := Recorder.accept

end Chip8
