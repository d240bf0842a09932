import Chip8.Sink

/-!
# Terminal output

A terminal shows a view: a picture, and below it a line that says whether the tone sounds. Views
reach the terminal as callbacks on a channel and may wait there; each holds the picture and the
tone of the moment it was sent. Running a callback replaces the top layer of the screen.
-/

namespace Chip8
namespace Terminal

/-! ## Views -/

/-- What one layer of the screen shows: a picture, and whether the tone sounds. -/
structure View where
  picture : Picture
  tone : Bool
  deriving DecidableEq

/-- The style of printed text. Lit pixels are black. -/
inductive Style where
  | black
  | plain
  deriving DecidableEq

/-- A text printed at a place of the screen. -/
structure Print where
  x : Nat
  y : Nat
  text : String
  style : Style
  deriving DecidableEq

namespace View

def initial : View := ⟨.dark, false⟩

/-- The text that is shown while the tone sounds. -/
def toneText : String := "♪ beep"

/-- The cells of the lit pixels, row by row. -/
def cells (picture : Picture) : List Print :=
  picture.litPixels.map fun (x, y) => ⟨x, y, " ", .black⟩

/-- Everything that a view prints, in order. -/
def prints (view : View) : List Print :=
  cells view.picture ++ if view.tone then [⟨0, Picture.height, toneText, .plain⟩] else []

/-- The columns and lines that a view needs, whatever it is offered. -/
def requiredSize (_view : View) (_offered : Nat × Nat) : Nat × Nat :=
  (Picture.width, Picture.height + 1)

end View

/-! ## Callbacks and screens -/

/-- A message to the screen: to show a view, or to close. -/
inductive Callback where
  | present (view : View)
  | quit
  deriving DecidableEq

/-- The layers of a screen, the top one first, and whether it is still open. -/
structure Screen where
  layers : List View
  isOpen : Bool
  deriving DecidableEq

namespace Screen

def empty : Screen := ⟨[], true⟩

/-- Take the top layer off. A screen without layers has none. -/
def popLayer (screen : Screen) : Screen := { screen with layers := screen.layers.tail }

def addLayer (view : View) (screen : Screen) : Screen :=
  { screen with layers := view :: screen.layers }

/-- Run a callback. A view is shown in place of the top layer. -/
def handle (screen : Screen) : Callback → Screen
  | .present view => screen.popLayer.addLayer view
  | .quit => { screen with isOpen := false }

end Screen

/-! ## The sink -/

/-- A channel of callbacks, which arrive in the order in which they were sent, if anyone receives
them. -/
structure Channel where
  sent : List Callback
  connected : Bool
  deriving DecidableEq

namespace Channel

def fresh : Channel := ⟨[], true⟩

/-- Send a callback. Without a receiver it is lost, and the sender is told. -/
def send (callback : Callback) (channel : Channel) : Attempt Unit × Channel :=
  if channel.connected then (.ok (), { channel with sent := channel.sent ++ [callback] })
  else (.refuse .outputDisconnected, channel)

def disconnect (channel : Channel) : Channel := { channel with connected := false }

/-- The channel when everything sent so far was received. -/
def drain (channel : Channel) : Channel := { channel with sent := [] }

end Channel

/-- The sink in front of a terminal. The tone is shown, not played. -/
structure Output where
  channel : Channel
  /-- Whether the tone was started last. -/
  tone : Bool
  deriving DecidableEq

namespace Output

def fresh : Output := ⟨.fresh, false⟩

def send (callback : Callback) (output : Output) : Attempt Unit × Output :=
  let (answer, channel) := output.channel.send callback
  (answer, { output with channel })

/-- Take a signal: the tone is remembered, a picture is sent with the tone of the moment. -/
def accept : Signal → Output → Attempt Unit × Output
  | .startTone, output => (.ok (), { output with tone := true })
  | .stopTone, output => (.ok (), { output with tone := false })
  | .refresh picture, output => output.send (.present ⟨picture, output.tone⟩)

end Output

instance : Sink Output where
  accept := Output.accept

end Terminal
end Chip8
