/-
# Frames and the match artifact

A frame is one captured call: its method and the rendered receiver and
arguments. The artifact of a match is the JSON array of its frames, in call
order.

Key definitions: `Frame`, `Frame.layout`, `chainArtifact`.
-/
import CallChain.Method
import CallChain.Rendered.Layout

namespace CallChain

/-- One captured call. -/
structure Frame where
  method : Method
  values : List (Rendered Nat)

namespace Frame

/-- A frame as JSON. -/
def layout (f : Frame) : Json :=
  .object [("method", .string f.method.text), ("values", .array (Rendered.layoutItems f.values))]

/-- The JSON text of a frame. -/
def text (f : Frame) : String :=
  f.layout.text

end Frame

/-- The artifact of a matched chain. -/
def chainArtifact (frames : List Frame) : String :=
  (Json.array (frames.map Frame.layout)).text

end CallChain
