/-
# Completions

How a session ends: the target chain was matched, or the call stack was
reported. Either way there is an artifact.

Key definitions: `Completion`, `stackArtifact`, `Completion.matching`,
`Completion.discovering`.
-/
import CallChain.Frame

namespace CallChain

/-- The end of a session. -/
inductive Completion where
  | matched (frames : List Frame) (artifact : String)
  | discovered (methods : List String) (artifact : String)

/-- The artifact of a reported call stack: one name a line, most recent call
first. -/
def stackArtifact (methods : List String) : String :=
  "\n".intercalate methods

namespace Completion

/-- The completion of a chain that was matched. -/
def matching (frames : List Frame) : Completion :=
  .matched frames (chainArtifact frames)

/-- The completion that reports a call stack. -/
def discovering (methods : List String) : Completion :=
  .discovered methods (stackArtifact methods)

/-- The artifact. -/
def artifact : Completion → String
  | .matched _ artifact => artifact
  | .discovered _ artifact => artifact

/-- The methods in the artifact, in its order. -/
def methods : Completion → List String
  | .matched frames _ => frames.map (·.method.text)
  | .discovered methods _ => methods

end Completion

end CallChain
