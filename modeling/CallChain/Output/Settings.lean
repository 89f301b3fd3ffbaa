/-
# Settings

Where artifacts go and how much is logged, read from two variables. A variable that
holds blanks only counts as unset; any other is taken as it is.

Key definitions: `Settings`, `Settings.read`, `Settings.sink`, `Settings.same`.
-/
import CallChain.Output.Sink
import CallChain.Text.Blank

namespace CallChain

/-- The settings of an agent. Without an output path artifacts go to standard
output. -/
structure Settings where
  output : Option Path
  logFilter : String

namespace Settings

/-- The variable of the output path. -/
def outputVariable : String := "FRAMEWATCH_OUTPUT"

/-- The variable of the log filter. -/
def logVariable : String := "FRAMEWATCH_LOG"

/-- Standard output and warnings. -/
def default : Settings := ⟨none, "warn"⟩

instance : Inhabited Settings := ⟨default⟩

/-- The settings that an environment asks for. -/
def read (environment : String → Option String) : Settings where
  output := ((environment outputVariable).filter (!blankText ·)).map Path.mk
  logFilter := ((environment logVariable).filter (!blankText ·)).getD default.logFilter

/-- Where artifacts go. -/
def sink (s : Settings) : Sink :=
  s.output.elim .console .file

/-- Whether two outputs are the same. -/
def sameOutput : Option Path → Option Path → Bool
  | none, none => true
  | some p, some q => p.same q
  | _, _ => false

/-- Whether two settings are the same; paths are compared by their parts. -/
def same (a b : Settings) : Bool :=
  sameOutput a.output b.output && a.logFilter = b.logFilter

end Settings

end CallChain
