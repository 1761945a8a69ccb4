/-!
What an observer of tapes, machines and swarms may want to hear about.
-/

namespace TapeSwarm

/-- How much an event matters. -/
inductive Event.Level where
  | debug
  | warning
  deriving DecidableEq, Repr

/-- Something worth a line in a log. -/
inductive Event where
  /-- A bracket scan met a `]` that closes nothing. -/
  | strayBracket (position : Nat)
  /-- A run counted more operations than its ceiling allows. -/
  | overrun (operations : Nat) (ceiling : Int) (steps : Nat)
  /-- A swarm was founded; the numbers are those asked for. -/
  | founded (organisms food : Int)
  deriving DecidableEq, Repr

namespace Event

def level : Event → Level
  | strayBracket _ | founded .. => .debug
  | overrun .. => .warning

def text : Event → String
  | strayBracket position =>
    "stray ']' at " ++ toString position ++ ", bracket scan stopped"
  | overrun operations ceiling steps =>
    "operation count " ++ toString operations ++ " exceeded " ++ toString ceiling ++ " after "
      ++ toString steps ++ " steps"
  | founded organisms food =>
    "swarm seeded with " ++ toString organisms ++ " organisms, " ++ toString food ++ " food"

/-- The line of a log: the level, then the text. -/
def line (event : Event) : String :=
  (match event.level with
    | .debug => "DEBUG "
    | .warning => "WARNING ") ++ event.text

end Event

end TapeSwarm
