/-!
# Output with a limit

Text is written to a sink that may refuse a piece. A writer gives its pieces one after the other;
the first refusal ends it, is passed on by everything that called it, and leaves in the sink what
was taken before.
-/

namespace Toolmark

/-- A place that takes text up to a number of bytes. -/
structure Sink where
  /-- The number of bytes that it takes at most, if there is a limit. -/
  limit : Option Nat
  /-- The text taken so far. -/
  taken : String
deriving DecidableEq, Repr

/-- Why a piece is refused. -/
inductive WriteError where
  /-- There is no room for it. -/
  | sinkFull
deriving DecidableEq, Repr

namespace Sink

/-- A sink that has taken nothing. -/
def empty (limit : Option Nat) : Sink := ⟨limit, ""⟩

/-- The sink has room for a text. -/
def accepts (sink : Sink) (text : String) : Bool :=
  match sink.limit with
  | none => true
  | some limit => sink.taken.utf8ByteSize + text.utf8ByteSize ≤ limit

/-- The sink behind a text. -/
def take (sink : Sink) (text : String) : Sink := { sink with taken := sink.taken ++ text }

end Sink

/-- Something that writes to a sink. -/
abbrev Writer := EStateM WriteError Sink

namespace Writer

/-- Gives one piece to the sink. -/
def put (piece : String) : Writer Unit := do
  let sink ← get
  if sink.accepts piece then set (sink.take piece) else throw .sinkFull

/-- Gives the pieces of a formatted text to the sink, one after the other. -/
def putAll (pieces : List String) : Writer Unit := pieces.forM put

end Writer

end Toolmark
