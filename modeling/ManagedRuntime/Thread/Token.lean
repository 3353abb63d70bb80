/-! Tokens tell threads apart. A thread draws its token the first time it is asked for one and
keeps it. -/
namespace ManagedRuntime

abbrev Token := UInt64

/-- Never drawn by a thread; marks a monitor without owner. -/
def nobody : Token := 0

structure TokenCounter where
  next : Token := 1
deriving DecidableEq, Repr

/-- Hands out the next token; counting and reading are one indivisible step. -/
def TokenCounter.draw (counter : TokenCounter) : Token × TokenCounter :=
  (counter.next, ⟨counter.next + 1⟩)

/-- The token in a thread's own cell, drawn now if the cell is empty. -/
def TokenCounter.current (counter : TokenCounter) (cell : Token) : Token × TokenCounter :=
  if cell = nobody then counter.draw else (cell, counter)

end ManagedRuntime
