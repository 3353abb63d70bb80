import ManagedRuntime.Reference

/-! What is kept of one throw: the thrown reference and the innermost frames at the throw. -/
namespace ManagedRuntime.Exception

/-- Shows a stack to `visit`, innermost frame first, for as long as it asks for more. -/
def walkStack (visit : σ → UInt64 → σ × Bool) : σ → List UInt64 → σ
  | state, [] => state
  | state, frame :: rest =>
    match visit state frame with
    | (state, true) => walkStack visit state rest
    | (state, false) => state

/-- Keeps a frame and asks for more while there is room. -/
def keepFrame (depth : UInt64) (frames : List UInt64) (frame : UInt64) : List UInt64 × Bool :=
  (frames ++ [frame], decide ((frames ++ [frame]).length < depth.toNat))

/-- Shows a stack to a visitor, unless no frame is to be kept. -/
def traceStack (depth : UInt64) (visit : σ → UInt64 → σ × Bool) (state : σ)
    (stack : List UInt64) : σ :=
  if 0 < depth then walkStack visit state stack else state

/-- At most `depth` frames, innermost first. -/
def captureBacktrace (depth : UInt64) (stack : List UInt64) : List UInt64 :=
  traceStack depth (keepFrame depth) [] stack

/-- Marks the records of this runtime among everything that can unwind a stack. -/
def recordClass : UInt64 := 0x4A415641

structure ExceptionRecord where
  throwable : Ref
  backtrace : List UInt64
deriving DecidableEq, Repr

namespace ExceptionRecord

def capture (throwable : Ref) (depth : UInt64) (stack : List UInt64) : ExceptionRecord :=
  ⟨throwable, captureBacktrace depth stack⟩

def inline (record : ExceptionRecord) : String :=
  "ExceptionRecord \x7b class: " ++ toString recordClass.toNat ++ ", throwable: " ++
    record.throwable.inline ++ ", backtrace: [" ++
    ", ".intercalate (record.backtrace.map fun frame =>
      "\"" ++ Text.hexadecimal frame.toNat ++ "\"") ++ "] \x7d"

end ExceptionRecord

end ManagedRuntime.Exception
