import ProbeEngine.Snapshot.Frame

/-!
# Thrown values

What is kept of a value that a call threw. An error has its name, message and
frames; any other value is kept as it is shown.
-/

namespace ProbeEngine

/-- What is kept of a thrown value. -/
structure Throwable where
  message : String
  name : Option String
  stacktrace : List StackFrame
  deriving DecidableEq, Repr

namespace Throwable

/-- What is kept of a thrown value. -/
def ofValue (h : Host.Heap) (v : Host.Value) : Throwable :=
  match h.kind v with
  | .error name => ⟨h.messageText v, some name, StackFrame.ofErrorStack h v 0⟩
  | _ => ⟨h.display v, none, []⟩

/-- The JSON form of a throwable. -/
def toJson (t : Throwable) : Json :=
  .object (("message", .string t.message) :: (Json.optionalField "name" (t.name.map .string) ++
    [("stacktrace", .array (t.stacktrace.map StackFrame.toJson))]))

end Throwable

end ProbeEngine
