import ClassLowering.Builtin.Dispatch
import ClassLowering.Script.Step

/-!
# The engine

The engine of a depth runs functions whose calls are nested less deep than that. What runs inside a
function has the engine of the depth below.
-/

namespace ClassLowering

/-- Runs the code of a frame. -/
def Frame.run (frame : Frame) : Run Value :=
  match frame.callable.code with
  | .builtin builtin => builtin.run frame
  | .script body scope => Script.runBody body scope frame

/-- The engine for calls nested less deep than a bound. -/
def Engine.ofDepth : Nat → Engine
  | 0 =>
      { depth := 0
        invoke := fun _ _ => .exhausted
        read := fun _ _ _ _ => .exhausted }
  | depth + 1 =>
      { depth := depth + 1
        invoke := fun frame state => frame.run (Engine.ofDepth depth) state
        read := fun id key receiver state =>
          Run.getFor id key receiver (Engine.ofDepth depth) state }

end ClassLowering
