import ClassLowering.Heap.Chain
import ClassLowering.Heap.Text

/-!
# Failures

A computation fails with a fault of the host or with a value that a script threw. Where nothing
catches it, a failure becomes a complaint: its kind, the class of error and the message.
-/

namespace ClassLowering

/-- How a computation fails. -/
inductive Failure where
  | fault (cause : Fault)
  | thrown (value : Value)
  deriving DecidableEq, Repr

/-- A failure as it leaves a run. -/
structure Complaint where
  kind : FaultKind
  message : String
  deriving DecidableEq, Repr

namespace Complaint

/-- The class of error that a script would have seen. -/
def errorClass (complaint : Complaint) : ErrorClass := complaint.kind.errorClass

/-- The complaint as one displayed text. -/
def display? (complaint : Complaint) : Option String :=
  complaint.kind.displayLead?.map (· ++ complaint.message)

end Complaint

namespace Heap

/-- The text of a thrown value: an error shows its name and its message, read along its stored
prototype links. -/
def thrownText (heap : Heap) (value : Value) : String :=
  match value with
  | .object id =>
      if (heap.object id).isError then
        let name := ((heap.storedValue id "name").map heap.text).getD "Error"
        let message := ((heap.storedValue id "message").map heap.text).getD ""
        if message = "" then name else name ++ ": " ++ message
      else heap.text value
  | value => heap.text value

end Heap

/-- The complaint of a failure. -/
def Failure.complaint (heap : Heap) : Failure → Complaint
  | .fault cause => { kind := cause.kind, message := cause.message }
  | .thrown value => { kind := .uncaught, message := heap.thrownText value }

end ClassLowering
