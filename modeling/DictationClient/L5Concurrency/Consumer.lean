import DictationClient.Api
import DictationClient.Core.Link
import DictationClient.Core.Py

/-!
# gRPC's thread that draws the requests

gRPC calls `next` on the request iterator from a thread of its own and puts what it
gets on the stream; `StopIteration` makes it half-close. It asks and sends only while
the call goes on: once that has ended, a request is dropped and the thread stops. What
else the iterator raises makes gRPC give the call up, as a failure of it
(`Link.Lbl.fail`). This is what `grpc` documents; its code is not part of the client.
-/
namespace DictationClient.L5

open Api
open Link (Item Ending)

/-- Where the thread stands, with `κ` the places inside `next`. -/
inductive Consumer (κ : Type) where
  | ask
  | inside (k : κ)
  | halfClosed
  | raised (e : PyErr)
  | stopped
  deriving DecidableEq, Repr

namespace Consumer

variable {κ : Type}

/-- The thread has not half-closed. -/
def running : Consumer κ → Bool
  | .halfClosed => false
  | _ => true

/-- The thread is about to call `next`, which starts at `k`. -/
def enter (v : Option Ending) (k : κ) : Consumer κ := if v.isSome then .stopped else .inside k

/-- What the thread does with what `next` has returned or raised. -/
def reply (v : Option Ending) (stream : List (Item StreamingRecognizeRequest))
    (r : Except PyErr StreamingRecognizeRequest) : Consumer κ × List (Item StreamingRecognizeRequest) :=
  if v.isSome then (.stopped, stream)
  else match r with
    | .ok req => (.ask, stream ++ [.message req])
    | .error .stopIteration => (.halfClosed, stream ++ [.halfClose])
    | .error e => (.raised e, stream)

/-- Behind the end of the call nothing is put on the stream. -/
theorem reply_some (st : Ending) (stream : List (Item StreamingRecognizeRequest))
    (r : Except PyErr StreamingRecognizeRequest) :
    (reply (some st) stream r : Consumer κ × _) = (.stopped, stream) := rfl

/-- A reply puts at most one item on the stream. -/
theorem reply_stream (v : Option Ending) (stream : List (Item StreamingRecognizeRequest))
    (r : Except PyErr StreamingRecognizeRequest) :
    (reply v stream r : Consumer κ × _).2 = stream ∨
    ∃ item, (reply v stream r : Consumer κ × _).2 = stream ++ [item] := by
  cases v with
  | some st => exact .inl (congrArg Prod.snd (reply_some st stream r))
  | none =>
    cases r with
    | ok req => exact .inr ⟨_, rfl⟩
    | error e =>
      cases e with
      | stopIteration => exact .inr ⟨_, rfl⟩
      | valueError _ | indexError _ | rpcError => exact .inl rfl

theorem stream_le_reply (v : Option Ending) (stream : List (Item StreamingRecognizeRequest))
    (r : Except PyErr StreamingRecognizeRequest) : stream <+: (reply v stream r : Consumer κ × _).2 := by
  rcases @reply_stream κ v stream r with h | ⟨item, h⟩
  · exact ⟨[], (List.append_nil _).trans h.symm⟩
  · exact ⟨[item], h.symm⟩

theorem length_reply_le (v : Option Ending) (stream : List (Item StreamingRecognizeRequest))
    (r : Except PyErr StreamingRecognizeRequest) :
    (reply v stream r : Consumer κ × _).2.length ≤ stream.length + 1 := by
  rcases @reply_stream κ v stream r with h | ⟨item, h⟩
  · rw [h]; exact Nat.le_succ _
  · rw [h, List.length_append, List.length_singleton]

/-- The thread stops only behind the end of the call. -/
theorem isSome_of_stopped {v : Option Ending} {stream : List (Item StreamingRecognizeRequest)}
    {r : Except PyErr StreamingRecognizeRequest} (h : (reply v stream r : Consumer κ × _).1 = .stopped) :
    v.isSome = true := by
  cases v with
  | some st => rfl
  | none =>
    cases r with
    | ok req => cases h
    | error e => cases e <;> cases h

end Consumer

end DictationClient.L5
