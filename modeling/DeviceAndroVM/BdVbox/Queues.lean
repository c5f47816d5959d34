import DeviceAndroVM.Library.LinkedQueue

/-!
# The queues of the VirtualBox controller

`bd-vbox-ctrl.cpp`: connections exchange messages with the host.  A connection has a queue of
messages towards its socket; towards the host there is one queue of messages of all
connections, and one of the contexts in which the host asks for output.  Every function here
is the part of the source that runs with the mutex held.

* `ThMessage`, `ThContextOut` — the entries of the queues.
* `pushMessage`, `popMessage` — any of the queues of messages.
* `OutQueues` — the two queues towards the host; `findNextContextMessageOut` is one pass of its
  two loops.
-/

namespace DeviceAndroVM
namespace BdVbox

open Library

/-- `struct th_message`, without the field nothing on the way to the host reads. -/
structure ThMessage where
  cid : Int
  size : Int
  datas : Option (List UInt8)
  deriving DecidableEq

/-- `struct th_context_out`. -/
structure ThContextOut where
  cid : Int
  context : Int
  handle : Int
  flags : Int
  deriving DecidableEq

/-- `push_message`: the address `p` is that of the new message. -/
def pushMessage (head : LinkedQueue ThMessage) (p : Nat) (msg : ThMessage) :
    Option (LinkedQueue ThMessage) :=
  head.append p msg

/-- `pop_message` behind the wait: `none` inside when the queue is empty. -/
def popMessage (head : LinkedQueue ThMessage) :
    Option (Option (Nat × LinkedQueue ThMessage)) :=
  match head.head with
  | none => some none
  | some m => (head.unlink m none).map fun head => some (m, head)

/-- What `ctrl_message_out_mutex` protects. -/
structure OutQueues where
  ctrl_context_out : LinkedQueue ThContextOut
  ctrl_message_out : LinkedQueue ThMessage

namespace OutQueues

def empty : OutQueues := ⟨LinkedQueue.empty, LinkedQueue.empty⟩

def pushMessageOut (q : OutQueues) (p : Nat) (msg : ThMessage) : Option OutQueues :=
  (pushMessage q.ctrl_message_out p msg).map fun queue => { q with ctrl_message_out := queue }

def pushContextOut (q : OutQueues) (p : Nat) (ctxt : ThContextOut) : Option OutQueues :=
  (q.ctrl_context_out.append p ctxt).map fun queue => { q with ctrl_context_out := queue }

/-- The inner loop: the first message under the number of the context. -/
def matchingMessage (q : OutQueues) (ctxt : ThContextOut) :
    Option (Option (Nat × Option Nat × Unit)) :=
  q.ctrl_message_out.search fun msg => some (if ctxt.cid = msg.cid then some () else none)

/-- One pass of the loops: the addresses of a context and of a message for it, which are
taken out of the queues; `none` inside when no context has a message. -/
def findNextContextMessageOut (q : OutQueues) : Option (Option ((Nat × Nat) × OutQueues)) :=
  match q.ctrl_context_out.search q.matchingMessage with
  | none => none
  | some none => some none
  | some (some (p_ctxt, q_ctxt, p_msg, q_msg, _)) =>
      (q.ctrl_context_out.unlink p_ctxt q_ctxt).bind fun ctxts =>
        (q.ctrl_message_out.unlink p_msg q_msg).map fun msgs =>
          some ((p_ctxt, p_msg), ⟨ctxts, msgs⟩)

end OutQueues

/-- The message for the data of a `read`; there is none in the message at its end. -/
def inputMessage (socket : Int) (data : List UInt8) : ThMessage :=
  ⟨socket, data.length, if data = [] then none else some data⟩

/-- What `thread_GuestControl_out` passes to the host. -/
def ThMessage.output (msg : ThMessage) : List UInt8 :=
  if 0 < msg.size then (msg.datas.getD []).take msg.size.toNat else []

@[simp] theorem cid_inputMessage (socket : Int) (data : List UInt8) :
    (inputMessage socket data).cid = socket := rfl

@[simp] theorem output_inputMessage (socket : Int) (data : List UInt8) :
    (inputMessage socket data).output = data := by
  by_cases hdata : data = []
  · simp [inputMessage, ThMessage.output, hdata]
  · have hpos : 0 < data.length := List.length_pos_iff.mpr hdata
    simp [inputMessage, ThMessage.output, hdata]

end BdVbox
end DeviceAndroVM
