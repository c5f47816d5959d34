import DeviceAndroVM.BdVbox.Queues
import DeviceAndroVM.Library.Transition

/-!
# The threads behind the output to the host

The threads of `bd-vbox-ctrl.cpp` that meet at the two queues towards the host.  A step is
what a thread does with the mutex held, or on its own; the threads take their steps in any
order.  What each of them has done is recorded.

* `Reader` — where `thread_Connection_in` of a socket stands.
* `Sender` — where `thread_GuestControl_out` stands.
* `Output` — the queues and the thread that empties them; `Controller` — all threads, and the
  record.
* `step` — one step of a thread; there is none when the code would access a cell that is
  not allocated.
-/

namespace DeviceAndroVM
namespace BdVbox

open Library

/-- `thread_Connection_in`: before a `read`, before `push_message_out` of what was read, or
at its end. -/
inductive Reader
  | reading
  | pushing (data : List UInt8)
  | ended
  deriving DecidableEq

/-- `thread_GuestControl_out`: in `find_next_context_message_out`, with what it returned, or
at its end. -/
inductive Sender
  | searching
  | sending (p_ctxt p_msg : Nat)
  | ended
  deriving DecidableEq

/-- A return of `read`: the data, none for an error or the end, and whether there was memory
for its message. -/
structure Input where
  socket : Int
  data : List UInt8
  allocated : Bool
  deriving DecidableEq

/-- The queues and the thread that empties them.  The lists record, in their order, the calls
of the push functions, the pairs that were returned, and those passed to the host. -/
structure Output where
  queues : OutQueues
  sender : Sender
  contextsPushed : List ThContextOut
  messagesPushed : List ThMessage
  returned : List (ThContextOut × ThMessage)
  sent : List (ThContextOut × ThMessage)

namespace Output

/-- `push_message_out`, with a message at an address that was free. -/
def pushMessageOut (s : Output) (p : Nat) (msg : ThMessage) : Option Output :=
  if s.queues.ctrl_message_out.cells p = none then
    (s.queues.pushMessageOut p msg).map fun queues =>
      { s with queues, messagesPushed := s.messagesPushed ++ [msg] }
  else none

/-- `push_context_out`, with a context at an address that was free. -/
def pushContextOut (s : Output) (p : Nat) (ctxt : ThContextOut) : Option Output :=
  if s.queues.ctrl_context_out.cells p = none then
    (s.queues.pushContextOut p ctxt).map fun queues =>
      { s with queues, contextsPushed := s.contextsPushed ++ [ctxt] }
  else none

/-- One pass of the search.  When it finds nothing the thread waits and passes again. -/
def find (s : Output) : Option Output :=
  match s.sender with
  | .searching =>
      s.queues.findNextContextMessageOut.bind fun found =>
        match found with
        | none => some s
        | some ((p_ctxt, p_msg), queues) =>
            (queues.ctrl_context_out.cells p_ctxt).bind fun ctxt =>
              (queues.ctrl_message_out.cells p_msg).map fun msg =>
                { s with
                  queues
                  sender := .sending p_ctxt p_msg
                  returned := s.returned ++ [(ctxt.item, msg.item)] }
  | _ => none

/-- The pair goes to the host and is freed; after an error the thread ends. -/
def send (s : Output) (ok : Bool) : Option Output :=
  match s.sender with
  | .sending p_ctxt p_msg =>
      (s.queues.ctrl_context_out.cells p_ctxt).bind fun ctxt =>
        (s.queues.ctrl_message_out.cells p_msg).map fun msg =>
          { s with
            queues := ⟨s.queues.ctrl_context_out.free p_ctxt, s.queues.ctrl_message_out.free p_msg⟩
            sender := if ok then .searching else .ended
            sent := s.sent ++ [(ctxt.item, msg.item)] }
  | _ => none

end Output

/-- The state of the program.  `inputs` records the reads, `others` the messages pushed by
other threads than the readers. -/
structure Controller where
  output : Output
  readers : Int → Reader
  inputs : List Input
  others : List ThMessage

/-- `BUFFER_IN_SIZE`. -/
def bufferInSize : Nat := 1048576

namespace Controller

/-- No connection has sent anything yet. -/
def start : Controller :=
  ⟨⟨OutQueues.empty, .searching, [], [], [], []⟩, fun _ => .reading, [], []⟩

def setReader (s : Controller) (socket : Int) (reader : Reader) : Controller :=
  { s with readers := fun other => if other = socket then reader else s.readers other }

/-- `read` returns, and the message is made.  Without memory the data is dropped. -/
def read (s : Controller) (socket : Int) (data : List UInt8) (allocated : Bool) :
    Option Controller :=
  match s.readers socket with
  | .reading =>
      if data.length ≤ bufferInSize then
        let s := { s with inputs := s.inputs ++ [⟨socket, data, allocated⟩] }
        if allocated then some (s.setReader socket (.pushing data))
        else if data = [] then some (s.setReader socket .ended)
        else some s
      else none
  | _ => none

/-- `thread_Connection_in` pushes its message, and ends after the empty one. -/
def pushInput (s : Controller) (socket : Int) (p : Nat) : Option Controller :=
  match s.readers socket with
  | .pushing data =>
      (s.output.pushMessageOut p (inputMessage socket data)).map fun output =>
        { s with output }.setReader socket (if data = [] then .ended else .reading)
  | _ => none

/-- The steps of the threads. -/
inductive Step
  | pushContextOut (p : Nat) (ctxt : ThContextOut)
  | pushMessageOut (p : Nat) (msg : ThMessage)
  | read (socket : Int) (data : List UInt8) (allocated : Bool)
  | pushInput (socket : Int) (p : Nat)
  | find
  | send (ok : Bool)
  deriving DecidableEq

def step (s : Controller) : Step → Option Controller
  | .pushContextOut p ctxt =>
      (s.output.pushContextOut p ctxt).map fun output => { s with output }
  | .pushMessageOut p msg =>
      (s.output.pushMessageOut p msg).map fun output =>
        { s with output, others := s.others ++ [msg] }
  | .read socket data allocated => s.read socket data allocated
  | .pushInput socket p => s.pushInput socket p
  | .find => s.output.find.map fun output => { s with output }
  | .send ok => (s.output.send ok).map fun output => { s with output }

/-- What the reader of a socket holds and has not pushed yet. -/
def holding (s : Controller) (socket : Int) : List ThMessage :=
  match s.readers socket with
  | .pushing data => [inputMessage socket data]
  | _ => []

/-- The data read from a socket that there was memory for; the last one may be empty. -/
def kept (s : Controller) (socket : Int) : List (List UInt8) :=
  (s.inputs.filter fun input => input.socket = socket ∧ input.allocated).map Input.data

/-- The messages passed to the host for a connection. -/
def sentFor (s : Controller) (cid : Int) : List ThMessage :=
  (s.output.sent.map Prod.snd).filter (·.cid = cid)

end Controller
end BdVbox
end DeviceAndroVM
