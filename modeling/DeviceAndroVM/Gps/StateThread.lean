import DeviceAndroVM.Gps.NmeaReader
import DeviceAndroVM.Library.Transition

/-!
# The thread of the GPS module

`gps_init` connects to the daemon and starts a thread, which reads commands from one end of a
socket pair and sentences from the daemon, and calls back.  `gps_start`, `gps_stop` and
`gps_cleanup` write commands to the other end.

* `Command`, `GpsStatusValue`, `GpsCallbacks` — what goes in and out.
* `StateThread` — where `gps_state_thread` stands, and its reader.
* `GpsState` — the module with its thread and its caller, and a log of what was called back.
* `Label` — a step of the caller, or of the thread.
* `LiveStep` — one step; after a crash there is none.
-/

namespace DeviceAndroVM
namespace Gps

open Library

/-- What is written to the thread. -/
inductive Command
  | CMD_QUIT
  | CMD_START
  | CMD_STOP
  deriving DecidableEq, Repr

inductive GpsStatusValue
  | GPS_STATUS_SESSION_BEGIN
  | GPS_STATUS_SESSION_END
  | GPS_STATUS_ENGINE_ON
  | GPS_STATUS_ENGINE_OFF
  deriving DecidableEq, Repr

/-- Which of the callbacks are not `NULL`. -/
structure GpsCallbacks where
  status_cb : Bool
  location_cb : Bool
  deriving DecidableEq, Repr

/-- The descriptors that the thread waits for. -/
inductive Source
  | control
  | gps
  deriving DecidableEq, Repr

/-- An event of `epoll_wait`: `failed` is `EPOLLERR` or `EPOLLHUP`, `readable` is `EPOLLIN`. -/
structure Ready where
  source : Source
  failed : Bool
  readable : Bool
  deriving DecidableEq, Repr

/-- Where the thread stands: before its first status, in `epoll_wait`, with events that it has
not handled, or in the loop that receives from the daemon. -/
inductive Place
  | absent
  | created
  | waiting
  | handling (events : List Ready)
  | receiving (events : List Ready)
  | returned
  deriving DecidableEq, Repr

/-- Where the caller stands: the thread has been created and the callbacks are not copied yet,
or the caller waits for the thread to end. -/
inductive Caller
  | idle
  | initializing (callbacks : GpsCallbacks)
  | joining
  deriving DecidableEq, Repr

variable (F : Type)

/-- What can be seen of the module: a life begins, a status or a fix is called back, and the life
has been cleaned up.  A status is not `heard` where there is no callback for it. -/
inductive Entry
  | created
  | status (val : GpsStatusValue) (heard : Bool)
  | location (fix : GpsLocation F)
  | cleaned

/-- The thread; `started` and the reader are its local variables. -/
structure StateThread where
  place : Place
  started : Bool
  session : Session F

/-- The module.  `control` are the commands in the socket pair, when there is one, `written` and
`read` are those of this life.  `closed` is whether `recv` has returned 0. -/
structure GpsState where
  init : Bool
  fd : Bool
  callbacks : GpsCallbacks
  control : Option (List Command)
  thread : StateThread F
  closed : Bool
  caller : Caller
  written : List Command
  read : List Command
  log : List (Entry F)

variable {F} [CDouble F]

/-- How far `gps_state_init` comes. -/
inductive Outcome
  | noSocket
  | refused
  | noPair
  | noThread
  | connected
  deriving DecidableEq, Repr

/-- What `recv` returns; a byte comes with what `time(NULL)` is when it is parsed. -/
inductive Received
  | data (bytes : List (Nat × UInt8))
  | interrupted
  | wouldBlock
  | error
  | zero
  deriving DecidableEq

inductive Label
  | init (callbacks : GpsCallbacks) (outcome : Outcome)
  | initialized
  | start
  | stop
  | cleanup (sent : Bool)
  | joined
  | enter (utc_diff : Int)
  | wait (events : List Ready)
  | handle
  | receive (r : Received)
  deriving DecidableEq

namespace GpsState

/-- `open_gps`. -/
def opened : GpsState F where
  init := false
  fd := false
  callbacks := ⟨false, false⟩
  control := none
  thread := ⟨.absent, false, .opened 0⟩
  closed := false
  caller := .idle
  written := []
  read := []
  log := []

def setPlace (m : GpsState F) (place : Place) : GpsState F :=
  { m with thread := { m.thread with place } }

/-- A byte for the other end of the pair; without a pair it is lost. -/
def send (m : GpsState F) (cmd : Command) : GpsState F :=
  match m.control with
  | none => m
  | some queue => { m with control := some (queue ++ [cmd]), written := m.written ++ [cmd] }

/-- `gps_state_init`. -/
def gps_state_init (m : GpsState F) (callbacks : GpsCallbacks) : Outcome → GpsState F
  | .noSocket | .refused => { m with init := true, fd := false, control := none }
  -- `gps_state_done` waits for a thread that there is not
  | .noPair => { m with init := true, fd := true, control := none, caller := .joining }
  | .noThread =>
      { m with
        init := true, fd := true, control := some [.CMD_QUIT], caller := .joining
        written := [.CMD_QUIT], read := [] }
  | .connected =>
      { m with
        init := true, fd := true, control := some [], closed := false
        thread := ⟨.created, false, m.thread.session⟩
        caller := .initializing callbacks
        written := [], read := []
        log := m.log ++ [.created] }

def gps_init (m : GpsState F) (callbacks : GpsCallbacks) (outcome : Outcome) : GpsState F :=
  if m.init then m else m.gps_state_init callbacks outcome

def gps_start (m : GpsState F) : GpsState F := if m.init then m.send .CMD_START else m

def gps_stop (m : GpsState F) : GpsState F := if m.init then m.send .CMD_STOP else m

/-- `gps_cleanup` up to the join; `sent` is whether the command could be written. -/
def gps_cleanup (m : GpsState F) (sent : Bool) : GpsState F :=
  if m.init then { if sent then m.send .CMD_QUIT else m with caller := .joining } else m

/-- The rest of `gps_state_done`. -/
def joined (m : GpsState F) : GpsState F :=
  { m with
    init := false, fd := false, control := none, caller := .idle
    thread := { m.thread with place := .absent }
    log := m.log ++ [.cleaned] }

def gps_update_status (m : GpsState F) (val : GpsStatusValue) : GpsState F :=
  { m with log := m.log ++ [.status val m.callbacks.status_cb] }

/-- The reader goes on; the new fixes are called back. -/
def withSession (m : GpsState F) (s : Session F) : GpsState F :=
  { m with
    thread := { m.thread with session := s }
    log := m.log ++ (s.fixes.drop m.thread.session.fixes.length).map .location }

def setStarted (m : GpsState F) (started : Bool) : GpsState F :=
  { m with thread := { m.thread with started } }

/-- The first lines of the thread, up to its first status. -/
def enter (m : GpsState F) (utc_diff : Int) : GpsState F :=
  let s := m.thread.session
  let session := { s with reader := .init utc_diff }
  { m with thread := ⟨.waiting, false, session⟩ }.gps_update_status .GPS_STATUS_ENGINE_ON

/-- The command in front is read. -/
def took (m : GpsState F) (cmd : Command) (queue : List Command) : GpsState F :=
  { m with control := some queue, read := m.read ++ [cmd] }

/-- A command that has been read. -/
def obey (m : GpsState F) (events : List Ready) : Command → GpsState F
  | .CMD_QUIT => (m.gps_update_status .GPS_STATUS_ENGINE_OFF).setPlace .returned
  | .CMD_START =>
      if m.thread.started then m.setPlace (.handling events)
      else
        let m := (m.setStarted true).gps_update_status .GPS_STATUS_SESSION_BEGIN
        (m.withSession (m.thread.session.nmea_reader_set_callback m.callbacks.location_cb)).setPlace
          (.handling events)
  | .CMD_STOP =>
      if m.thread.started then
        let m := (m.setStarted false).gps_update_status .GPS_STATUS_SESSION_END
        (m.withSession (m.thread.session.nmea_reader_set_callback false)).setPlace
          (.handling events)
      else m.setPlace (.handling events)

/-- One event of the loop over the events. -/
def handle (m : GpsState F) : List Ready → GpsState F
  | [] => m.setPlace .waiting
  | e :: events =>
      if e.failed then m.setPlace .returned
      else if e.readable then
        match e.source with
        | .control =>
            match m.control with
            | some (cmd :: queue) => (m.took cmd queue).obey events cmd
            -- an unknown command
            | _ => m.setPlace (.handling events)
        | .gps => m.setPlace (.receiving events)
      else m.setPlace (.handling events)

/-- One turn of the loop that receives. -/
def receive (mktime : Tm → Int) (m : GpsState F) (events : List Ready) : Received → Option (GpsState F)
  | .data bytes =>
      (m.thread.session.feed mktime (bytes.map fun b => .byte b.1 b.2)).map m.withSession
  | .interrupted => some m
  | .wouldBlock | .error => some (m.setPlace (.handling events))
  -- the loop goes on at the end of the stream, too
  | .zero => some { m with closed := true }

/-- The events that `epoll_wait` can return: one for each descriptor, and commands only when there
are some.  The other end of the pair stays open as long as the thread runs. -/
def CanWait (m : GpsState F) (events : List Ready) : Prop :=
  (events.map Ready.source).Nodup ∧
    ∀ e ∈ events, e.source = .control →
      e.failed = false ∧ (e.readable = true → ∃ cmd queue, m.control = some (cmd :: queue))

/-- Once `recv` has returned 0 it returns nothing else, since nothing is ever sent. -/
def CanReceive (m : GpsState F) : Received → Prop
  | .data bytes => m.closed = false ∧ bytes ≠ [] ∧ bytes.length ≤ 128
  | .zero => True
  | _ => m.closed = false

end GpsState

/-- One step of the caller or of the thread. -/
inductive Step (mktime : Tm → Int) : GpsState F → Label → GpsState F → Prop
  | init {m : GpsState F} (callbacks : GpsCallbacks) (outcome : Outcome)
      (hcaller : m.caller = .idle) :
      Step mktime m (.init callbacks outcome) (m.gps_init callbacks outcome)
  | initialized {m : GpsState F} {callbacks : GpsCallbacks}
      (hcaller : m.caller = .initializing callbacks) :
      Step mktime m .initialized { m with callbacks := callbacks, caller := .idle }
  | start {m : GpsState F} (hcaller : m.caller = .idle) : Step mktime m .start m.gps_start
  | stop {m : GpsState F} (hcaller : m.caller = .idle) : Step mktime m .stop m.gps_stop
  | cleanup {m : GpsState F} (sent : Bool) (hcaller : m.caller = .idle) :
      Step mktime m (.cleanup sent) (m.gps_cleanup sent)
  -- the join of a thread that there is not may return, too
  | joined {m : GpsState F} (hcaller : m.caller = .joining)
      (hthread : m.thread.place = .returned ∨ m.thread.place = .absent) :
      Step mktime m .joined m.joined
  | enter {m : GpsState F} (utc_diff : Int) (hplace : m.thread.place = .created) :
      Step mktime m (.enter utc_diff) (m.enter utc_diff)
  | wait {m : GpsState F} {events : List Ready} (hplace : m.thread.place = .waiting)
      (hevents : m.CanWait events) : Step mktime m (.wait events) (m.setPlace (.handling events))
  | handle {m : GpsState F} {events : List Ready} (hplace : m.thread.place = .handling events) :
      Step mktime m .handle (m.handle events)
  | receive {m m' : GpsState F} {events : List Ready} {r : Received}
      (hplace : m.thread.place = .receiving events) (hr : m.CanReceive r)
      (hreceive : m.receive mktime events r = some m') : Step mktime m (.receive r) m'

/-- A step of a process that has not crashed. -/
def LiveStep (mktime : Tm → Int) (m : GpsState F) (l : Label) (m' : GpsState F) : Prop :=
  m.thread.session.crashed = false ∧ Step mktime m l m'

end Gps
end DeviceAndroVM
