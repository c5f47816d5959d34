import DeviceAndroVM.Library.LoopRuns

/-!
# The relay between the OpenGL clients and the host

`local_opengl.c`: the loop of `main` from line 182 on, `copy_socket` and `conn_thread`, as
programs of system calls.  Descriptors, memory and the clock belong to whoever answers the
calls; the later files each say what they need of the answers.

* `Call`, `Resp` — the system calls and what they return.
* `FreeSockets` — `free_local_sockets` and `nb_free_local`.
* `serve` — one turn of the loop of `main`.
* `copySocket`, `connThread` — one relay thread, in three parts.
-/

namespace DeviceAndroVM
namespace LocalOpengl

open Library

abbrev CInt := BitVec 32

abbrev MAX_FREE_SOCKETS : Nat := 5
abbrev BUFF_SIZE : Nat := 4 * 1024 * 1024
abbrev OPENGL_PING : CInt := 1002#32
abbrev OPENGL_PONG : CInt := 1003#32
abbrev HEARTBEAT_PERIOD : Nat := 3
abbrev TCPCLI_NEW : CInt := 1#32

/-- `INADDR_LOOPBACK`, 127.0.0.1. -/
abbrev INADDR_LOOPBACK : CInt := 0x7F000001#32

/-! ## System calls -/

/-- A descriptor as the program holds it.  The program knows the number `fd` only; `conn` says
which connection the kernel had opened when it gave the number out. -/
structure Socket where
  fd : Nat
  conn : Nat
  deriving DecidableEq

/-- `struct conn_duo`. -/
structure ConnDuo where
  local_socket : Socket
  host_socket : Socket
  deriving DecidableEq

inductive Errno
  | EINTR
  | other
  deriving DecidableEq

/-- The places of the loop that end the process. -/
inductive ExitSite
  | noPong
  | pingFailed
  | selectFailed
  | hangUp
  | pongFailed
  | commandFailed
  deriving DecidableEq

/-- The system calls.  `readInt` and `writeInt` are the reads and writes of one `int`;
`overrun` is an access beyond the end of `free_local_sockets`. -/
inductive Call
  | select (watched : List Socket) (nfds : Nat) (timeout : Option Nat)
  | time
  | readInt (s : Socket)
  | writeInt (s : Socket) (v : CInt)
  | read (s : Socket) (count : Nat)
  | write (s : Socket) (bytes : List UInt8)
  | accept (s : Socket)
  | getpeername (s : Socket)
  | close (s : Socket)
  | malloc (size : Nat)
  | pthreadCreate (cd : ConnDuo)
  | exit (code : Int) (site : ExitSite)
  | overrun
  deriving DecidableEq

/-- What a call returns: the ready descriptors, no one at a timeout; `none`, `false` and no
bytes at a failure; the address of the peer in the order of the host. -/
@[reducible] def Resp : Call → Type
  | .select _ _ _ => Except Errno (List Socket)
  | .time => Int
  | .readInt _ => Option CInt
  | .writeInt _ _ => Bool
  | .read _ _ => List UInt8
  | .write _ _ => Nat
  | .accept _ => Option Socket
  | .getpeername _ => Option CInt
  | .close _ => Unit
  | .malloc _ => Bool
  | .pthreadCreate _ => Bool
  | .exit _ _ => Unit
  | .overrun => Unit

abbrev P := Prog Call Resp

abbrev call (x : Call) : P (Resp x) := Prog.perform x

/-! ## The waiting sockets -/

/-- The array and the number of its cells in use. -/
structure FreeSockets where
  free_local_sockets : List Socket
  nb_free_local : Nat
  length_cells : free_local_sockets.length = MAX_FREE_SOCKETS
  nb_le : nb_free_local ≤ MAX_FREE_SOCKETS

namespace FreeSockets

/-- The sockets that wait, oldest first. -/
def waiting (f : FreeSockets) : List Socket := f.free_local_sockets.take f.nb_free_local

def clear (f : FreeSockets) : FreeSockets := { f with nb_free_local := 0, nb_le := Nat.zero_le _ }

/-- `free_local_sockets[nb_free_local++] = csocket`. -/
def push (f : FreeSockets) (csocket : Socket) (h : f.nb_free_local < MAX_FREE_SOCKETS) :
    FreeSockets where
  free_local_sockets := f.free_local_sockets.set f.nb_free_local csocket
  nb_free_local := f.nb_free_local + 1
  length_cells := by rw [List.length_set, f.length_cells]
  nb_le := h

/-- The first cell. -/
def first (f : FreeSockets) : Socket :=
  f.free_local_sockets.get ⟨0, by rw [f.length_cells]; decide⟩

/-- `sizeof(struct conn_duo)`, counted in cells of the array. -/
abbrev sizeofConnDuo : Nat := 2

/-- `memmove` of `len` cells from the second cell on to the first. -/
def memmove (cells : List Socket) (len : Nat) : List Socket :=
  (cells.drop 1).take len ++ cells.drop len

theorem length_memmove {cells : List Socket} {len : Nat} (h : 1 + len ≤ cells.length) :
    (memmove cells len).length = cells.length := by
  rw [memmove, List.length_append, List.length_take, List.length_drop, List.length_drop]
  omega

/-- `--nb_free_local`, and the `memmove` when sockets are left.  Its length is the number of
sockets times the size of a `struct conn_duo`; there is no result when it leaves the array. -/
def shift (f : FreeSockets) : Option FreeSockets :=
  if f.nb_free_local - 1 = 0 then some f.clear
  else if h : 1 + (f.nb_free_local - 1) * sizeofConnDuo ≤ MAX_FREE_SOCKETS then
    some
      { free_local_sockets :=
          memmove f.free_local_sockets ((f.nb_free_local - 1) * sizeofConnDuo)
        nb_free_local := f.nb_free_local - 1
        length_cells := by
          rw [length_memmove (f.length_cells.symm ▸ h)]
          exact f.length_cells
        nb_le := Nat.le_trans (Nat.sub_le _ _) f.nb_le }
  else none

@[simp] theorem waiting_clear (f : FreeSockets) : f.clear.waiting = [] := by
  simp [waiting, clear]

theorem length_waiting (f : FreeSockets) : f.waiting.length = f.nb_free_local := by
  have hnb := f.nb_le
  rw [waiting, List.length_take, f.length_cells]
  omega

theorem waiting_push (f : FreeSockets) (csocket : Socket) (h : f.nb_free_local < MAX_FREE_SOCKETS) :
    (f.push csocket h).waiting = f.waiting ++ [csocket] := by
  have hlt : f.nb_free_local < f.free_local_sockets.length := f.length_cells ▸ h
  show (f.free_local_sockets.set f.nb_free_local csocket).take (f.nb_free_local + 1) = _
  rw [List.take_add_one, List.take_set_of_le (Nat.le_refl _), List.getElem?_set_self hlt]
  rfl

theorem waiting_eq_first_cons (f : FreeSockets) (h : f.nb_free_local ≠ 0) :
    f.waiting = f.first :: f.waiting.tail := by
  obtain ⟨cells, nb, hcells, hnb⟩ := f
  cases cells with
  | nil => simp at hcells
  | cons s rest =>
      cases nb with
      | zero => exact absurd rfl h
      | succ nb => rfl

/-- The array is left just when more than three sockets wait. -/
theorem shift_eq_none_iff (f : FreeSockets) : f.shift = none ↔ 3 < f.waiting.length := by
  have hroom : 1 + (f.nb_free_local - 1) * 2 ≤ 5 ↔ ¬3 < f.nb_free_local := by omega
  have hone : f.nb_free_local - 1 = 0 → ¬3 < f.nb_free_local := by omega
  rw [length_waiting]
  unfold shift
  split
  · rename_i hzero
    simpa using hone hzero
  · split
    · rename_i hinside
      simpa using hroom.mp hinside
    · rename_i houtside
      simpa using not_not.mp (hroom.not.mp houtside)

theorem waiting_shift {f f' : FreeSockets} (h : f.shift = some f') :
    f'.waiting = f.waiting.tail := by
  have htail : f.waiting.tail = (f.free_local_sockets.drop 1).take (f.nb_free_local - 1) := by
    rw [← List.drop_one, waiting, List.drop_take]
  unfold shift at h
  split at h
  · rename_i hzero
    cases Option.some.inj h
    rw [waiting_clear, htail, hzero]
    rfl
  · split at h
    · cases Option.some.inj h
      rw [htail]
      show (memmove _ _).take (f.nb_free_local - 1) = _
      rw [memmove, List.take_append_of_le_length, List.take_take]
      · have hmin : min (f.nb_free_local - 1) ((f.nb_free_local - 1) * 2) = f.nb_free_local - 1 := by
          omega
        rw [hmin]
      · rename_i hroom
        have hroom : 1 + (f.nb_free_local - 1) * 2 ≤ 5 := hroom
        rw [List.length_take, List.length_drop, f.length_cells]
        show f.nb_free_local - 1 ≤ min ((f.nb_free_local - 1) * 2) (5 - 1)
        omega
    · cases h

end FreeSockets

/-! ## The loop of `main` -/

/-- The heartbeat of one turn; `false` when the process has ended. -/
def heartbeat (main_socket : Socket) (curtime lasttime_ping lasttime_pong : Int) : P Bool :=
  if curtime - lasttime_ping > HEARTBEAT_PERIOD then
    -- the last `PING` has not been answered
    if lasttime_ping - lasttime_pong > 0 then do
      call (.exit 0 .noPong)
      return false
    else do
      let sent ← call (.writeInt main_socket OPENGL_PING)
      if sent then return true
      else do
        call (.exit 0 .pingFailed)
        return false
  else return true

/-- The loop over the waiting sockets after a timeout. -/
def flush : List Socket → P Unit
  | [] => return ()
  | s :: rest => do
      call (.close s)
      flush rest

/-- The message of the host; `false` when the process has ended.  The time of a `PONG` is put
into a variable of this turn and not looked at any more. -/
def readCommand (main_socket : Socket) : P Bool := do
  let nop ← call (.readInt main_socket)
  match nop with
  | none => do
      call (.exit 0 .hangUp)
      return false
  | some nop =>
      if nop = OPENGL_PING then do
        let sent ← call (.writeInt main_socket OPENGL_PONG)
        if sent then return true
        else do
          call (.exit 0 .pongFailed)
          return false
      else if nop = OPENGL_PONG then do
        let _ ← call .time
        return true
      else return true

def hostMessage (main_socket : Socket) (fds_read : List Socket) : P Bool :=
  if main_socket ∈ fds_read then readCommand main_socket else return true

/-- The calls that have to do with the main connection and the clock only, new connections
apart. -/
def Quiet : Call → Prop
  | .time => True
  | .readInt _ => True
  | .writeInt _ v => v ≠ TCPCLI_NEW
  | .exit _ _ => True
  | _ => False

theorem heartbeat_quiet (main_socket : Socket) (curtime lasttime_ping lasttime_pong : Int) :
    (heartbeat main_socket curtime lasttime_ping lasttime_pong).Only Quiet := by
  unfold heartbeat
  split
  · split
    · exact ⟨trivial, fun _ => trivial⟩
    · refine ⟨(by decide : OPENGL_PING ≠ TCPCLI_NEW), fun sent => ?_⟩
      cases sent with
      | true => exact trivial
      | false => exact ⟨trivial, fun _ => trivial⟩
  · exact trivial

theorem readCommand_quiet (main_socket : Socket) : (readCommand main_socket).Only Quiet := by
  refine ⟨trivial, fun nop => ?_⟩
  cases nop with
  | none => exact ⟨trivial, fun _ => trivial⟩
  | some nop =>
      show Prog.Only Quiet (if nop = OPENGL_PING then _ else _)
      split
      · refine ⟨(by decide : OPENGL_PONG ≠ TCPCLI_NEW), fun sent => ?_⟩
        cases sent with
        | true => exact trivial
        | false => exact ⟨trivial, fun _ => trivial⟩
      · split
        · exact ⟨trivial, fun _ => trivial⟩
        · exact trivial

theorem hostMessage_quiet (main_socket : Socket) (fds_read : List Socket) :
    (hostMessage main_socket fds_read).Only Quiet := by
  unfold hostMessage
  split
  · exact readCommand_quiet main_socket
  · exact trivial

/-- A connection of a client in the guest: it waits, and the host is told. -/
def localConnection (main_socket : Socket) (f : FreeSockets) (csocket : Socket) :
    P (Option FreeSockets) :=
  if h : f.nb_free_local < MAX_FREE_SOCKETS then do
    -- the socket is already in the array when the host is told
    let sent ← call (.writeInt main_socket TCPCLI_NEW)
    if sent then return some (f.push csocket h)
    else do
      call (.exit (-1) .commandFailed)
      return none
  else do
    call (.close csocket)
    return some f

/-- A connection of the host: it is joined with the first socket that waits. -/
def hostConnection (f : FreeSockets) (csocket : Socket) : P (Option FreeSockets) :=
  if f.nb_free_local = 0 then do
    call (.close csocket)
    return some f
  else do
    let new_cd ← call (.malloc 8)
    if new_cd then
      match f.shift with
      | none => do
          call .overrun
          return none
      | some f' => do
          let created ← call (.pthreadCreate ⟨f.first, csocket⟩)
          if created then return some f'
          else do
            -- both sockets are closed, and the array has been shifted all the same
            call (.close f.first)
            call (.close csocket)
            return some f'
    else do
      call (.close csocket)
      return some f

/-- The test for an address of the loopback network. -/
def isLoopback (s_addr : CInt) : Bool :=
  s_addr &&& 0xFF000000#32 == INADDR_LOOPBACK &&& 0xFF000000#32

/-- An accepted connection, by what `getpeername` returned. -/
def identify (main_socket : Socket) (f : FreeSockets) (csocket : Socket) :
    Option CInt → P (Option FreeSockets)
  | none => do
      call (.close csocket)
      return some f
  | some s_addr =>
      if isLoopback s_addr then localConnection main_socket f csocket
      else hostConnection f csocket

/-- A connection on the data port. -/
def newConnection (main_socket ssocket : Socket) (f : FreeSockets) : P (Option FreeSockets) := do
  let csocket ← call (.accept ssocket)
  match csocket with
  | none => return some f
  | some csocket => do
      let cli_addr ← call (.getpeername csocket)
      identify main_socket f csocket cli_addr

/-- What follows the heartbeat, by what `select` returned. -/
def dispatch (main_socket ssocket : Socket) (f : FreeSockets) :
    Except Errno (List Socket) → P (Option FreeSockets)
  -- a signal interrupts `select`, and the loop goes on
  | .error .EINTR => return some f
  | .error .other => do
      call (.exit 1 .selectFailed)
      return none
  -- the timeout has passed: the sockets that wait are given up
  | .ok [] => do
      flush f.waiting
      return some f.clear
  | .ok fds_read => do
      let goesOn ← hostMessage main_socket fds_read
      if goesOn then
        if ssocket ∈ fds_read then newConnection main_socket ssocket f else return some f
      else return none

/-- One turn of the loop.  `lasttime_ping` and `lasttime_pong` are variables of the turn and
start at 0; `select` looks at the descriptors below `ssocket + 1`. -/
def serve (main_socket ssocket : Socket) (f : FreeSockets) : P (Option FreeSockets) := do
  let sl ← call (.select [ssocket, main_socket] (ssocket.fd + 1) (some HEARTBEAT_PERIOD))
  let curtime ← call .time
  let goesOn ← heartbeat main_socket curtime 0 0
  if goesOn then dispatch main_socket ssocket f sl else return none

/-! ## The relay threads -/

/-- The loop `while ((wsize = write(fd_write, buff, towrite)) > 0) towrite -= wsize`; it returns
the final `towrite`.  As the writes of a block accept no more than it holds, `fuel` is one more
than the length of the block. -/
def writeLoop (fd_write : Socket) (buff : List UInt8) : Nat → Nat → P Nat
  | 0, towrite => return towrite
  | fuel + 1, towrite => do
      let wsize ← call (.write fd_write (buff.take towrite))
      if wsize > 0 then writeLoop fd_write buff fuel (towrite - wsize) else return towrite

/-- `copy_socket`; `false` for the result -1. -/
def copySocket (fd_read fd_write : Socket) : P Bool := do
  let buff ← call (.read fd_read BUFF_SIZE)
  if buff = [] then do
    call (.close fd_read)
    call (.close fd_write)
    return false
  else do
    let towrite ← writeLoop fd_write buff (buff.length + 1) buff.length
    if towrite > 0 then do
      call (.close fd_read)
      call (.close fd_write)
      return false
    else return true

/-- The parts of `conn_thread`: before the loop, one turn of it, and after it. -/
inductive Phase
  | starting
  | looping
  | stopping
  deriving DecidableEq

/-- One direction, when there is something to read. -/
def copyReady (fd_read fd_write : Socket) (set_read : List Socket) : P Bool :=
  if fd_read ∈ set_read then copySocket fd_read fd_write else return true

/-- The two directions of one turn of the loop; `false` for `break`. -/
def relay (cd : ConnDuo) (set_read : List Socket) : P Bool := do
  let goesOn ← copyReady cd.local_socket cd.host_socket set_read
  if goesOn then copyReady cd.host_socket cd.local_socket set_read else return false

def connThread (cd : ConnDuo) : Phase → P (Option Phase)
  | .starting => do
      let buff ← call (.malloc BUFF_SIZE)
      return if buff then some .looping else none
  | .looping => do
      let nfds := max cd.local_socket.fd cd.host_socket.fd + 1
      let r ← call (.select [cd.local_socket, cd.host_socket] (nfds + 1) none)
      match r with
      | .error .EINTR => return some .looping
      | .error .other => return some .stopping
      | .ok set_read => do
          let goesOn ← relay cd set_read
          return some (if goesOn then .looping else .stopping)
  -- `copy_socket` has closed both already when the loop was left after a failure of it
  | .stopping => do
      call (.close cd.local_socket)
      call (.close cd.host_socket)
      return none

end LocalOpengl
end DeviceAndroVM
