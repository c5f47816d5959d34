import DeviceAndroVM.Library.FixedRecords
import Mathlib.Data.List.FinRange
import Mathlib.Logic.Function.Basic

/-!
# The sensors module

`GenySensors` and its accelerometer (`geny_sensors.cpp`, `sensor.cpp`,
`sensor_accelerometer.cpp`), with the connections of its clients in the kernel.  The system
calls answer as the reply of a call says.  What a client sends while `poll` runs is as if it
had been sent before, since `select` may answer anything about it.  The delay, which only
`select` reads, and the properties that hold the last values are left out.

* `toFloat` — a `double` in a `float`.
* `SensorData` — `t_sensor_data` and its 32 bytes.
* `System` — the module, and the clients with what they sent and what was read of it.
* `readData`, `useLastData`, `poll` — the functions of `GenySensors`.
-/

namespace DeviceAndroVM
namespace Sensors

open Library

abbrev CInt := BitVec 32

/-! ## Numbers -/

/-- `n / 2 ^ shift`, to the nearest number, of two the even one. -/
def roundShift (n shift : Nat) : Nat :=
  let whole := n / 2 ^ shift
  let rest := 2 * (n % 2 ^ shift)
  if rest < 2 ^ shift then whole
  else if 2 ^ shift < rest then whole + 1
  else whole + whole % 2

/-- The bits of the `float` that is nearest to a `double`. -/
def toFloat (d : BitVec 64) : BitVec 32 :=
  let sign := d.toNat / 2 ^ 63 * 2 ^ 31
  let exponent := d.toNat / 2 ^ 52 % 2 ^ 11
  let fraction := d.toNat % 2 ^ 52
  BitVec.ofNat 32 (sign +
    if exponent = 2047 then
      -- infinity, or a quiet NaN
      if fraction = 0 then 0x7F800000 else 0x7FC00000 + fraction / 2 ^ 29 % 2 ^ 22
    else if 897 ≤ exponent then
      -- a carry goes into the exponent, and at last to infinity
      min 0x7F800000 (roundShift ((exponent - 896) * 2 ^ 52 + fraction) 29)
    else if exponent = 0 then roundShift fraction 925
    else roundShift (2 ^ 52 + fraction) (926 - exponent))

/-! ## Records and events -/

structure SensorData where
  sensor : BitVec 64
  x : BitVec 64
  y : BitVec 64
  z : BitVec 64
  deriving DecidableEq

def bytesOfWord (w : BitVec 64) : List UInt8 := littleEndian 8 w.toNat

def wordOfBytes (bytes : List UInt8) : BitVec 64 := BitVec.ofNat 64 (valueOf bytes)

theorem wordOfBytes_bytesOfWord (w : BitVec 64) : wordOfBytes (bytesOfWord w) = w := by
  rw [wordOfBytes, bytesOfWord, valueOf_littleEndian (by have := w.isLt; omega),
    BitVec.ofNat_toNat, BitVec.setWidth_eq]

namespace SensorData

def encode (r : SensorData) : List UInt8 :=
  bytesOfWord r.sensor ++ (bytesOfWord r.x ++ (bytesOfWord r.y ++ bytesOfWord r.z))

def decode (bytes : List UInt8) : SensorData where
  sensor := wordOfBytes (bytes.take 8)
  x := wordOfBytes ((bytes.drop 8).take 8)
  y := wordOfBytes ((bytes.drop 16).take 8)
  z := wordOfBytes ((bytes.drop 24).take 8)

theorem decode_encode (r : SensorData) : decode r.encode = r := by
  have hlen : ∀ w : BitVec 64, (bytesOfWord w).length = 8 := fun w => length_littleEndian 8 _
  have htake : ∀ w : BitVec 64, (bytesOfWord w).take 8 = bytesOfWord w := fun w =>
    List.take_of_length_le (hlen w).le
  have hdrop : ∀ (w : BitVec 64) (n : Nat), 8 ≤ n → (bytesOfWord w).drop n = [] := fun w n hn =>
    List.drop_eq_nil_of_le ((hlen w).trans_le hn)
  simp [decode, encode, List.drop_append, hlen, htake, hdrop, wordOfBytes_bytesOfWord]

/-- `t_sensor_data` in a stream; its `sizeof` is 32. -/
def layout : FixedRecord SensorData UInt8 where
  size := 32
  encode := encode
  decode := decode
  length_encode := fun r => by simp [encode, bytesOfWord]
  decode_encode := decode_encode

end SensorData

abbrev SENSORS_HANDLE_BASE : CInt := 0#32
abbrev SENSOR_TYPE_ACCELEROMETER : CInt := 1#32
abbrev MAX_CLIENTS : Nat := 8

/-- `sizeof(sensors_event_t)`. -/
abbrev eventSize : CInt := 104#32

/-- `sensors_event_t`; its `union` holds an acceleration. -/
structure Event where
  version : CInt
  sensor : CInt
  type : CInt
  timestamp : BitVec 64
  x : BitVec 32
  y : BitVec 32
  z : BitVec 32
  deriving DecidableEq

/-- `AccelerometerSensor`. -/
structure Sensor where
  lastEvent : Event
  baseEvent : Event
  enabled : Bool
  deriving DecidableEq

/-- The event of `AccelerometerSensor::generateEvent`. -/
def eventOf (r : SensorData) (timestamp : BitVec 64) : Event where
  version := eventSize
  sensor := SENSORS_HANDLE_BASE + SENSOR_TYPE_ACCELEROMETER
  type := SENSOR_TYPE_ACCELEROMETER
  timestamp := timestamp
  x := toFloat r.x
  y := toFloat r.y
  z := toFloat r.z

namespace Sensor

/-- The constructor; `enabled` is what the memory held. -/
def start (timestamp : BitVec 64) (enabled : Bool) : Sensor :=
  let baseEvent := eventOf ⟨0, 0, 0x40238d6c93a71151, 0x3fea078316a05575⟩ timestamp
  ⟨baseEvent, baseEvent, enabled⟩

def generateEvent (s : Sensor) (r : SensorData) (timestamp : BitVec 64) : Event × Sensor :=
  (eventOf r timestamp, { s with lastEvent := eventOf r timestamp })

def getLastEvent (s : Sensor) (timestamp : BitVec 64) : Event × Sensor :=
  let event := { s.lastEvent with timestamp }
  (event, { s with lastEvent := event })

def getBaseEvent (s : Sensor) (timestamp : BitVec 64) : Event × Sensor :=
  let event := { s.baseEvent with timestamp }
  (event, { s with baseEvent := event })

end Sensor

/-! ## The sensors -/

/-- The sensors by their types, in the order of the `std::map`. -/
abbrev SensorMap := List (CInt × Sensor)

/-- The call on the sensor that the map has for a type. -/
def callSensor (call : Sensor → Event × Sensor) (type : CInt) :
    SensorMap → Option (Event × SensorMap)
  | [] => none
  | (key, sensor) :: rest =>
      if key = type then some ((call sensor).1, (key, (call sensor).2) :: rest)
      else (callSensor call type rest).map fun (event, rest) => (event, (key, sensor) :: rest)

/-- The loop of `readData` over the records; the type of a record is narrowed to the key of the
map.  `i` is the next place of the output, and `clock i` the time when it is filled. -/
def readEvents (clock : Nat → BitVec 64) : Nat → List SensorData → SensorMap →
    List Event × SensorMap
  | _, [], sensors => ([], sensors)
  | i, r :: rest, sensors =>
      match callSensor (fun s => s.generateEvent r (clock i)) (r.sensor.setWidth 32) sensors with
      | none => readEvents clock i rest sensors
      | some (event, sensors) =>
          let (events, sensors) := readEvents clock (i + 1) rest sensors
          (event :: events, sensors)

/-- `useLastData` from place `i` on, with room for `count` events. -/
def useLastData (clock : Nat → BitVec 64) : Nat → Nat → SensorMap → List Event × SensorMap
  | _, 0, sensors => ([], sensors)
  | _, _, [] => ([], [])
  | i, count + 1, (key, sensor) :: rest =>
      let (event, sensor) :=
        if sensor.enabled then sensor.getLastEvent (clock i) else sensor.getBaseEvent (clock i)
      let (events, rest) := useLastData clock (i + 1) count rest
      (event :: events, (key, sensor) :: rest)

/-! ## The clients and their connections -/

/-- A client: the records that it sent, and how many of their bytes were read. -/
structure Client where
  records : List SensorData
  taken : Nat
  deriving DecidableEq

/-- The bytes that wait in the connection. -/
def Client.unread (c : Client) : List UInt8 :=
  (SensorData.layout.encodeAll c.records).drop c.taken

/-- The module, the clients by the order in which they were accepted, and the open connections
by their descriptors.  `delivered` records the events that were returned for records of clients,
each with its client. -/
structure System where
  clientsSocks : Fin MAX_CLIENTS → Nat
  serverSock : Nat
  sensors : SensorMap
  clients : List Client
  sockets : Nat → Option Nat
  delivered : List (Nat × Event)

/-- The answers to a call of `poll`: of each `select`, where it may fail or name the descriptors
that are ready; of `accept`; of each `recv`, a size, or 0 when the connection is at its end or
fails; and of the clock. -/
structure PollReply where
  selects : List (Option (Nat → Bool))
  accepted : Option Nat
  reads : List Nat
  clock : Nat → BitVec 64

namespace System

def start (serverSock : Nat) (timestamp : BitVec 64) (enabled : Bool) : System where
  clientsSocks := fun _ => 0
  serverSock := serverSock
  sensors := [(SENSOR_TYPE_ACCELEROMETER, Sensor.start timestamp enabled)]
  clients := []
  sockets := fun _ => none
  delivered := []

/-- The client at the other end of a connection, with its place in the list. -/
def client? (s : System) (fd : Nat) : Option (Nat × Client) :=
  (s.sockets fd).bind fun id => (s.clients[id]?).map fun client => (id, client)

/-- A connected client sends a record. -/
def send (s : System) (fd : Nat) (r : SensorData) : Option System :=
  (s.client? fd).map fun (id, client) =>
    { s with clients := s.clients.set id { client with records := client.records ++ [r] } }

def close (s : System) (c : Fin MAX_CLIENTS) : System :=
  { s with
    clientsSocks := Function.update s.clientsSocks c 0
    sockets := Function.update s.sockets (s.clientsSocks c) none }

/-- `readData` for the client in slot `c`, with room for `count` events from place `first` on;
without a result, `readSize` is no answer that `recv` can give. -/
def readData (s : System) (clock : Nat → BitVec 64) (c : Fin MAX_CLIENTS)
    (first count readSize : Nat) : Option (System × List (Nat × Event)) :=
  if readSize = 0 then some (s.close c, [])
  else
    (s.client? (s.clientsSocks c)).bind fun (id, client) =>
      if readSize ≤ SensorData.layout.size * count ∧ readSize ≤ client.unread.length then
        let rawData := client.unread.take readSize
        let s := { s with
          clients := s.clients.set id { client with taken := client.taken + readSize } }
        if readSize % SensorData.layout.size ≠ 0 then some (s, [])
        else
          let eventsToRead := readSize / SensorData.layout.size
          let (events, sensors) :=
            readEvents clock first (SensorData.layout.decodeAll eventsToRead rawData) s.sensors
          some ({ s with sensors }, events.map fun event => (id, event))
      else none

/-- The descriptors that `select` watches. -/
def watches (s : System) (fd : Nat) : Bool :=
  decide (fd = s.serverSock) || decide (0 < fd ∧ ∃ c, s.clientsSocks c = fd)

def maxfd (s : System) : Nat :=
  (List.finRange MAX_CLIENTS).foldl (fun maxfd c => max maxfd (s.clientsSocks c)) s.serverSock

/-- All clients are disconnected after `select` failed. -/
def disconnectAll (s : System) : System :=
  (List.finRange MAX_CLIENTS).foldl
    (fun s c => if 0 < s.clientsSocks c then s.close c else s) s

/-- The loop of `poll` up to a `select` that does not fail, and the descriptors that are ready
then; without a result, the call waits on or the process exits. -/
def awaitReady : List (Option (Nat → Bool)) → System → Option (System × (Nat → Bool))
  | [], _ => none
  | none :: rest, s => if s.maxfd = s.serverSock then none else awaitReady rest s.disconnectAll
  | some ready :: _, s => some (s, fun fd => s.watches fd && ready fd)

/-- `acceptNewClient`; a new connection has a descriptor that was free. -/
def acceptNewClient (s : System) (accepted : Option Nat) : Option System :=
  match accepted with
  | none => some s
  | some clientSock =>
      if s.sockets clientSock = none ∧ clientSock ≠ s.serverSock then
        let clientsSocks :=
          match (List.finRange MAX_CLIENTS).find? fun c => s.clientsSocks c = 0 with
          | some c => Function.update s.clientsSocks c clientSock
          -- no slot is left: the connection stays open, and nobody reads it
          | none => s.clientsSocks
        some { s with
          clientsSocks
          clients := s.clients ++ [⟨[], 0⟩]
          sockets := Function.update s.sockets clientSock (some s.clients.length) }
      else none

/-- The part of the loop over the clients that is for one slot. -/
def readSlot (clock : Nat → BitVec 64) (readfs : Nat → Bool) (count : Nat) (c : Fin MAX_CLIENTS)
    (s : System) (reads : List Nat) (data : List (Nat × Event)) :
    Option (System × List Nat × List (Nat × Event)) :=
  if readfs (s.clientsSocks c) then
    match reads with
    | [] => none
    | readSize :: reads =>
        (s.readData clock c data.length (count - data.length) readSize).map fun (s, events) =>
          (s, reads, data ++ events)
  else some (s, reads, data)

/-- The loop of `poll` over the clients, which uses up the answers of `recv`. -/
def readClients (clock : Nat → BitVec 64) (readfs : Nat → Bool) (count : Nat) :
    List (Fin MAX_CLIENTS) → System → List Nat → List (Nat × Event) →
      Option (System × List (Nat × Event))
  | [], s, reads, data => if reads = [] then some (s, data) else none
  | c :: rest, s, reads, data =>
      (readSlot clock readfs count c s reads data).bind fun (s, reads, data) =>
        if data.length = count then if reads = [] then some (s, data) else none
        else readClients clock readfs count rest s reads data

/-- `poll`, with the events that it returns. -/
def poll (s : System) (count : Nat) (reply : PollReply) : Option (System × List Event) :=
  (awaitReady reply.selects s).bind fun (s, readfs) =>
    (if readfs s.serverSock then s.acceptNewClient reply.accepted else some s).bind fun s =>
      (readClients reply.clock readfs count (List.finRange MAX_CLIENTS) s reply.reads []).map
        fun (s, data) =>
          if data = [] then
            let (events, sensors) := useLastData reply.clock 0 count s.sensors
            ({ s with sensors }, events)
          else ({ s with delivered := s.delivered ++ data }, data.map Prod.snd)

/-- `setSensorStatus`, whatever the handle. -/
def setSensorStatus (s : System) (enabled : Bool) : System :=
  { s with sensors := s.sensors.map fun (key, sensor) =>
      if key = SENSOR_TYPE_ACCELEROMETER then (key, { sensor with enabled }) else (key, sensor) }

/-- What the clients and the sensor service do. -/
inductive Step
  | send (fd : Nat) (r : SensorData)
  | setSensorStatus (enabled : Bool)
  | poll (count : Nat) (reply : PollReply)

def step (s : System) : Step → Option System
  | .send fd r => s.send fd r
  | .setSensorStatus enabled => some (s.setSensorStatus enabled)
  | .poll count reply => (s.poll count reply).map Prod.fst

end System

end Sensors
end DeviceAndroVM
