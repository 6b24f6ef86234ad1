import ErieCanalNet.Bpf.Sockets
import ErieCanalNet.Lib.Run

/-!
# Connections of a host under the socket programs

The system the socket programs run in: any number of sockets of a host that connect, are
established and accepted, are closed or disconnected and used again, in any order, and clients
of other hosts. `step` runs the program of each step on the context the kernel gives it.

What the kernel guarantees is in the guards and in the state: a live connection is found by its
two ends, so there is one for each 4-tuple, in one direction only; a new socket has a cookie no
socket had before; a connection is accepted after its client has been established. What it does
not guarantee is in the events: an update can fail, and an LRU map can lose an entry at any time.

Asking for `SO_ORIGINAL_DST` and sending a message change no map: they are questions about a
state (`ecnetSockopt4`, `ecnetRedirmsg`).
-/

namespace Bpf

open Bridge Lib

/-- One end of a connection: the address as it is in memory, the port as a number. -/
structure Endpoint where
  ip : Addr
  port : BitVec 16
deriving DecidableEq, Repr

/-- The two ends of a connection. -/
structure Tuple where
  client : Endpoint
  server : Endpoint
deriving DecidableEq, Repr

def Tuple.swap (t : Tuple) : Tuple := ⟨t.server, t.client⟩

/-! ## Contexts

The fields of the contexts, in the byte orders the kernel documents. -/

def connectCtx (dst : Endpoint) : SockAddr where
  userIp4 := dst.ip
  userPort := (bswap16 dst.port).setWidth 32
  protocol := ipprotoTCP

/-- Where the kernel connects to after the program. -/
def SockAddr.dest (ctx : SockAddr) : Endpoint where
  ip := ctx.userIp4
  port := bswap16 (ctx.userPort.setWidth 16)

def sockOps (op : SockOp) (here there : Endpoint) : SockOps where
  op := op
  family := afINET
  localIp4 := here.ip
  localPort := here.port.setWidth 32
  remoteIp4 := there.ip
  remotePort := (bswap16 there.port).setWidth 32 <<< 16

def bpfSock (here there : Endpoint) : BpfSock where
  family := afINET
  srcIp4 := here.ip
  srcPort := here.port.setWidth 32
  dstIp4 := there.ip
  dstPort := bswap16 there.port

def skMsg (here there : Endpoint) : SkMsg where
  family := afINET
  localIp4 := here.ip
  localPort := here.port.setWidth 32
  remoteIp4 := there.ip
  remotePort := (bswap16 there.port).setWidth 32 <<< 16

/-! ## States -/

/-- How far a connection has come; the accepted socket is gone once it is closed. -/
inductive Progress
  | connecting
  | established
  | accepted (server : Option Cookie)
deriving DecidableEq, Repr

/-- A live connection: the destination its client asked for, the client's socket while it is
open on this host. -/
structure Conn where
  asked : Endpoint
  client : Option Cookie
  progress : Progress
deriving DecidableEq, Repr

/-- The accepted socket while it is open. -/
def Conn.server (conn : Conn) : Option Cookie :=
  match conn.progress with
  | .accepted server => server
  | _ => none

/-- A socket by its cookie: not created yet, without a connection, or an end of one. -/
inductive Socket
  | unused
  | idle
  | busy (t : Tuple)
deriving DecidableEq, Repr

structure State where
  maps : Maps
  conns : Tuple → Option Conn
  sockets : Cookie → Socket

def State.init : State where
  maps := ⟨fun _ => none, fun _ => none, fun _ => none⟩
  conns := fun _ => none
  sockets := fun _ => .unused

/-- The entries of a socket leave `ecnet_sock_pair` with it. -/
def Maps.release (m : Maps) (cookie : Cookie) : Maps :=
  { m with sockPair := fun p => if m.sockPair p = some cookie then none else m.sockPair p }

/-! ## Steps -/

/-- The steps of the system. The Booleans say whether an update of a map succeeds. -/
inductive Event
  /-- A process calls `connect`; the kernel picks the local end. -/
  | connect (cookie : Cookie) (uidGid : BitVec 64) (asked here : Endpoint) (sessUpdated : Bool)
  | established (t : Tuple) (pairUpdated hashUpdated : Bool)
  /-- A client of another host has connected. -/
  | incoming (t : Tuple)
  | accept (t : Tuple) (cookie : Cookie) (pairUpdated hashUpdated : Bool)
  /-- The client's socket is closed or disconnected. -/
  | closeClient (t : Tuple)
  | closeServer (t : Tuple)
  /-- Both ends are gone. -/
  | finish (t : Tuple)
  | evictSess (cookie : Cookie)
  | evictPair (p : Pair)
deriving DecidableEq, Repr

/-- No live connection has these two ends. -/
def State.tupleFree (s : State) (t : Tuple) : Bool := (s.conns t).isNone && (s.conns t.swap).isNone

/-- The socket exists and is an end of no connection, or does not exist yet. -/
def Socket.free : Socket → Bool
  | .busy _ => false
  | _ => true

variable (cfg : Config)

/-- `connect`: the program, then the kernel's own connect to where the program left it. -/
def stepConnect (s : State) (cookie : Cookie) (uidGid : BitVec 64) (asked here : Endpoint)
    (sessUpdated : Bool) : Option State := do
  guard (s.sockets cookie).free
  let r := ecnetSockConnect4 cfg uidGid cookie sessUpdated (connectCtx asked) s.maps.sessDest
  let maps := { s.maps with sessDest := r.sessDest }
  if r.ret = 1 then
    let t : Tuple := ⟨here, r.ctx.dest⟩
    guard (s.tupleFree t)
    return { maps
             conns := Function.update s.conns t
               (some { asked, client := some cookie, progress := .connecting })
             sockets := Function.update s.sockets cookie (.busy t) }
  else return { s with maps, sockets := Function.update s.sockets cookie .idle }

/-- The client's end of a connection is established. -/
def stepEstablished (s : State) (t : Tuple) (pairUpdated hashUpdated : Bool) : Option State := do
  let conn ← s.conns t
  let cookie ← conn.client
  guard (conn.progress = .connecting)
  return { s with
    maps := (ecnetSockops cfg cookie pairUpdated hashUpdated
      (sockOps .activeEstablished t.client t.server) s.maps).2
    conns := Function.update s.conns t (some { conn with progress := .established }) }

/-- A client this host does not run the programs for. -/
def stepIncoming (s : State) (t : Tuple) : Option State := do
  guard (s.tupleFree t)
  return { s with
    conns := Function.update s.conns t
      (some { asked := t.server, client := none, progress := .established }) }

/-- The server's end: the kernel makes a new socket. -/
def stepAccept (s : State) (t : Tuple) (cookie : Cookie) (pairUpdated hashUpdated : Bool) :
    Option State := do
  let conn ← s.conns t
  guard (conn.progress = .established ∧ s.sockets cookie = .unused)
  return { maps := (ecnetSockops cfg cookie pairUpdated hashUpdated
             (sockOps .passiveEstablished t.server t.client) s.maps).2
           conns := Function.update s.conns t
             (some { conn with progress := .accepted (some cookie) })
           sockets := Function.update s.sockets cookie (.busy t) }

def stepCloseClient (s : State) (t : Tuple) : Option State := do
  let conn ← s.conns t
  let cookie ← conn.client
  return { maps := s.maps.release cookie
           conns := Function.update s.conns t (some { conn with client := none })
           sockets := Function.update s.sockets cookie .idle }

def stepCloseServer (s : State) (t : Tuple) : Option State := do
  let conn ← s.conns t
  let cookie ← conn.server
  return { maps := s.maps.release cookie
           conns := Function.update s.conns t (some { conn with progress := .accepted none })
           sockets := Function.update s.sockets cookie .idle }

def stepFinish (s : State) (t : Tuple) : Option State := do
  let conn ← s.conns t
  guard (conn.client = none ∧ conn.server = none)
  return { s with conns := Function.update s.conns t none }

def step (s : State) : Event → Option State
  | .connect cookie uidGid asked here sessUpdated =>
    stepConnect cfg s cookie uidGid asked here sessUpdated
  | .established t pairUpdated hashUpdated => stepEstablished cfg s t pairUpdated hashUpdated
  | .incoming t => stepIncoming s t
  | .accept t cookie pairUpdated hashUpdated => stepAccept cfg s t cookie pairUpdated hashUpdated
  | .closeClient t => stepCloseClient s t
  | .closeServer t => stepCloseServer s t
  | .finish t => stepFinish s t
  | .evictSess cookie =>
    some { s with maps := { s.maps with sessDest := Function.update s.maps.sessDest cookie none } }
  | .evictPair p =>
    some { s with maps := { s.maps with pairDest := Function.update s.maps.pairDest p none } }

/-- The states the host can reach, with the events on the way. -/
def Reaches (events : List Event) (s : State) : Prop :=
  Run (fun s e s' => step cfg s e = some s') State.init events s

end Bpf
