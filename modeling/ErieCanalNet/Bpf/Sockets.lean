import ErieCanalNet.Bridge.Maps
import ErieCanalNet.Lib.Packet

/-!
# The socket programs

`bpf/ecnet_connect.c`, `ecnet_sockops.c`, `ecnet_sockopt.c` and `ecnet_redirmsg.c`: connections to
the bridge address are sent to the node proxy, which asks for the destination the client wanted;
messages between the two ends are handed over in the host. The programs share three maps:

* `ecnet_sess_dest`: the destination a socket asked for, by its cookie;
* `ecnet_pair_dest`: the same by the addresses of the connection, from the client's side;
* `ecnet_sock_pair`: the established sockets, by the addresses from their own side.

Each context structure has its own byte orders; a program's arguments are its context, the
values of the helpers it calls (cookie, uid, whether an update succeeds) and the maps.
-/

namespace Bpf

open Bridge Lib

/-- A socket cookie. -/
abbrev Cookie := BitVec 64

/-- The macros the programs are built with. -/
structure Config where
  bridgeIP : BitVec 32 := 183763201
  proxyPort : BitVec 16 := 15001
  proxyUserID : BitVec 32 := 1600
deriving DecidableEq, Repr

/-- `struct origin_info`, the port in network order. -/
structure OriginInfo where
  ip : Addr
  port : BitVec 16
deriving DecidableEq, Repr

/-- `struct pair`, the ports in network order. -/
structure Pair where
  sip : Addr
  dip : Addr
  sport : BitVec 16
  dport : BitVec 16
deriving DecidableEq, Repr

structure Maps where
  sessDest : Cookie → Option OriginInfo
  pairDest : Pair → Option OriginInfo
  sockPair : Pair → Option Cookie

def afINET : BitVec 32 := 2

/-! ## `ecnet_connect.c` -/

/-- `struct bpf_sock_addr`: address and port in network order. -/
structure SockAddr where
  userIp4 : BitVec 32
  userPort : BitVec 32
  protocol : BitVec 32
deriving DecidableEq, Repr

def ipprotoTCP : BitVec 32 := 6

/-- What `connect4` leaves: its return value, the context and the map. -/
structure ConnectResult where
  ret : Nat
  ctx : SockAddr
  sessDest : Cookie → Option OriginInfo

/-- `ecnet_tcp_con4`. -/
def ecnetTcpCon4 (cfg : Config) (uidGid : BitVec 64) (cookie : Cookie) (updated : Bool)
    (ctx : SockAddr) (sessDest : Cookie → Option OriginInfo) : ConnectResult :=
  if bswap16 (ctx.userPort.setWidth 16) = cfg.proxyPort then ⟨1, ctx, sessDest⟩
  else if ctx.userIp4 &&& 0xff = 0x7f then ⟨1, ctx, sessDest⟩
  else if ctx.userIp4 ≠ bswap32 cfg.bridgeIP then ⟨1, ctx, sessDest⟩
  else
    let uid := uidGid &&& 0xffffffff
    if uid = 0 ∨ uid = cfg.proxyUserID.setWidth 64 then ⟨1, ctx, sessDest⟩
    else
      let origin : OriginInfo := { ip := ctx.userIp4, port := ctx.userPort.setWidth 16 }
      -- a failed update refuses the connect
      if updated then
        ⟨1, { ctx with userPort := (bswap16 cfg.proxyPort).setWidth 32 },
          Function.update sessDest cookie (some origin)⟩
      else ⟨0, ctx, sessDest⟩

/-- `ecnet_sock_connect4`. -/
def ecnetSockConnect4 (cfg : Config) (uidGid : BitVec 64) (cookie : Cookie) (updated : Bool)
    (ctx : SockAddr) (sessDest : Cookie → Option OriginInfo) : ConnectResult :=
  if ctx.protocol = ipprotoTCP then ecnetTcpCon4 cfg uidGid cookie updated ctx sessDest
  else ⟨1, ctx, sessDest⟩

/-! ## `ecnet_sockops.c` -/

/-- The `op` of a `sockops` call. -/
inductive SockOp
  | passiveEstablished
  | activeEstablished
  | other
deriving DecidableEq, Repr

/-- `struct bpf_sock_ops`: the local port in host order, the remote one in network order in the
upper half of its word. -/
structure SockOps where
  op : SockOp
  family : BitVec 32
  localIp4 : BitVec 32
  remoteIp4 : BitVec 32
  localPort : BitVec 32
  remotePort : BitVec 32
deriving DecidableEq, Repr

/-- The key of a socket, from its own side. -/
def SockOps.pair (skops : SockOps) : Pair where
  sip := skops.localIp4
  sport := bswap16 (skops.localPort.setWidth 16)
  dip := skops.remoteIp4
  dport := (skops.remotePort >>> 16).setWidth 16

/-- `ecnet_sockops4`; the results of the two updates are not looked at. -/
def ecnetSockops4 (cfg : Config) (cookie : Cookie) (pairUpdated hashUpdated : Bool)
    (skops : SockOps) (m : Maps) : Nat × Maps :=
  let bridgeIP := bswap32 cfg.bridgeIP
  if skops.localIp4 ≠ bridgeIP ∧ skops.remoteIp4 ≠ bridgeIP then (1, m)
  else
    let p := skops.pair
    let pairDest := match m.sessDest cookie with
      | some dd => if pairUpdated then Function.update m.pairDest p (some dd) else m.pairDest
      | none => m.pairDest
    -- `BPF_NOEXIST`: a key that is taken stays as it is
    let sockPair := if hashUpdated ∧ m.sockPair p = none then
        Function.update m.sockPair p (some cookie)
      else m.sockPair
    (0, { m with pairDest, sockPair })

/-- `ecnet_sockops`. -/
def ecnetSockops (cfg : Config) (cookie : Cookie) (pairUpdated hashUpdated : Bool)
    (skops : SockOps) (m : Maps) : Nat × Maps :=
  match skops.op with
  | .passiveEstablished | .activeEstablished =>
    if skops.family = afINET then ecnetSockops4 cfg cookie pairUpdated hashUpdated skops m
    else (0, m)
  | .other => (0, m)

/-! ## `ecnet_sockopt.c` -/

/-- `struct bpf_sock`: the source port in host order, the destination port in network order. -/
structure BpfSock where
  family : BitVec 32
  srcIp4 : BitVec 32
  srcPort : BitVec 32
  dstIp4 : BitVec 32
  dstPort : BitVec 16
deriving DecidableEq, Repr

/-- `struct bpf_sockopt`; `optval` is the buffer up to `optval_end`. -/
structure Sockopt where
  sk : BpfSock
  optname : Int
  optlen : Int
  optval : List Byte
  retval : Int
deriving DecidableEq, Repr

def maxOpsBuffLength : Int := 4096

def soOriginalDst : Int := 80

/-- `struct sockaddr_in` in memory. -/
def sockaddrIn (family port : BitVec 16) (addr : BitVec 32) : List Byte :=
  bytes16 family ++ bytes16 port ++ bytes32 addr ++ List.replicate 8 0

/-- The key `ecnet_sockopt4` looks up: the socket seen from its peer. -/
def BpfSock.pair (sk : BpfSock) : Pair where
  dip := sk.srcIp4
  dport := bswap16 (sk.srcPort.setWidth 16)
  sip := sk.dstIp4
  sport := sk.dstPort

/-- `ecnet_sockopt4`. -/
def ecnetSockopt4 (pairDest : Pair → Option OriginInfo) (ctx : Sockopt) : Nat × Sockopt :=
  let ctx := if ctx.optlen > maxOpsBuffLength then { ctx with optlen := maxOpsBuffLength } else ctx
  if ctx.optname ≠ soOriginalDst then (1, ctx)
  else if ctx.sk.family = afINET then
    match pairDest ctx.sk.pair with
    | some origin =>
      let ctx := { ctx with optlen := 16 }
      if ctx.optval.length < 16 then (1, ctx)
      else
        let sa := sockaddrIn (ctx.sk.family.setWidth 16) origin.port origin.ip
        (1, { ctx with retval := 0, optval := patch ctx.optval 0 sa })
    | none => (1, ctx)
  else (1, ctx)

/-! ## `ecnet_redirmsg.c` -/

/-- `struct sk_msg_md`, with the byte orders of `struct bpf_sock_ops`. -/
structure SkMsg where
  family : BitVec 32
  localIp4 : BitVec 32
  remoteIp4 : BitVec 32
  localPort : BitVec 32
  remotePort : BitVec 32
deriving DecidableEq, Repr

/-- The key of `ecnet_redirmsg`: the sender seen from its peer. -/
def SkMsg.pair (msg : SkMsg) : Pair where
  dport := bswap16 (msg.localPort.setWidth 16)
  sport := (msg.remotePort >>> 16).setWidth 16
  dip := if msg.family = afINET then msg.localIp4 else 0
  sip := if msg.family = afINET then msg.remoteIp4 else 0

/-- `ecnet_redirmsg`: the return value and the socket `bpf_msg_redirect_hash` puts the message
into; without one the message takes its usual way. -/
def ecnetRedirmsg (sockPair : Pair → Option Cookie) (msg : SkMsg) : Nat × Option Cookie :=
  (1, sockPair msg.pair)

end Bpf
