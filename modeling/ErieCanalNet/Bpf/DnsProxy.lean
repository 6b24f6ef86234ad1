import ErieCanalNet.Bridge.Maps
import ErieCanalNet.Lib.Packet

/-!
# The DNS proxy

`bpf/ecnet_dnsproxy.c`: the XDP program that answers the DNS queries of a node from the table
`ecnet_dns_resdb`. A frame is the list of its bytes; the offsets are those of the headers
(Ethernet 0, IPv4 14, UDP 34, DNS 42, question 54). The host is little-endian. The helpers of
the kernel are parameters: whether `bpf_xdp_adjust_tail` succeeds, the bytes it adds, and the
value of `bpf_csum_diff`.
-/

namespace Bpf

open Bridge Lib

inductive XdpAction
  | pass
  | tx
deriving DecidableEq, Repr

/-- The maps the program reads and the helpers it calls. -/
structure XdpEnv where
  resdb : ResolveTable
  endpt : EndpointTable
  adjustTailOk : Bool
  fill : Nat → Byte
  csumDiff : List Byte → BitVec 32

/-! ## Layout -/

def ethLen : Nat := 14
def ipLen : Nat := 20
def udpLen : Nat := 8
def dnsLen : Nat := 12

/-- Where the DNS header starts. -/
def dnsOff : Nat := ethLen + ipLen + udpLen

/-- Where the question starts. -/
def queryOff : Nat := dnsOff + dnsLen

/-- `sizeof(struct dns_response) + sizeof(struct in_addr)`. -/
def answerLen : Nat := 16

/-! ## Parsing -/

/-- The type and class after a name; if the packet ends before, they stay zero. -/
def typeAndClass : List Byte → BitVec 16 × BitVec 16
  | t0 :: t1 :: c0 :: c1 :: _ => (bswap16 (le16 t0 t1), bswap16 (le16 c0 c1))
  | _ => (0, 0)

/-- The key of a name and of what follows its final zero. -/
def questionKey (name rest : List Byte) : DnsQuery where
  qtype := (typeAndClass rest).1
  qclass := (typeAndClass rest).2
  name := padName name

/-- The loop of `parse_query`: `cursor` is what is left of the packet, `name` what was copied
into the zeroed key. A question that is cut off has its full length all the same. -/
def parseQueryLoop : Nat → List Byte → List Byte → DnsQuery × Int
  | 0, _, name => ({ qtype := 0, qclass := 0, name := padName name }, -1)
  | _ + 1, [], name => ({ qtype := 0, qclass := 0, name := padName name }, -1)
  | i + 1, b :: cursor, name =>
    if b = 0 then (questionKey name cursor, name.length + 1 + 2 + 2)
    else parseQueryLoop i cursor (name ++ [b])

/-- `parse_query` on the bytes from `query_start` to the end of the packet: the key and the
length of the question. -/
def parseQuery (query : List Byte) : DnsQuery × Int := parseQueryLoop maxDNSNameLength query []

/-- `match_a_records`. -/
def matchARecords (resdb : ResolveTable) (q : DnsQuery) : Option ARecord := resdb q

/-! ## Checksums -/

/-- `csum_fold_helper`: four conditional folds, then the complement of the low half. -/
def csumFoldHelper (csum : BitVec 64) : BitVec 16 :=
  let fold := fun c : BitVec 64 => if c >>> 16 ≠ 0 then (c &&& 0xffff) + (c >>> 16) else c
  ~~~((fold (fold (fold (fold csum)))).setWidth 16)

/-- `ipv4_csum` of the header bytes; the helper's `int` is sign-extended. -/
def ipv4Csum (env : XdpEnv) (header : List Byte) : BitVec 16 :=
  csumFoldHelper ((env.csumDiff header).signExtend 64)

/-- The word loop of `cal_udp_csum` and the odd byte after it. -/
def sumWords : Nat → List Byte → BitVec 32 → BitVec 32
  | n + 1, b0 :: b1 :: buf, acc => sumWords n buf (acc + (le16 b0 b1).setWidth 32)
  | _, b :: _, acc => acc + b.setWidth 32
  | _, [], acc => acc

/-- `cal_udp_csum`. -/
def calUdpCsum (frame : List Byte) : BitVec 16 :=
  let saddr := read32 frame 26
  let daddr := read32 frame 30
  let half := fun x : BitVec 32 => (x.setWidth 16).setWidth 32
  let pseudo := half saddr + half (saddr >>> 16) + half daddr + half (daddr >>> 16) +
    ((byteAt frame 23).setWidth 32 <<< 8) + (read16 frame 38).setWidth 32
  let sum := sumWords 740 (frame.drop (ethLen + ipLen)) pseudo
  ~~~(sum.setWidth 16 + (sum >>> 16).setWidth 16)

/-! ## Editing the frame -/

/-- `modify_dns_header_response`: `qr` and `ra` set, one answer. -/
def modifyDnsHeaderResponse (frame : List Byte) : List Byte :=
  let frame := patch frame 44 [byteAt frame 44 ||| 0x80]
  let frame := patch frame 45 [byteAt frame 45 ||| 0x80]
  write16 frame 48 (bswap16 1)

/-- `create_query_response`: the answer in the buffer. -/
def createQueryResponse (a : ARecord) : List Byte :=
  bytes16 (bswap16 0xc00c) ++ bytes16 (bswap16 1) ++ bytes16 (bswap16 1) ++
    bytes32 (bswap32 a.ttl) ++ bytes16 (bswap16 4) ++ bytes32 a.addr

/-- `bpf_xdp_adjust_tail` to a new length: the frame is cut, or extended by the fill bytes. -/
def adjustTail (env : XdpEnv) (frame : List Byte) (newLen : Nat) : Option (List Byte) :=
  if env.adjustTailOk then
    some (frame.take newLen ++ (List.range (newLen - frame.length)).map env.fill)
  else none

/-- `copy_to_pkt_buf`. -/
def copyToPktBuf (frame : List Byte) (dst : Nat) (src : List Byte) : List Byte :=
  if dst + src.length ≤ frame.length then patch frame dst src else frame

/-- `swap_src_dst_udp`. -/
def swapSrcDstUdp (frame : List Byte) : List Byte :=
  let source := read16 frame 34
  let dest := read16 frame 36
  write16 (write16 frame 34 dest) 36 source

/-- `swap_src_dst_mac`. -/
def swapSrcDstMac (frame : List Byte) : List Byte :=
  let dest := frame.take 6
  let source := (frame.drop 6).take 6
  patch (patch frame 6 dest) 0 source

/-- The rewrite of the headers once the answer is in place. -/
def rewriteHeaders (env : XdpEnv) (clusterIP : Addr) (frame : List Byte) : List Byte :=
  let iplen := BitVec.ofNat 16 (frame.length - ethLen)
  let udplen := BitVec.ofNat 16 (frame.length - ethLen - ipLen)
  let frame := write16 frame 16 (bswap16 iplen)
  let frame := write16 frame 38 (bswap16 udplen)
  let srcIP := read32 frame 26
  let frame := write32 frame 26 clusterIP
  let frame := write32 frame 30 srcIP
  let frame := swapSrcDstUdp frame
  let frame := swapSrcDstMac frame
  let frame := write16 frame 24 0
  let frame := write16 frame 24 (ipv4Csum env ((frame.drop ethLen).take ipLen))
  let frame := write16 frame 40 0
  write16 frame 40 (calUdpCsum frame)

/-- What the program does once the question has matched a record. -/
def respondTo (env : XdpEnv) (clusterIP : Addr) (queryLength : Nat) (a : ARecord)
    (frame : List Byte) : XdpAction × List Byte :=
  let frame := modifyDnsHeaderResponse frame
  match adjustTail env frame (queryOff + queryLength + answerLen) with
  | none => (.pass, frame)
  | some frame =>
    let frame := copyToPktBuf frame (queryOff + queryLength) (createQueryResponse a)
    if frame.length < dnsOff then (.pass, frame)
    else (.tx, rewriteHeaders env clusterIP frame)

/-! ## The program -/

/-- `ecnet_dns_proxy`: the action and the frame it leaves. -/
def ecnetDnsProxy (env : XdpEnv) (frame : List Byte) : XdpAction × List Byte :=
  if frame.length < ethLen + ipLen then (.pass, frame)
  else if read16 frame 12 ≠ bswap16 0x0800 then (.pass, frame)
  else if byteAt frame 23 ≠ 17 then (.pass, frame)
  else if frame.length < queryOff then (.pass, frame)
  else match env.endpt (read32 frame 30) with
    | none => (.pass, frame)
    | some clusterIP =>
      if read16 frame 36 = bswap16 53 then
        -- `qr` is bit 7 of the flags byte, `opcode` bits 3 to 6
        if byteAt frame 44 &&& 0xf8 = 0 then
          let (q, queryLength) := parseQuery (frame.drop queryOff)
          if queryLength < 1 then (.pass, frame)
          else match matchARecords env.resdb q with
            | none => (.pass, frame)
            | some a => respondTo env clusterIP queryLength.toNat a frame
        else (.pass, frame)
      else (.pass, frame)

end Bpf
