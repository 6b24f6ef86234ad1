import ErieCanalNet.Lib.Dns

/-!
# UDP datagrams in Ethernet frames (RFC 791, RFC 768)

A reference decoder of frames. The IPv4 header is as long as its length field says, so that the UDP
header starts behind the options; a fragment is no datagram; the lengths of the two headers bound
the payload, and what follows in the frame is padding.
-/

namespace Ipv4

open Lib

def ethTypeIPv4 : BitVec 16 := 0x0800
def protocolUDP : Byte := 17

/-- The shortest header: the length of one without options. -/
def minHeaderLength : Nat := 20

def version (frame : List Byte) : Nat := (byteAt frame 14).toNat / 16

/-- The length of the header in bytes; the field counts words of four. -/
def headerLength (frame : List Byte) : Nat := 4 * ((byteAt frame 14).toNat % 16)

def totalLength (frame : List Byte) : Nat := (Dns.be16At frame 16).toNat

/-- The flag for more fragments and the offset of the fragment, zero for a whole datagram. -/
def fragment (frame : List Byte) : Nat := (Dns.be16At frame 20).toNat % 2 ^ 14

/-- Where the UDP header starts. -/
def udpStart (frame : List Byte) : Nat := 14 + headerLength frame

def udpLength (frame : List Byte) : Nat := (Dns.be16At frame (udpStart frame + 4)).toNat

/-- What a frame with a whole UDP datagram looks like. -/
structure HoldsUdp (frame : List Byte) : Prop where
  long : 34 ≤ frame.length
  ethType : Dns.be16At frame 12 = ethTypeIPv4
  version : version frame = 4
  header : minHeaderLength ≤ headerLength frame
  total : 14 + totalLength frame ≤ frame.length
  protocol : byteAt frame 23 = protocolUDP
  whole : fragment frame = 0
  udpHeader : headerLength frame + 8 ≤ totalLength frame
  minLength : 8 ≤ udpLength frame
  inside : headerLength frame + udpLength frame ≤ totalLength frame

instance (frame : List Byte) : Decidable (HoldsUdp frame) :=
  decidable_of_iff (34 ≤ frame.length ∧ Dns.be16At frame 12 = ethTypeIPv4 ∧ version frame = 4 ∧
      minHeaderLength ≤ headerLength frame ∧ 14 + totalLength frame ≤ frame.length ∧
      byteAt frame 23 = protocolUDP ∧ fragment frame = 0 ∧
      headerLength frame + 8 ≤ totalLength frame ∧ 8 ≤ udpLength frame ∧
      headerLength frame + udpLength frame ≤ totalLength frame)
    ⟨fun ⟨h1, h2, h3, h4, h5, h6, h7, h8, h9, h10⟩ => ⟨h1, h2, h3, h4, h5, h6, h7, h8, h9, h10⟩,
      fun ⟨h1, h2, h3, h4, h5, h6, h7, h8, h9, h10⟩ => ⟨h1, h2, h3, h4, h5, h6, h7, h8, h9, h10⟩⟩

structure Datagram where
  destPort : BitVec 16
  payload : List Byte
deriving DecidableEq, Repr

def datagram (frame : List Byte) : Datagram where
  destPort := Dns.be16At frame (udpStart frame + 2)
  payload := (frame.drop (udpStart frame + 8)).take (udpLength frame - 8)

/-- The UDP datagram of a frame. -/
def decodeUdp (frame : List Byte) : Option Datagram :=
  if HoldsUdp frame then some (datagram frame) else none

theorem decodeUdp_eq_some {frame : List Byte} {d : Datagram} :
    decodeUdp frame = some d ↔ HoldsUdp frame ∧ datagram frame = d := by
  unfold decodeUdp
  split
  · rename_i h
    rw [Option.some.injEq]
    exact ⟨fun hd => ⟨h, hd⟩, fun hd => hd.2⟩
  · rename_i h
    exact iff_of_false (fun hd => by cases hd) fun hd => h hd.1

/-- Without options the headers are where the shortest ones are. -/
theorem datagram_of_minHeader {frame : List Byte} (h : headerLength frame = minHeaderLength) :
    datagram frame = { destPort := Dns.be16At frame 36,
                       payload := (frame.drop 42).take ((Dns.be16At frame 38).toNat - 8) } := by
  rw [datagram, udpLength, udpStart, h]
  rfl

end Ipv4
