import Mathlib.Logic.Function.Basic
import ErieCanalNet.Go.Net

/-!
# The DNS maps of the bridge

`pkg/ecnet/bridge/dataplane/helpers/map.go`: the Go side of the eBPF maps `ecnet_dns_resdb` and
`ecnet_dns_endpt`. A kernel map is a function from keys to optional values. Addresses are the
32-bit words the kernel reads from the four address bytes; record keys are compared field by
field, which is bytewise comparison of the fixed layout `struct dns_query`.
-/

namespace Bridge

open Go Lib

/-- An IPv4 address as the word of its four bytes in memory. -/
abbrev Addr := BitVec 32

/-- `struct dns_query`: type and class in host order, the name padded to 256 bytes. -/
structure DnsQuery where
  qtype : BitVec 16
  qclass : BitVec 16
  name : List Byte
deriving DecidableEq, Repr

/-- `struct a_record`. -/
structure ARecord where
  addr : Addr
  ttl : BitVec 32
deriving DecidableEq, Repr

/-- `ecnet_dns_resdb`. -/
abbrev ResolveTable := DnsQuery → Option ARecord

/-- `ecnet_dns_endpt`: the cluster IP of a DNS endpoint. -/
abbrev EndpointTable := Addr → Option Addr

/-- What stops a Go program. -/
inductive GoPanic
  | nilDereference
  | indexOutOfRange
deriving DecidableEq, Repr

/-! ## Records -/

def maxDNSNameLength : Nat := 256

def typeA : BitVec 16 := 1
def typeAAAA : BitVec 16 := 28
def classINET : BitVec 16 := 1

/-- A packed name in the key's zeroed buffer. -/
def padName (packed : List Byte) : List Byte :=
  packed ++ List.replicate (maxDNSNameLength - packed.length) 0

/-- The key of a packed name. -/
def queryKey (qType : BitVec 16) (packed : List Byte) : DnsQuery :=
  { qtype := qType, qclass := classINET, name := padName packed }

section
-- `pack` is `dns.PackDomainName` into an empty buffer; `ok` says which map operations succeed.
variable (pack : List Byte → Option (List Byte)) (ok : BitVec 16 → Bool)

def updateDNSResolveEntry (bridgeIPInt : BitVec 32) (name : List Byte) (ttl : BitVec 32)
    (table : ResolveTable) : ResolveTable :=
  [typeA, typeAAAA].foldl (fun table qType =>
    match pack (name ++ [46]) with
    | none => table
    | some packed =>
      if ok qType then
        Function.update table (queryKey qType packed) (some { addr := bswap32 bridgeIPInt, ttl })
      else table) table

/-- Unlike the update, the deletion packs the name without a final dot. -/
def deleteDNSResolveEntry (name : List Byte) (table : ResolveTable) : ResolveTable :=
  [typeA, typeAAAA].foldl (fun table qType =>
    match pack name with
    | none => table
    | some packed =>
      if ok qType then Function.update table (queryKey qType packed) none else table) table

end

/-! ## Endpoints -/

/-- `ip2ptr`: a text that is no IP gives a nil pointer, an IPv6 address has no first byte to
point to. -/
def ip2ptr (ipstr : String) : Except GoPanic (Option Addr) :=
  match parseIP ipstr with
  | none => .ok none
  | some ip =>
    match ip.to4 with
    | some [a, b, c, d] => .ok (some (le32 a b c d))
    | _ => .error .indexOutOfRange

/-- The kernel refuses a nil pointer; the error is logged. -/
def updateDNSEndpointEntry (dnsEndpointIP dnsClusterIP : String) (table : EndpointTable) :
    Except GoPanic EndpointTable := do
  let dnsEIPPtr ← ip2ptr dnsEndpointIP
  let dnsCIPPtr ← ip2ptr dnsClusterIP
  match dnsEIPPtr, dnsCIPPtr with
  | some eip, some cip => return Function.update table eip (some cip)
  | _, _ => return table

def deleteDNSEndpointEntry (dnsEndpointIP : String) (table : EndpointTable) :
    Except GoPanic EndpointTable := do
  match ← ip2ptr dnsEndpointIP with
  | some eip => return Function.update table eip none
  | none => return table

end Bridge
