import ErieCanalNet.Ctrl.Generate

/-!
# Traffic matches by pointer

The source holds a traffic match by pointer, under its name in `namedTrafficMatches` and in the
slice of its port in `TrafficMatches`, and the generator writes to the match through the pointer
(`newTrafficMatch` of `policy.go`, `generatePipyOutboundTrafficRoutePolicy` of `util.go`). Here the
matches are kept beside the two indexes, and a pointer is a position among them.

`Ctrl.Generate` does without pointers: its matches are in their table, and the slice of a port is
read off it. `Ctrl.Proof.Pointers` shows that this is the same.
-/

namespace Ctrl.Pointers

open Go Lib Mesh Policy

structure OutboundTrafficPolicy where
  /-- The matches, in the order they are made in. -/
  made : List OutboundTrafficMatch := []
  namedTrafficMatches : Map String Nat := ∅
  trafficMatches : Map UInt16 (List Nat) := ∅

/-- A write through a pointer. -/
def OutboundTrafficPolicy.update (otp : OutboundTrafficPolicy) (tm : Nat)
    (f : OutboundTrafficMatch → OutboundTrafficMatch) : OutboundTrafficPolicy :=
  { otp with made := otp.made.modify tm f }

/-- The match of a name, and whether it was there before. -/
def OutboundTrafficPolicy.newTrafficMatch (otp : OutboundTrafficPolicy) (port : UInt16)
    (name : String) : OutboundTrafficPolicy × Nat × Bool :=
  let namedPort := toString port.toNat ++ "=" ++ name
  match otp.namedTrafficMatches.lookup namedPort with
  | some trafficMatch => (otp, trafficMatch, true)
  | none =>
    let trafficMatch := otp.made.length
    let trafficMatches := (otp.trafficMatches.lookup port).getD []
    ({ made := otp.made ++ [{}]
       namedTrafficMatches := otp.namedTrafficMatches.insert namedPort trafficMatch
       trafficMatches := otp.trafficMatches.insert port (trafficMatches ++ [trafficMatch]) },
      trafficMatch, false)

structure RouteState where
  otp : OutboundTrafficPolicy
  dependClusters : Map String WeightedCluster

/-- The body of the loop over the traffic matches. -/
def addTrafficMatch (order : RangeOrder) (outboundPolicy : OutboundMeshTrafficPolicy)
    (st : RouteState) (trafficMatch : TrafficMatch) : Option RouteState := do
  let destinationProtocol := toLower trafficMatch.destinationProtocol
  let trafficMatchName := if isHTTP destinationProtocol then "http" else trafficMatch.name
  let port := uint16 trafficMatch.destinationPort
  let (otp, tm, exist) := st.otp.newTrafficMatch port trafficMatchName
  let otp :=
    if exist then otp
    else (otp.update tm (·.setProtocol destinationProtocol)).update tm (·.setPort port)
  let filled ← otp.made[tm]?
  let (filled, dependClusters) ←
    routeTrafficMatch order outboundPolicy trafficMatch (filled, st.dependClusters)
  return { otp := otp.update tm fun _ => filled, dependClusters }

/-- `outbound` is the field of the `PipyConf`; the others stay as they are. -/
def generatePipyOutboundTrafficRoutePolicy (order : RangeOrder)
    (outbound : Option OutboundTrafficPolicy) (outboundPolicy : OutboundMeshTrafficPolicy) :
    Option (Option OutboundTrafficPolicy × Map String WeightedCluster) :=
  if outboundPolicy.trafficMatches.isEmpty then some (outbound, ∅)
  else do
    let st ← outboundPolicy.trafficMatches.foldlM (addTrafficMatch order outboundPolicy)
      ⟨outbound.getD {}, ∅⟩
    return (some st.otp, st.dependClusters)

end Ctrl.Pointers
