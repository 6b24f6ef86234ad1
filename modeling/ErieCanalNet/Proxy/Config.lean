import Mathlib.Data.List.Infix
import ErieCanalNet.Lib.Table
import ErieCanalNet.Ctrl.PipyConf

/-!
# The outbound matches of the proxy

`pipy/repo/codebase/proxy/config.js`: before the proxy uses the matches of `config.json`, it merges
those of one identity (port, protocol and destination ranges). The first pass visits all matches; a
match whose identity is part of that of an earlier one is added to that one, the stub. The second
pass lists each stub once, where its identity is met first.
-/

namespace Proxy

open Ctrl Go Lib

/-- A match of `Outbound.TrafficMatches`; a field that is missing or `null` is `none`. Of the
destination ranges only the keys are used. -/
structure TrafficMatch where
  port : Nat
  protocol : String
  destinationIPRanges : Option (Dict Unit) := none
  httpHostPort2Service : Option (Dict String) := none
  httpServiceRouteRules : Option (Dict OutboundHTTPRouteRules) := none
  /-- The target clusters. -/
  tcpServiceRouteRules : Option WeightedClusters := none
  plugins : Option (Dict String) := none
deriving DecidableEq

/-- `obj`: a copy of a match with its `Identity`. -/
structure IdentifiedMatch extends TrafficMatch where
  identity : String
deriving DecidableEq

/-- The values of an object whose keys are ports, in the order of `Object.entries`. -/
abbrev PortLists (α : Type) := List (String × List α)

/-- `Object.fromEntries(Object.entries(lists).map(([port, match]) => [port, match?.map(f)]))`. -/
def mapLists {α β : Type} {m : Type → Type} [Monad m] (f : α → m β) (lists : PortLists α) :
    m (PortLists β) :=
  lists.mapM fun entry => do return (entry.1, ← entry.2.mapM f)

/-! ## Identities -/

def uniqueIdentity (port : Nat) (protocol : String) (destinationIPRanges : Dict Unit) : String :=
  destinationIPRanges.keys.foldl
    (fun id k => id ++ ("|" ++ toString port ++ "_" ++ protocol ++ "_" ++ k ++ "|")) ""

/-- `DestinationIPRanges || { '*': null }`. -/
def TrafficMatch.ranges (o : TrafficMatch) : Dict Unit :=
  o.destinationIPRanges.getD ((∅ : Dict Unit).insert "*" ())

def TrafficMatch.ownIdentity (o : TrafficMatch) : String :=
  uniqueIdentity o.port o.protocol o.ranges

/-- `uniqueTrafficMatches`, in the order of `Object.keys`. -/
abbrev UniqueTrafficMatches := List (String × IdentifiedMatch)

/-- `k.indexOf(id) >= 0`. -/
def includes (k id : String) : Bool := decide (id.toList.IsInfix k.toList)

/-- `findIdentity`; a key that is the empty text counts as none. -/
def findIdentity (uniqueTrafficMatches : UniqueTrafficMatches) (id : String) :
    Option IdentifiedMatch :=
  match (uniqueTrafficMatches.map Prod.fst).find? fun k => includes k id with
  | none => none
  | some key => if key = "" then none else uniqueTrafficMatches.lookup key

/-! ## The first pass -/

/-- `Object.assign(target, source)`. Of a missing target it makes a `TypeError`, which is `none`
here, in a runtime that is `strict` as ECMAScript is; another one may hand it back. -/
def assign {α : Type} (strict : Bool) (target source : Option (Dict α)) : Option (Option (Dict α)) :=
  match target with
  | some target => some (some
      ((source.getD ∅).toList.foldl (fun target e => target.insert e.1 e.2) target))
  | none => if strict then none else some none

/-- What is added to a stub. -/
def IdentifiedMatch.mergeTables (strict : Bool) (stub : IdentifiedMatch) (obj : TrafficMatch) :
    Option IdentifiedMatch := do
  let httpHostPort2Service ← assign strict stub.httpHostPort2Service obj.httpHostPort2Service
  let httpServiceRouteRules ← assign strict stub.httpServiceRouteRules obj.httpServiceRouteRules
  let plugins ← assign strict stub.plugins obj.plugins
  return { stub with httpHostPort2Service, httpServiceRouteRules, plugins }

/-- The visit of a match: its `Identity` after the visit. -/
def mergeMatch (strict : Bool) (o : TrafficMatch) : StateT UniqueTrafficMatches Option String :=
  fun uniqueTrafficMatches =>
    match findIdentity uniqueTrafficMatches o.ownIdentity with
    | some stub => do
      let merged ← stub.mergeTables strict o
      return (stub.identity, upsert stub.identity (fun _ => merged) uniqueTrafficMatches)
    | none =>
      let obj : IdentifiedMatch := { o with identity := o.ownIdentity }
      return (obj.identity, upsert obj.identity (fun _ => obj) uniqueTrafficMatches)

def outTrafficMatches (strict : Bool) (trafficMatches : PortLists TrafficMatch) :
    StateT UniqueTrafficMatches Option (PortLists String) :=
  mapLists (mergeMatch strict) trafficMatches

/-! ## The second pass -/

/-- What is listed for an `Identity`; the state is `uniqueTrafficMatchesFlag`. -/
def listMatch (uniqueTrafficMatches : UniqueTrafficMatches) (identity : String) :
    StateM (List String) (Option IdentifiedMatch) := fun uniqueTrafficMatchesFlag =>
  if identity ∈ uniqueTrafficMatchesFlag then (none, uniqueTrafficMatchesFlag)
  else (uniqueTrafficMatches.lookup identity, identity :: uniqueTrafficMatchesFlag)

def outMergeTrafficMatches (uniqueTrafficMatches : UniqueTrafficMatches)
    (lists : PortLists String) : StateM (List String) (PortLists IdentifiedMatch) := do
  let lists ← mapLists (listMatch uniqueTrafficMatches) lists
  return lists.map fun entry => (entry.1, entry.2.filterMap id)

/-- `Outbound.TrafficMatches` after the merge; `none` is a configuration that does not load. -/
def mergeTrafficMatches (strict : Bool) (trafficMatches : PortLists TrafficMatch) :
    Option (PortLists IdentifiedMatch) := do
  let (lists, uniqueTrafficMatches) ← (outTrafficMatches strict trafficMatches).run []
  return ((outMergeTrafficMatches uniqueTrafficMatches lists).run []).1

end Proxy
