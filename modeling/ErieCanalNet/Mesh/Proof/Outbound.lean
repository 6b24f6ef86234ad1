import Mathlib.Data.List.Induction
import ErieCanalNet.Lib.Table
import ErieCanalNet.Mesh.Outbound

/-!
# What the outbound policy holds

One lemma for each part of `outboundPolicyOf`: the traffic matches and the cluster configs are those
of the services, in order; the routes of a port are those of its services that are not spelled as
TCP; a name resolves to the addresses of the last service that has it.
-/

namespace Policy

open Go Lib Mesh

/-- The cluster of a service, with its weight. -/
def weightedClusterOf (mc : MeshCatalog) (m : MeshService) : WeightedCluster :=
  ⟨m.clusterName, upstreamWeight mc m⟩

def trafficMatchOf (mc : MeshCatalog) (m : MeshService) : TrafficMatch where
  name := m.outboundTrafficMatchName
  destinationPort := m.port.toNat
  destinationProtocol := m.protocol
  weightedClusters := [weightedClusterOf mc m]

/-- The route of a service: its hostnames, and all paths to its cluster. -/
def routePolicyOf (trustDomain : String) (mc : MeshCatalog) (m : MeshService) :
    OutboundTrafficPolicy where
  name := m.fqdn
  hostnames := getHostnamesForService trustDomain m false
  routes := [⟨wildCardRouteMatch, [weightedClusterOf mc m]⟩]

variable {trustDomain : String} {mc : MeshCatalog}

theorem outboundTrafficPolicyOf_eq (m : MeshService) :
    outboundTrafficPolicyOf trustDomain m
      [{ upstreamClusters := mergeUpstreamClusters mc m [] }] =
        some (routePolicyOf trustDomain mc m) := by
  simp [outboundTrafficPolicyOf, mergeUpstreamClusters, newOutboundTrafficPolicy,
    OutboundTrafficPolicy.addRoute, getWildCardRouteUpstreamClusters, firstClusters, clusterSet,
    routePolicyOf, weightedClusterOf]

/-! ## One service -/

section AddService

variable (acc : OutboundMeshTrafficPolicy) (m : MeshService)

theorem addService_trafficMatches : (addService trustDomain mc acc m).trafficMatches =
    acc.trafficMatches ++ [trafficMatchOf mc m] := by
  simp only [addService, outboundTrafficPolicyOf_eq]
  split <;> rfl

theorem addService_clustersConfigs : (addService trustDomain mc acc m).clustersConfigs =
    acc.clustersConfigs ++ [⟨m.clusterName, m⟩] := by
  simp only [addService, outboundTrafficPolicyOf_eq]
  split <;> rfl

theorem addService_httpRouteConfigsPerPort :
    (addService trustDomain mc acc m).httpRouteConfigsPerPort =
      if isTCP m.protocol then acc.httpRouteConfigsPerPort
      else acc.httpRouteConfigsPerPort.insert (m.port.toNat : Int)
        ((acc.httpRouteConfigsPerPort.lookup (m.port.toNat : Int)).getD [] ++
          [routePolicyOf trustDomain mc m]) := by
  simp only [addService, outboundTrafficPolicyOf_eq]
  split <;> rfl

theorem addService_servicesResolvableSet (k : String) :
    (addService trustDomain mc acc m).servicesResolvableSet[k]? =
      if m.fqdn = k ∧ (resolvableIPSet mc m).isSome then resolvableIPSet mc m
      else acc.servicesResolvableSet[k]? := by
  simp only [addService, outboundTrafficPolicyOf_eq]
  cases resolvableIPSet mc m with
  | none => cases isTCP m.protocol <;> simp
  | some set => cases isTCP m.protocol <;> simp [getElem?_insert_eq]

end AddService

/-! ## Lists of services -/

variable (services : List MeshService)

theorem outboundPolicyOf_concat (m : MeshService) :
    outboundPolicyOf trustDomain mc (services ++ [m]) =
      addService trustDomain mc (outboundPolicyOf trustDomain mc services) m := by
  simp [outboundPolicyOf]

theorem trafficMatches_outboundPolicyOf :
    (outboundPolicyOf trustDomain mc services).trafficMatches =
      services.map (trafficMatchOf mc) := by
  induction services using List.reverseRecOn with
  | nil => rfl
  | append_singleton services m ih =>
    rw [outboundPolicyOf_concat, addService_trafficMatches, ih, List.map_append, List.map_singleton]

theorem clustersConfigs_outboundPolicyOf :
    (outboundPolicyOf trustDomain mc services).clustersConfigs =
      services.map fun m => ⟨m.clusterName, m⟩ := by
  induction services using List.reverseRecOn with
  | nil => rfl
  | append_singleton services m ih =>
    rw [outboundPolicyOf_concat, addService_clustersConfigs, ih, List.map_append,
      List.map_singleton]

/-- The services with a route by hostname on a port. -/
def routedBy (port : Int) (m : MeshService) : Bool :=
  !isTCP m.protocol && (m.port.toNat : Int) == port

theorem lookup_outboundPolicyOf (port : Int) :
    ((outboundPolicyOf trustDomain mc services).httpRouteConfigsPerPort.lookup port).getD [] =
      (services.filter (routedBy port)).map (routePolicyOf trustDomain mc) := by
  induction services using List.reverseRecOn with
  | nil => rfl
  | append_singleton services m ih =>
    rw [outboundPolicyOf_concat, addService_httpRouteConfigsPerPort, List.filter_append,
      List.map_append, ← ih]
    by_cases ht : isTCP m.protocol = true
    · simp [ht, routedBy]
    · by_cases hp : (m.port.toNat : Int) = port
      · subst hp
        simp [ht, routedBy]
      · simp [ht, hp, routedBy, AList.lookup_insert_ne (Ne.symm hp)]

theorem mem_outboundPolicyOf (port : Int) :
    port ∈ (outboundPolicyOf trustDomain mc services).httpRouteConfigsPerPort ↔
      ∃ m ∈ services, routedBy port m = true := by
  induction services using List.reverseRecOn with
  | nil => simp [outboundPolicyOf]
  | append_singleton services m ih =>
    rw [outboundPolicyOf_concat, addService_httpRouteConfigsPerPort]
    simp only [List.mem_append, List.mem_singleton, or_and_right, exists_or, exists_eq_left, ← ih]
    by_cases ht : isTCP m.protocol = true
    · simp [ht, routedBy]
    · rw [if_neg ht, AList.mem_insert, or_comm, eq_comm]
      simp [ht, routedBy]

/-- The services whose name resolves to the addresses of `k`. -/
def resolvesAs (mc : MeshCatalog) (k : String) (m : MeshService) : Bool :=
  m.fqdn == k && (resolvableIPSet mc m).isSome

/-- **The addresses of a name** are those of the last service that has it. -/
theorem servicesResolvableSet_outboundPolicyOf (k : String) :
    (outboundPolicyOf trustDomain mc services).servicesResolvableSet[k]? =
      (services.filter (resolvesAs mc k)).getLast?.bind (resolvableIPSet mc) := by
  induction services using List.reverseRecOn with
  | nil => simp [outboundPolicyOf]
  | append_singleton services m ih =>
    rw [outboundPolicyOf_concat, addService_servicesResolvableSet, ih, List.filter_append]
    by_cases h : m.fqdn = k ∧ (resolvableIPSet mc m).isSome = true
    · simp [resolvesAs, h]
    · have hr : resolvesAs mc k m = false := by
        simpa [resolvesAs] using h
      simp [h, hr]

end Policy
