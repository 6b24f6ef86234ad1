import ErieCanalNet.Mesh.Proof.Addresses
import ErieCanalNet.Mesh.Proof.Names

/-!
# What a service depends on

The providers look a service up by its namespaced key, in every cache. Two catalogs whose caches
hold the same objects under that key (`SameAt`) give the service the same weight, the same addresses
and the same endpoints.
-/

namespace Mesh

open Go K8s Multicluster Policy

/-- The caches hold the same objects under a key. -/
structure SameAt (mc mc' : MeshCatalog) (key : String) : Prop where
  services : mc.kube.services.getByKey key = mc'.kube.services.getByKey key
  endpoints : mc.kube.endpoints.getByKey key = mc'.kube.endpoints.getByKey key
  serviceImports : mc.mc.serviceImports.getByKey key = mc'.mc.serviceImports.getByKey key
  globalTrafficPolicies :
    mc.mc.globalTrafficPolicies.getByKey key = mc'.mc.globalTrafficPolicies.getByKey key

namespace SameAt

variable {mc mc' : MeshCatalog} {m : MeshService} (h : SameAt mc mc' m.namespacedKey)
include h

theorem kube_getService : mc.kube.getService m = mc'.kube.getService m := h.services

theorem getGlobalTrafficPolicy :
    mc.mc.getGlobalTrafficPolicy m = mc'.mc.getGlobalTrafficPolicy m := h.globalTrafficPolicies

theorem mc_getEndpoints : mc.mc.getEndpoints m = mc'.mc.getEndpoints m := by
  unfold Multicluster.Client.getEndpoints Multicluster.Client.getServiceTrafficPolicy
  rw [h.getGlobalTrafficPolicy, h.serviceImports]

theorem mc_getService : mc.mc.getService m = mc'.mc.getService m := by
  unfold Multicluster.Client.getService Multicluster.Client.isLocality
  rw [h.getGlobalTrafficPolicy, h.serviceImports]

theorem kube_listEndpoints :
    Kube.listEndpointsForService mc.kube m = Kube.listEndpointsForService mc'.kube m := by
  unfold Kube.listEndpointsForService K8s.Client.getEndpoints
  rw [h.endpoints]

theorem fsm_listEndpoints :
    Fsm.listEndpointsForService mc.mc m = Fsm.listEndpointsForService mc'.mc m := by
  unfold Fsm.listEndpointsForService
  rw [h.mc_getEndpoints]

theorem fsm_getResolvableEndpoints : Fsm.getResolvableEndpointsForService mc.mc m =
    Fsm.getResolvableEndpointsForService mc'.mc m := by
  unfold Fsm.getResolvableEndpointsForService
  rw [h.mc_getService, h.fsm_listEndpoints]

theorem hasImported_eq : hasImported mc m = hasImported mc' m := by
  unfold hasImported
  rw [h.fsm_getResolvableEndpoints]

theorem addressesWith_eq (svc : Option Service) :
    addressesWith mc svc m = addressesWith mc' svc m := by
  unfold addressesWith
  rw [h.kube_listEndpoints, h.fsm_getResolvableEndpoints]

theorem upstreamWeight_eq : upstreamWeight mc m = upstreamWeight mc' m := by
  unfold upstreamWeight Multicluster.Client.getLbWeightForService
  rw [h.getGlobalTrafficPolicy]

theorem listUpstreamEndpoints :
    mc.listUpstreamEndpointsForService m = mc'.listUpstreamEndpointsForService m := by
  unfold MeshCatalog.listUpstreamEndpointsForService
  rw [h.kube_listEndpoints, h.fsm_listEndpoints]

/-- The endpoints of the cluster of a service: a cluster name shows the key. -/
theorem getUpstreamEndpoints_eq (hv : NameValid m) :
    getUpstreamEndpoints mc m.clusterName = getUpstreamEndpoints mc' m.clusterName := by
  have hkey : SameAt mc mc' (MeshService.namespacedKey
      { ns := m.ns, name := m.name, targetPort := m.targetPort }) := h
  rw [getUpstreamEndpoints, getUpstreamEndpoints, hv.clusterToMeshSvc]
  exact hkey.listUpstreamEndpoints

end SameAt

end Mesh
