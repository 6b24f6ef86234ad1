import ErieCanalNet.Mesh.Proof.Outbound

/-!
# The addresses of the names

`servicesResolvableSet_eq`: a name resolves to the addresses of the last listed service of that name
with an imported address; the local service of the name adds its addresses, but has no part in
whether the name resolves.
-/

namespace Policy

open Go K8s Lib Mesh

/-- The addresses of a mesh service, the local ones those of the given service. -/
def addressesWith (mc : MeshCatalog) (svc : Option Service) (m : MeshService) : Finset String :=
  ((resolvableEndpoints "" svc (Kube.listEndpointsForService mc.kube m) ++
    Fsm.getResolvableEndpointsForService mc.mc m).map fun endp => endp.ip.string).toFinset

/-- An address of the service is imported. -/
def hasImported (mc : MeshCatalog) (m : MeshService) : Bool :=
  (Fsm.getResolvableEndpointsForService mc.mc m).any fun endp => 0 < endp.clusterKey.length

/-- The service whose addresses its name resolves to. -/
def GivesAddresses (mc : MeshCatalog) (m : MeshService) : Prop :=
  (mc.listMeshServices.filter fun m' => m'.fqdn == m.fqdn && hasImported mc m').getLast? = some m

theorem clusterKey_kube {c : K8s.Client} {svc : Option Service} {m : MeshService} :
    ∀ endp ∈ resolvableEndpoints "" svc (Kube.listEndpointsForService c m),
      endp.clusterKey = "" := by
  intro endp h
  unfold resolvableEndpoints at h
  split at h
  · cases h
  · split at h
    · unfold Kube.listEndpointsForService at h
      split at h
      · cases h
      · obtain ⟨ip, address, port, -, rfl⟩ := exists_of_mem_endpointsOf h
        rfl
    · split at h
      · cases h
      · obtain ⟨svcPort, -, rfl⟩ := List.mem_map.1 h
        rfl

/-- The local service has no part in whether a name resolves. -/
theorem resolvableIPSet_eq (mc : MeshCatalog) (m : MeshService) :
    resolvableIPSet mc m =
      if hasImported mc m then some (addressesWith mc (mc.kube.getService m) m) else none := by
  have hany : ((mc.getDNSResolvableServiceEndpoints m).any fun endp => 0 < endp.clusterKey.length) =
      hasImported mc m := by
    rw [MeshCatalog.getDNSResolvableServiceEndpoints, List.any_append, hasImported,
      Bool.or_eq_right_iff_imp]
    intro h
    obtain ⟨endp, hmem, hkey⟩ := List.any_eq_true.1 h
    rw [clusterKey_kube endp hmem] at hkey
    simp at hkey
  rw [resolvableIPSet, hany]
  by_cases h : hasImported mc m = true
  · have hcard : 0 < (addressesWith mc (mc.kube.getService m) m).card := by
      obtain ⟨endp, hmem, -⟩ := List.any_eq_true.1 h
      refine Finset.card_pos.2 ⟨endp.ip.string, ?_⟩
      exact List.mem_toFinset.2 (List.mem_map.2 ⟨endp, List.mem_append_right _ hmem, rfl⟩)
    rw [if_pos h, if_pos h]
    exact if_pos hcard
  · rw [if_neg h, if_neg h]

variable {trustDomain : String} {mc : MeshCatalog}

theorem filter_resolvesAs (services : List MeshService) (k : String) :
    services.filter (resolvesAs mc k) =
      services.filter fun m => m.fqdn == k && hasImported mc m := by
  refine List.filter_congr fun m _ => ?_
  rw [resolvesAs, resolvableIPSet_eq]
  split <;> simp [*]

/-- **The addresses of a name** are those of the last service with an imported one. -/
theorem servicesResolvableSet_eq (services : List MeshService) (k : String) :
    (outboundPolicyOf trustDomain mc services).servicesResolvableSet[k]? =
      (services.filter fun m => m.fqdn == k && hasImported mc m).getLast?.map fun m =>
        addressesWith mc (mc.kube.getService m) m := by
  rw [servicesResolvableSet_outboundPolicyOf, filter_resolvesAs]
  cases hlast : (services.filter fun m => m.fqdn == k && hasImported mc m).getLast? with
  | none => rfl
  | some m =>
    have hm := (List.mem_filter.1 (List.mem_of_getLast? hlast)).2
    rw [Bool.and_eq_true] at hm
    rw [Option.bind_some, Option.map_some, resolvableIPSet_eq, if_pos hm.2]

end Policy
