import ErieCanalNet.Ctrl.Generate
import ErieCanalNet.Mesh.Proof.Names

/-!
# The texts services are found by

A cluster is looked up by the name of its service, a route by the name of its traffic match. Both
texts are printed with separators and taken apart again; for names free of the separators they give
back what they were printed from.

* `trafficMatchToMeshSvc_name`: a traffic match gives the namespace and the name of its service;
* `codecs_lossless`: both texts, for every service.
-/

namespace Ctrl

open Go Mesh Policy

/-- The name of a traffic match gives its service back, when the protocol has no underscore. -/
theorem trafficMatchToMeshSvc_name {m : MeshService} (h : Separable m) (hne : m.protocol ≠ "")
    (hp : '_' ∉ m.protocol.toList) {trafficMatch : TrafficMatch}
    (hname : trafficMatch.name = m.outboundTrafficMatchName) :
    trafficMatchToMeshSvc trafficMatch =
      some { ns := m.ns, name := m.name, protocol := toLower trafficMatch.destinationProtocol
             targetPort := uint16 trafficMatch.destinationPort } := by
  have hsep : ∀ {s : String}, '_' ∉ s.toList → ∀ c ∈ s.toList, (c == '_') = false :=
    fun hs c hc => beq_eq_false_iff_ne.2 fun he => hs (he ▸ hc)
  have hkey : '_' ∉ (m.ns ++ "/" ++ m.name).toList := by
    simp only [String.toList_append, List.mem_append, not_or]
    exact ⟨⟨fun hc => (h.ns _ hc).2.2 rfl, by decide⟩, fun hc => (h.name _ hc).2.2 rfl⟩
  have hkne : m.ns ++ "/" ++ m.name ≠ "" := fun he => by
    have hl := congrArg String.toList he
    simp [String.toList_append] at hl
  have hfields : fieldsFunc m.outboundTrafficMatchName (· == '_') =
      ["outbound", m.ns ++ "/" ++ m.name, toString m.port.toNat, m.protocol] := by
    have hshape : m.outboundTrafficMatchName = "outbound" ++ String.singleton '_' ++
        (m.ns ++ "/" ++ m.name ++ String.singleton '_' ++
          (toString m.port.toNat ++ String.singleton '_' ++ m.protocol)) := by
      rw [MeshService.outboundTrafficMatchName, show String.singleton '_' = "_" by decide,
        show "outbound_" = "outbound" ++ "_" by decide]
      simp only [String.append_assoc]
    rw [hshape, fieldsFunc_cons (by decide) (hsep (by decide)) (by decide),
      fieldsFunc_cons hkne (hsep hkey) (by decide),
      fieldsFunc_cons (toString_ne_empty _) (hsep (notMem_toString (by decide) _)) (by decide),
      fieldsFunc_last hne (hsep hp)]
  have hsplit : namespacedNameFrom (m.ns ++ "/" ++ m.name) = some (m.ns, m.name) := by
    rw [namespacedNameFrom, show "/" = String.singleton '/' by decide,
      split_cons fun hc => (h.ns _ hc).1 rfl, split_eq_singleton fun hc => (h.name _ hc).1 rfl]
  simp only [trafficMatchToMeshSvc, hname, hfields, hsplit, Option.map_some]

/-- A protocol that is routed by hostnames when lower-cased is not empty, and has no underscore. -/
theorem protocol_of_toLower {protocol p : String} (hl : toLower protocol = p) (hne : p ≠ "")
    (hp : '_' ∉ p.toList) : protocol ≠ "" ∧ '_' ∉ protocol.toList := by
  subst hl
  refine ⟨?_, fun hm => hp (mem_toLower (by decide) hm)⟩
  rintro rfl
  exact hne (by decide)

/-- **Both texts of a service are lossless**: the cluster name decodes to the namespace, the name
and the target port and tells services apart by them; a traffic match of the service, with a
protocol whose routes are looked up, gives a service of the same FQDN. -/
theorem codecs_lossless {m : MeshService} (h : Separable m) :
    clusterToMeshSvc m.clusterName =
        .ok { ns := m.ns, name := m.name, targetPort := m.targetPort } ∧
      (∀ m', Separable m' → m.clusterName = m'.clusterName →
        m.ns = m'.ns ∧ m.name = m'.name ∧ m.targetPort = m'.targetPort) ∧
      (toLower m.protocol ∈ ["http", "grpc", "https"] → ∀ trafficMatch : TrafficMatch,
        trafficMatch.name = m.outboundTrafficMatchName →
          ∃ svc, trafficMatchToMeshSvc trafficMatch = some svc ∧ svc.fqdn = m.fqdn) := by
  refine ⟨h.clusterToMeshSvc, fun m' h' => (h.clusterName_inj h').1, ?_⟩
  intro hproto trafficMatch hname
  obtain ⟨hne, hp⟩ : m.protocol ≠ "" ∧ '_' ∉ m.protocol.toList := by
    simp only [List.mem_cons, List.not_mem_nil, or_false] at hproto
    rcases hproto with hl | hl | hl
    · exact protocol_of_toLower hl (by decide) (by decide)
    · exact protocol_of_toLower hl (by decide) (by decide)
    · exact protocol_of_toLower hl (by decide) (by decide)
  exact ⟨_, trafficMatchToMeshSvc_name h hne hp hname, rfl⟩

/-- A pod of a headless service, with its protocol in capitals. -/
theorem codecs_lossless_pod :
    ∃ svc, trafficMatchToMeshSvc ⟨"outbound_default/db-0.db_80_HTTP", 80, "HTTP", []⟩ = some svc ∧
      svc.fqdn = "db-0.db.default.svc.cluster.local" := by
  have hname : LabelName "db-0.db" := .inr ⟨"db-0", "db", by decide, by decide, by decide⟩
  have h : Separable ⟨"default", "db-0.db", 80, 8080, "HTTP", ""⟩ :=
    (hname.nameValid (by decide)).separable
  exact (codecs_lossless h).2.2 (by decide) _ (by decide)

end Ctrl
