import ErieCanalNet.Mesh.Hostname
import ErieCanalNet.Mesh.Proof.Names

/-!
# Reading the hostnames of a service

The generator prints one hostname for every segment of the trust domain, the reader knows the full
domain only: it takes a host of four parts for a pod and a host of five for a service.

* `mem_hostnames`: the hosts of a service, below `cluster.local`, are its labels and namespace
  followed by the first segments of `svc.cluster.local`;
* `hostname_decodes_iff`: all are read back but those that end in `.svc.cluster`, and those of a
  one-label name that end in `.svc` when there is a namespace `svc`.
-/

namespace Mesh

open Go K8s Policy

/-- The host of a service below some segments of the domain. -/
def hostBelow (m : MeshService) (segs : List String) : String :=
  ".".intercalate (m.name :: m.ns :: segs)

/-- The segments below which `cluster.local` gives a service a host. -/
def domainSegments : List (List String) :=
  [[], ["svc"], ["svc", "cluster"], ["svc", "cluster", "local"]]

theorem mem_hostnames {m : MeshService} {h : String}
    (hm : h ∈ getHostnamesForService "cluster.local" m false) :
    ∃ segs ∈ domainSegments, h = hostBelow m segs ∨
      h = hostBelow m segs ++ ":" ++ toString m.port.toNat := by
  have hsplit : split "cluster.local" '.' = ["cluster", "local"] := by decide
  have hsvc : ".svc" = "." ++ "svc" := by decide
  simp only [getHostnamesForService, hsplit, trustHostnames, List.mem_append, List.mem_cons,
    List.not_mem_nil, or_false, Bool.false_eq_true, if_false, false_or] at hm
  simp only [domainSegments, List.mem_cons, List.not_mem_nil, or_false, exists_eq_or_imp,
    exists_eq_left, hostBelow, String.intercalate_cons_cons, String.intercalate_singleton]
  simpa [hsvc, String.append_assoc, or_assoc] using hm

/-! ## The parts of a host -/

section Parts

variable {m : MeshService} (hname : LabelName m.name) (hns : isDNS1123Label m.ns = true)
include hname hns

/-- The parts of a host: the labels of the name, the namespace, and the segments. -/
theorem split_hostBelow {segs : List String} (hsegs : segs ∈ domainSegments) :
    split (hostBelow m segs) '.' = split m.name '.' ++ m.ns :: segs := by
  have hdots : ∀ seg ∈ segs, '.' ∉ seg.toList := by
    revert segs
    decide
  have hsep : String.singleton '.' = "." := by decide
  rcases hname with hlabel | ⟨pod, svc, hpod, hsvc, he⟩
  · rw [hostBelow, ← hsep, split_intercalate (by simp), split_eq_singleton (label_noDot hlabel),
      List.singleton_append]
    simpa [label_noDot hlabel, label_noDot hns] using hdots
  · have hjoin : hostBelow m segs = ".".intercalate (pod :: svc :: m.ns :: segs) := by
      rw [hostBelow, he, String.intercalate_cons_cons, String.intercalate_cons_cons,
        String.intercalate_cons_cons]
      simp only [String.append_assoc]
    rw [hjoin, he, ← hsep, split_cons (label_noDot hpod), split_eq_singleton (label_noDot hsvc),
      split_intercalate (by simp), List.cons_append, List.singleton_append]
    simpa [label_noDot hpod, label_noDot hsvc, label_noDot hns] using hdots

theorem hostBelow_inj {segs segs' : List String} (hsegs : segs ∈ domainSegments)
    (hsegs' : segs' ∈ domainSegments) : hostBelow m segs = hostBelow m segs' ↔ segs = segs' := by
  refine ⟨fun h => ?_, congrArg _⟩
  have hparts := congrArg (split · '.') h
  simpa [split_hostBelow hname hns hsegs, split_hostBelow hname hns hsegs'] using hparts

/-- A host has no port of its own. -/
theorem colon_notMem_hostBelow {segs : List String} (hsegs : segs ∈ domainSegments) :
    ':' ∉ (hostBelow m segs).toList := by
  have hv := hname.nameValid hns
  have hcolon : ':' ∉ m.ns.toList ∧ ':' ∉ m.name.toList :=
    ⟨hv.notMem_ns (by decide), hv.notMem_name (by decide) (by decide)⟩
  simp only [domainSegments, List.mem_cons, List.not_mem_nil, or_false] at hsegs
  rcases hsegs with rfl | rfl | rfl | rfl <;>
    simp [hostBelow, String.intercalate_cons_cons, String.toList_append, hcolon]

end Parts

theorem chopPort_of_noColon {host : String} (h : ':' ∉ host.toList) : chopPort host = host := by
  rw [chopPort, split_eq_singleton h, List.headD_cons]

theorem chopPort_append {host : String} (h : ':' ∉ host.toList) (port : String) :
    chopPort (host ++ ":" ++ port) = host := by
  rw [chopPort, show ":" = String.singleton ':' by decide, split_cons h, List.headD_cons]

/-! ## The result -/

/-- The host does not end in `.svc.cluster`; that of a one-label name does not end in `.svc` when
there is a namespace of that name. -/
def ReadBack (c : Controller) (m : MeshService) (host : String) : Prop :=
  host ≠ hostBelow m ["svc", "cluster"] ∧
    (host = hostBelow m ["svc"] → '.' ∈ m.name.toList ∨ c.getNamespace "svc" = none)

instance (c : Controller) (m : MeshService) (host : String) : Decidable (ReadBack c m host) :=
  inferInstanceAs (Decidable (_ ∧ _))

/-- The parts of a host, read. -/
theorem splitHostName_iff {c : Controller} {m : MeshService} (hname : LabelName m.name)
    (hknown : (c.getNamespace m.ns).isSome) {host : String} {segs : List String}
    (hsegs : segs ∈ domainSegments)
    (hparts : split (chopPort host) '.' = split m.name '.' ++ m.ns :: segs) :
    splitHostName (some c) host = (m.providerKey, m.subdomain) ↔ segs ≠ ["svc", "cluster"] ∧
      (segs = ["svc"] → '.' ∈ m.name.toList ∨ c.getNamespace "svc" = none) := by
  have hnone : (c.getNamespace m.ns).isNone = false := by simpa using hknown
  simp only [domainSegments, List.mem_cons, List.not_mem_nil, or_false] at hsegs
  rcases hname with hlabel | ⟨pod, svc, hpod, hsvc, he⟩
  · have hdot := label_noDot hlabel
    rw [split_eq_singleton hdot] at hparts
    rw [providerKey_of_noDot hdot, subdomain_of_noDot hdot]
    have hne := label_ne_empty hlabel
    rcases hsegs with rfl | rfl | rfl | rfl
    · simp [splitHostName, hparts, hnone]
    · cases hsv : c.getNamespace "svc" with
      | none => simp [splitHostName, hparts, hsv]
      | some n => simp [splitHostName, hparts, hsv, hdot, hne]
    · simp [splitHostName, hparts, hne]
    · simp [splitHostName, hparts]
  · have hsplit : split m.name '.' = [pod, svc] := by
      rw [he, show "." = String.singleton '.' by decide, split_cons (label_noDot hpod),
        split_eq_singleton (label_noDot hsvc)]
    have hdot : '.' ∈ m.name.toList := by simp [he, String.toList_append]
    have hkey : m.providerKey = svc ∧ m.subdomain = pod := by
      simp [MeshService.providerKey, MeshService.subdomain, hsplit]
    have hne := label_ne_empty hpod
    rw [hsplit] at hparts
    rw [hkey.1, hkey.2]
    rcases hsegs with rfl | rfl | rfl | rfl
    · simp [splitHostName, hparts, hnone]
    · simp [splitHostName, hparts, hdot]
    · simp [splitHostName, hparts, Ne.symm hne]
    · simp [splitHostName, hparts]

/-- **A hostname of a service is read back**, with or without its port, exactly when its host does
not end in `.svc.cluster` and is not taken for a host in the namespace `svc`. -/
theorem hostname_decodes_iff {c : Controller} {m : MeshService} (hname : LabelName m.name)
    (hknown : (c.getNamespace m.ns).isSome) {h : String}
    (hm : h ∈ getHostnamesForService "cluster.local" m false) :
    (getServiceFromHostname (some c) h = m.providerKey ∧
      getSubdomainFromHostname (some c) h = m.subdomain) ↔ ReadBack c m (chopPort h) := by
  have hns : isDNS1123Label m.ns = true := by
    obtain ⟨n, hn⟩ := Option.isSome_iff_exists.1 hknown
    obtain rfl : n = m.ns := by simpa using List.find?_some hn
    exact c.valid _ (List.mem_of_find?_eq_some hn)
  obtain ⟨segs, hsegs, hh⟩ := mem_hostnames hm
  have hcolon := colon_notMem_hostBelow hname hns hsegs
  have hchop : chopPort h = hostBelow m segs := by
    rcases hh with rfl | rfl
    · exact chopPort_of_noColon hcolon
    · exact chopPort_append hcolon _
  have hparts : split (chopPort h) '.' = split m.name '.' ++ m.ns :: segs := by
    rw [hchop, split_hostBelow hname hns hsegs]
  have hread := splitHostName_iff hname hknown hsegs hparts
  rw [Prod.ext_iff] at hread
  rw [getServiceFromHostname, getSubdomainFromHostname, hread, ReadBack, hchop, Ne, Ne,
    hostBelow_inj hname hns hsegs (by decide), hostBelow_inj hname hns hsegs (by decide)]

/-- The hostnames of a pod, but for those that end in `.svc.cluster`. -/
theorem hostname_decodes_pod :
    getServiceFromHostname (some ⟨["default"], by decide⟩) "db-0.db.default.svc.cluster.local:80" =
        "db" ∧
      getSubdomainFromHostname (some ⟨["default"], by decide⟩)
        "db-0.db.default.svc.cluster.local:80" = "db-0" := by
  have hname : LabelName "db-0.db" := .inr ⟨"db-0", "db", by decide, by decide, by decide⟩
  exact (hostname_decodes_iff (m := ⟨"default", "db-0.db", 80, 8080, "http", ""⟩)
    (c := ⟨["default"], by decide⟩) hname (by decide) (by decide)).2 (by decide +kernel)

/-- `web.default.svc.cluster` is read as the pod `web` of the service `default`. -/
theorem not_hostname_decodes_svc_cluster :
    "web.default.svc.cluster" ∈ getHostnamesForService "cluster.local"
        ⟨"default", "web", 80, 8080, "http", ""⟩ false ∧
      splitHostName (some ⟨["default"], by decide⟩) "web.default.svc.cluster" =
        ("default", "web") ∧
      MeshService.providerKey ⟨"default", "web", 80, 8080, "http", ""⟩ = "web" ∧
      MeshService.subdomain ⟨"default", "web", 80, 8080, "http", ""⟩ = "" := by
  decide +kernel

end Mesh
