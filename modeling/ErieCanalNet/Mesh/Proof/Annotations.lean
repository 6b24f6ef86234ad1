import ErieCanalNet.Lib.Table
import ErieCanalNet.Mesh.Proof.Upstream

/-!
# Attributes of imported endpoints

`GetEndpoints` writes the cluster key, the path, the load-balancer type and the weight of an
endpoint to annotations, under the text and the port of its address; the fsm provider reads them
back. The keys tell the attributes and the addresses apart (`Attribute.key_inj`), but not two
endpoints of one address and port: the last of them decides for both (`lookup_annotations`).
-/

namespace Mesh

open Go K8s Multicluster Lib

/-! ## Keys -/

/-- The attributes that are annotated. -/
inductive Attribute
  | clusterKey
  | contextPath
  | lbType
  | lbWeight
deriving DecidableEq

def Attribute.key : Attribute → String → Int → String
  | .clusterKey => annotationClusterKey
  | .contextPath => annotationContextPath
  | .lbType => annotationLbType
  | .lbWeight => annotationLbWeight

def Attribute.kind : Attribute → String
  | .clusterKey => "ClusterKey"
  | .contextPath => "ContextPath"
  | .lbType => "LBType"
  | .lbWeight => "LBWeight"

theorem Attribute.key_eq (a : Attribute) (ip : String) (port : Int) :
    a.key ip port = annotationKey a.kind ip port := by cases a <;> rfl

theorem Attribute.kind_inj : ∀ {a a' : Attribute}, a.kind = a'.kind → a = a'
  | .clusterKey, .clusterKey, _ | .contextPath, .contextPath, _ | .lbType, .lbType, _
  | .lbWeight, .lbWeight, _ => rfl

theorem Attribute.slash_notMem_kind (a : Attribute) : '/' ∉ a.kind.toList := by cases a <;> decide

/-- **The keys** tell attributes and addresses apart, whatever an address looks like. -/
theorem Attribute.key_inj {a a' : Attribute} {ip ip' : String} {port port' : Int} :
    a.key ip port = a'.key ip' port' ↔ a = a' ∧ ip = ip' ∧ port = port' := by
  constructor
  · intro h
    rw [key_eq, key_eq] at h
    unfold annotationKey at h
    generalize "flomesh.io/ServiceImport/" = head at h
    have hslash : ∀ z : Int, '/' ∉ (toString z).toList := notMem_toString_int (by decide) (by decide)
    obtain ⟨h, hport⟩ := append_sep_inj_right (hslash port) (hslash port') (t := "/") rfl h
    rw [String.append_assoc, String.append_assoc, String.append_assoc, String.append_assoc,
      String.append_right_inj, ← String.append_assoc, ← String.append_assoc] at h
    obtain ⟨hkind, hip⟩ := append_sep_inj a.slash_notMem_kind a'.slash_notMem_kind (t := "/") rfl h
    exact ⟨kind_inj hkind, hip, toString_int_inj.1 hport⟩
  · intro h
    obtain ⟨rfl, rfl, rfl⟩ := h
    rfl

/-! ## Writing -/

theorem lookup_insert_eq (m : Map String String) (k k' v : String) :
    (m.insert k v).lookup k' = if k = k' then some v else m.lookup k' := by
  split
  · rename_i h
    rw [h, AList.lookup_insert]
  · rename_i h
    exact AList.lookup_insert_ne (Ne.symm h)

/-- An endpoint is at an address and port. -/
def At (ip : String) (port : Int) (ep : ImportEndpoint) : Prop :=
  ep.target.ip = ip ∧ ep.target.port = port

instance (ip : String) (port : Int) (ep : ImportEndpoint) : Decidable (At ip port ep) :=
  inferInstanceAs (Decidable (_ ∧ _))

section

variable (svc : MeshService) (lbType : LoadBalancerType) (clusterKeys : Map String Int)

/-- What is written of an endpoint. -/
def annotated (ep : ImportEndpoint) : Attribute → String
  | .clusterKey => ep.clusterKey
  | .contextPath => ep.target.path
  | .lbType => lbType.text
  | .lbWeight => toString ((lbWeight clusterKeys ep.clusterKey).getD 0)

theorem lookup_addEndpoint (entry : ImportPort) (acc : Endpoints) (ep : ImportEndpoint)
    (a : Attribute) (ip : String) (port : Int) :
    (addEndpoint svc lbType clusterKeys entry acc ep).annotations.lookup (a.key ip port) =
      if keeps svc clusterKeys ep = true ∧ At ip port ep then
        some (annotated lbType clusterKeys ep a)
      else acc.annotations.lookup (a.key ip port) := by
  unfold addEndpoint keeps
  split
  · rename_i h
    simp [h]
  · rename_i h
    cases hw : lbWeight clusterKeys ep.clusterKey with
    | none => simp
    | some w =>
      change (((((acc.annotations.insert (Attribute.clusterKey.key _ _) _).insert
        (Attribute.contextPath.key _ _) _).insert (Attribute.lbType.key _ _) _).insert
          (Attribute.lbWeight.key _ _) _).lookup _) = _
      simp only [lookup_insert_eq, Attribute.key_inj, h, Option.isSome_some]
      cases a <;> simp [annotated, At, hw]

/-- The last of the kept endpoints at an address and port. -/
def lastAt (endpoints : List ImportEndpoint) (ip : String) (port : Int) : Option ImportEndpoint :=
  (endpoints.filter fun ep => keeps svc clusterKeys ep = true ∧ At ip port ep).getLast?

/-- **An annotation** is what the last kept endpoint at its address writes. -/
theorem lookup_annotations (entry : ImportPort) (md : ObjectMeta) (endpoints : List ImportEndpoint)
    (a : Attribute) (ip : String) (port : Int) :
    (endpoints.foldl (addEndpoint svc lbType clusterKeys entry)
        { md, annotations := ∅, subsets := [] }).annotations.lookup (a.key ip port) =
      (lastAt svc clusterKeys endpoints ip port).map fun ep =>
        annotated lbType clusterKeys ep a := by
  induction endpoints using List.reverseRecOn with
  | nil => rfl
  | append_singleton endpoints ep ih =>
    rw [List.foldl_append, List.foldl_cons, List.foldl_nil, lookup_addEndpoint, ih, lastAt, lastAt,
      List.filter_append, List.getLast?_append]
    by_cases h : keeps svc clusterKeys ep = true ∧ At ip port ep
    · simp [h]
    · rw [if_neg h, List.filter_cons_of_neg (by simpa using h)]
      rfl

end

/-! ## Reading -/

/-- A key of the cache has one slash. -/
theorem slash_notMem_ns_of_getByKey {c : Multicluster.Client} {svc : MeshService}
    {imp : ServiceImport} (hi : c.serviceImports.getByKey svc.namespacedKey = some imp) :
    '/' ∉ svc.ns.toList := by
  have hkey := congrArg (fun s => s.toList.count '/') (Store.getByKey_eq_some.1 hi).2
  have hns := List.count_eq_zero.2 imp.md.slash_notMem_ns
  have hname := List.count_eq_zero.2 (imp.md.slash_notMem_name)
  simp only [ObjectMeta.key, MeshService.namespacedKey, String.toList_append, List.count_append,
    hns, hname] at hkey
  exact List.count_eq_zero.1 (by omega)

section

variable {svc : MeshService} {p : GlobalTrafficPolicy} {entry : ImportPort}

/-- The endpoints of an entry that are listed: the policy allows them, and they are on the target
port that is asked for, if any. -/
def listedEndpoints (svc : MeshService) (p : GlobalTrafficPolicy) (entry : ImportPort) :
    List ImportEndpoint :=
  entry.endpoints.filter fun ep => Allowed p.targets ep.clusterKey ∧
    (svc.targetPort = 0 ∨ ep.target.port = svc.targetPort.toNat)

/-- An endpoint with its own attributes. -/
def ownEndpoint (p : GlobalTrafficPolicy) (ip : IP) (ep : ImportEndpoint) : Endpoint where
  ip := ip
  port := UInt32.ofInt ep.target.port
  weight := UInt32.ofNat ((lbWeight (clusterKeysOf p.targets) ep.clusterKey).getD 0).toNat
  clusterKey := ep.clusterKey
  lbType := p.lbType.text
  path := ep.target.path

theorem ownEndpoint_inj {ip : IP} {ep ep' : ImportEndpoint}
    (h : ep.target.port = ep'.target.port) : ownEndpoint p ip ep = ownEndpoint p ip ep' ↔
      ep.clusterKey = ep'.clusterKey ∧ ep.target.path = ep'.target.path := by
  constructor
  · intro he
    exact ⟨congrArg Endpoint.clusterKey he, congrArg Endpoint.path he⟩
  · intro he
    rw [ownEndpoint, ownEndpoint, h, he.1, he.2]

theorem keeps_iff {ep : ImportEndpoint} : keeps svc (clusterKeysOf p.targets) ep = true ↔
    Allowed p.targets ep.clusterKey ∧
      (svc.targetPort = 0 ∨ uint16 ep.target.port = svc.targetPort) := by
  rw [← lbWeight_isSome, keeps]
  by_cases ht : svc.targetPort = 0
  · simp [ht]
  · have hpos : 0 < svc.targetPort := UInt16.pos_iff_ne_zero.2 ht
    rw [Bool.and_eq_true, and_comm]
    refine and_congr_right fun _ => ?_
    simp only [ht, hpos, decide_true, Bool.true_and, Bool.not_eq_true', bne_eq_false_iff_eq,
      false_or]
    exact eq_comm

theorem listedEndpoints_eq : listedEndpoints svc p entry =
    (entry.endpoints.filter (keeps svc (clusterKeysOf p.targets))).filter fun ep =>
      svc.targetPort = 0 ∨ ep.target.port = (svc.targetPort.toNat : Int) := by
  rw [List.filter_filter]
  refine List.filter_congr fun ep _ => ?_
  rw [Bool.eq_iff_iff, decide_eq_true_eq, Bool.and_eq_true, decide_eq_true_eq, keeps_iff]
  refine ⟨fun h => ⟨h.2, h.1, h.2.imp_right fun ht => ?_⟩, fun h => ⟨h.2.1, h.1⟩⟩
  rw [ht, uint16_toNat]

/-! ### Weights -/

/-- The weights of a policy are 32-bit words. -/
def WeightsFit (p : GlobalTrafficPolicy) : Prop :=
  ∀ t ∈ p.targets, ∀ w ∈ t.weight, 0 ≤ w ∧ w < (UInt32.size : Int)

/-- The weight of a cluster is one of a target, or the default. -/
theorem of_lookup_clusterKeysOf {P : Int → Prop} (h0 : P 0) {targets : List TrafficTarget}
    (h : ∀ t ∈ targets, ∀ w ∈ t.weight, P w) {k : String} {w : Int}
    (hw : (clusterKeysOf targets).lookup k = some w) : P w := by
  induction targets using List.reverseRecOn with
  | nil => cases hw
  | append_singleton targets t ih =>
    rw [clusterKeysOf, List.foldl_append, List.foldl_cons, List.foldl_nil] at hw
    by_cases hk : k = t.clusterKey
    · rw [hk, AList.lookup_insert, Option.some.injEq] at hw
      rw [← hw]
      cases ht : t.weight with
      | none => exact h0
      | some v => exact h t (by simp) v ht
    · rw [AList.lookup_insert_ne hk] at hw
      exact ih (fun t ht => h t (List.mem_append_left _ ht)) hw

theorem WeightsFit.lbWeight (h : WeightsFit p) (k : String) :
    0 ≤ (Multicluster.lbWeight (clusterKeysOf p.targets) k).getD 0 ∧
      (Multicluster.lbWeight (clusterKeysOf p.targets) k).getD 0 < (UInt32.size : Int) := by
  have h0 : (0 : Int) ≤ 0 ∧ (0 : Int) < (UInt32.size : Int) := by decide
  cases hw : Multicluster.lbWeight (clusterKeysOf p.targets) k with
  | none => exact h0
  | some w =>
    unfold Multicluster.lbWeight at hw
    split at hw
    · obtain rfl := Option.some.inj hw
      exact h0
    · exact of_lookup_clusterKeysOf h0 h hw

theorem at_of_lastAt {endpoints : List ImportEndpoint} {clusterKeys : Map String Int} {ip : String}
    {port : Int} {last : ImportEndpoint}
    (h : lastAt svc clusterKeys endpoints ip port = some last) :
    last ∈ endpoints ∧ keeps svc clusterKeys last = true ∧ At ip port last := by
  have hmem := List.mem_of_getLast? h
  rw [List.mem_filter, decide_eq_true_eq] at hmem
  exact hmem

/-- **An endpoint read back** has the attributes of the last kept one at its address. -/
theorem endpointFrom_eq (hw : WeightsFit p) (md : ObjectMeta) {ip : IP} {address : EndpointAddress}
    {port : EndpointPort} {last : ImportEndpoint}
    (hlast : lastAt svc (clusterKeysOf p.targets) entry.endpoints address.ip port.port =
      some last) :
    Fsm.endpointFrom (entry.endpoints.foldl (addEndpoint svc p.lbType (clusterKeysOf p.targets) entry)
        { md, annotations := ∅, subsets := [] }).annotations ip address port =
      ownEndpoint p ip last := by
  have hread : ∀ a : Attribute, ((entry.endpoints.foldl (addEndpoint svc p.lbType
      (clusterKeysOf p.targets) entry) { md, annotations := ∅, subsets := [] }).annotations.lookup
        (a.key address.ip port.port)).getD "" =
          annotated p.lbType (clusterKeysOf p.targets) last a := fun a => by
    rw [lookup_annotations, hlast]
    rfl
  have hport := (at_of_lastAt hlast).2.2.2
  have hweight : (parseUint (toString ((lbWeight (clusterKeysOf p.targets)
      last.clusterKey).getD 0)) 32).1 =
        ((lbWeight (clusterKeysOf p.targets) last.clusterKey).getD 0).toNat := by
    obtain ⟨h0, hlt⟩ := hw.lbWeight last.clusterKey
    rw [parseUint_toString_int h0 ((Int.toNat_lt h0).2 hlt)]
  have hck := hread .clusterKey
  have hpath := hread .contextPath
  have htype := hread .lbType
  have hwt := hread .lbWeight
  simp only [Attribute.key, annotated] at hck hpath htype hwt
  unfold Fsm.endpointFrom ownEndpoint
  dsimp only
  rw [hck, hpath, htype, hwt, hweight, hport]

theorem mem_listedEndpoints_iff {ep : ImportEndpoint} :
    ep ∈ listedEndpoints svc p entry ↔ (ep ∈ entry.endpoints ∧
      keeps svc (clusterKeysOf p.targets) ep = true) ∧
        (svc.targetPort = 0 ∨ ep.target.port = svc.targetPort.toNat) := by
  rw [listedEndpoints_eq, List.mem_filter, List.mem_filter, decide_eq_true_eq]

/-- The last endpoint at the address of a listed one is listed. -/
theorem exists_lastAt {ep : ImportEndpoint} (h : ep ∈ listedEndpoints svc p entry) :
    ∃ last ∈ listedEndpoints svc p entry, At ep.target.ip ep.target.port last ∧
      lastAt svc (clusterKeysOf p.targets) entry.endpoints ep.target.ip ep.target.port =
        some last := by
  obtain ⟨⟨hmem, hkeep⟩, hport⟩ := mem_listedEndpoints_iff.1 h
  cases hlast : lastAt svc (clusterKeysOf p.targets) entry.endpoints ep.target.ip ep.target.port with
  | none =>
    rw [lastAt, List.getLast?_eq_none_iff, List.filter_eq_nil_iff] at hlast
    exact absurd (decide_eq_true ⟨hkeep, rfl, rfl⟩) (hlast ep hmem)
  | some last =>
    obtain ⟨hlmem, hlkeep, hat⟩ := at_of_lastAt hlast
    exact ⟨last, mem_listedEndpoints_iff.2 ⟨⟨hlmem, hlkeep⟩, hat.2 ▸ hport⟩, hat, rfl⟩

section

variable {c : Multicluster.Client} {imp : ServiceImport}
  (hp : c.getGlobalTrafficPolicy svc = some p) (hl : p.lbType ≠ .locality)
  (hi : c.serviceImports.getByKey svc.namespacedKey = some imp)
  (he : imp.ports.find? (selectsPort imp svc) = some entry)
include hp hl hi he

theorem getEndpoints_eq_foldl : c.getEndpoints svc = some (entry.endpoints.foldl
    (addEndpoint svc p.lbType (clusterKeysOf p.targets) entry)
      { md := imp.md, annotations := ∅, subsets := [] }) := by
  simp only [Multicluster.Client.getEndpoints, Multicluster.Client.getServiceTrafficPolicy, hp, hi,
    if_neg hl, he, Option.map_some]

/-- **The listed endpoints**, each with the attributes of the last one at its address. -/
theorem listEndpointsForService_eq (hw : WeightsFit p) :
    Fsm.listEndpointsForService c svc = (listedEndpoints svc p entry).filterMap fun ep =>
      (parseIP ep.target.ip).map fun ip => ownEndpoint p ip
        ((lastAt svc (clusterKeysOf p.targets) entry.endpoints ep.target.ip ep.target.port).getD
          ep) := by
  have hget := getEndpoints_eq_foldl hp hl hi he
  have hsub : svc.subdomain = "" := subdomain_of_noDot
    (noDot_of_getEndpoints (slash_notMem_ns_of_getByKey hi) hget)
  rw [Fsm.listEndpointsForService, hget]
  dsimp only
  rw [endpointsOf, subsets_foldl_addEndpoint, List.nil_append, List.flatMap_map, listedEndpoints_eq,
    List.filterMap_eq_flatMap_toList,
    flatMap_filter fun ep : ImportEndpoint =>
      svc.targetPort = 0 ∨ ep.target.port = (svc.targetPort.toNat : Int)]
  refine List.flatMap_congr fun ep hep => ?_
  simp only [subsetOf, List.flatMap_cons, List.flatMap_nil, List.append_nil, hsub, ne_eq,
    not_true_eq_false, false_and, if_false]
  by_cases hport : svc.targetPort = 0 ∨ ep.target.port = (svc.targetPort.toNat : Int)
  · rw [if_neg (by tauto), if_pos (decide_eq_true hport)]
    have hlisted : ep ∈ listedEndpoints svc p entry := by
      rw [listedEndpoints_eq]
      exact List.mem_filter.2 ⟨hep, decide_eq_true hport⟩
    obtain ⟨last, -, -, hlast⟩ := exists_lastAt hlisted
    rw [hlast]
    cases hip : parseIP ep.target.ip with
    | none => simp [hip]
    | some ip =>
      simp only [List.filterMap_cons, List.filterMap_nil, hip, Option.map_some, Option.toList_some,
        Option.getD_some, List.cons.injEq, and_true]
      exact endpointFrom_eq hw imp.md hlast
  · rw [if_pos (by tauto), if_neg (by simpa using hport)]

/-- **Every listed endpoint has its own attributes** if and only if no two of them are at one
address and port with another cluster or path. -/
theorem own_attributes_iff (hw : WeightsFit p) :
    (Fsm.listEndpointsForService c svc = (listedEndpoints svc p entry).filterMap fun ep =>
        (parseIP ep.target.ip).map fun ip => ownEndpoint p ip ep) ↔
      ∀ ep ∈ listedEndpoints svc p entry, ∀ ep' ∈ listedEndpoints svc p entry,
        (parseIP ep.target.ip).isSome = true → At ep.target.ip ep.target.port ep' →
          ep.clusterKey = ep'.clusterKey ∧ ep.target.path = ep'.target.path := by
  rw [listEndpointsForService_eq hp hl hi he hw, filterMap_map_eq_iff]
  constructor
  · intro h ep hep ep' hep' hvalid hat
    obtain ⟨ip, hip⟩ := Option.isSome_iff_exists.1 hvalid
    obtain ⟨last, -, hlat, hlast⟩ := exists_lastAt hep
    have hown := h ep hep ip hip
    have hown' := h ep' hep' ip (by rw [hat.1]; exact hip)
    rw [hat.1, hat.2, hlast, Option.getD_some] at hown'
    rw [hlast, Option.getD_some] at hown
    exact (ownEndpoint_inj hat.2.symm).1 (hown.symm.trans hown')
  · intro h ep hep ip hip
    obtain ⟨last, hlisted, hat, hlast⟩ := exists_lastAt hep
    rw [hlast, Option.getD_some]
    exact (ownEndpoint_inj hat.2.symm).2 (h ep hep last hlisted (by rw [hip]; rfl) hat) |>.symm

end

end

/-- A policy with a weight for each of two clusters. -/
def weightedPolicy : GlobalTrafficPolicy :=
  ⟨webMeta, .activeActive, [⟨"c1", some 30⟩, ⟨"c2", some 70⟩]⟩

/-- `default/web` in two clusters behind the given addresses. -/
def gatewayEntry (ip₁ ip₂ : String) : ImportPort :=
  { importEntry 80 "" 0 with
    endpoints := [⟨⟨"", ip₁, 8080, "/a"⟩, "c1"⟩, ⟨⟨"", ip₂, 8080, "/b"⟩, "c2"⟩] }

def gatewayClient (ip₁ ip₂ : String) : Multicluster.Client :=
  { serviceImports := (importCatalog [gatewayEntry ip₁ ip₂]).mc.serviceImports
    globalTrafficPolicies := ⟨[weightedPolicy], List.nodup_singleton _⟩ }

/-- Two addresses. -/
theorem own_attributes_two_gateways :
    Fsm.listEndpointsForService (gatewayClient "10.0.0.1" "10.0.0.2")
        ⟨"default", "web", 80, 0, "", ""⟩ =
      [⟨ipv4 10 0 0 1, 8080, 30, "c1", "ActiveActive", "/a"⟩,
        ⟨ipv4 10 0 0 2, 8080, 70, "c2", "ActiveActive", "/b"⟩] := by
  have hw : WeightsFit weightedPolicy := by unfold WeightsFit; decide
  have h := (@own_attributes_iff ⟨"default", "web", 80, 0, "", ""⟩ weightedPolicy _
    (gatewayClient "10.0.0.1" "10.0.0.2") _ rfl (by decide) rfl rfl hw).2 (by decide)
  rw [h]
  decide

/-- One gateway for both clusters: the first endpoint is listed with the attributes of the other. -/
theorem not_own_attributes :
    Fsm.listEndpointsForService (gatewayClient "10.0.0.1" "10.0.0.1")
        ⟨"default", "web", 80, 0, "", ""⟩ =
        [⟨ipv4 10 0 0 1, 8080, 70, "c2", "ActiveActive", "/b"⟩,
          ⟨ipv4 10 0 0 1, 8080, 70, "c2", "ActiveActive", "/b"⟩] ∧
      ((listedEndpoints ⟨"default", "web", 80, 0, "", ""⟩ weightedPolicy
          (gatewayEntry "10.0.0.1" "10.0.0.1")).filterMap fun ep =>
            (parseIP ep.target.ip).map fun ip => ownEndpoint weightedPolicy ip ep) =
        [⟨ipv4 10 0 0 1, 8080, 30, "c1", "ActiveActive", "/a"⟩,
          ⟨ipv4 10 0 0 1, 8080, 70, "c2", "ActiveActive", "/b"⟩] := by
  refine ⟨?_, ?_⟩ <;> decide

end Mesh
